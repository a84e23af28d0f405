import Parley.Graph.Lint
import Parley.Proofs.Graph.Reach

/-!
# What a builder is told about a whole graph

Two findings are about how a graph hangs together, and all others are about the settings of single steps: that
nothing starts it, and that a step cannot be reached. They can be told from the others by their words
(`Parley.Finding.message_eq_noTrigger_iff`, `Parley.Finding.message_eq_unreachable_iff`).

A step is said to be unreachable if no path of edges leads to it from the first trigger step and no message enters
at it by a keyword (`Parley.Graph.unreachable_findings_eq`). The search decides whether there is such a path, in any
graph: edges may come back, lie side by side or lead to what is no step.
-/

namespace Parley

/-! ### The words of findings -/

namespace Finding

variable {f : Finding}

theorem message_eq_noTrigger_iff : f.message = "Automation has no trigger step" ↔ f = .noTrigger := by
  cases f with
  | noTrigger => simp [message]
  | reply step fault => cases fault <;> simp [message, ReplyFault.message]
  | _ => simp [message]

theorem message_eq_unreachable_iff :
    f.message = "Step is not reachable from the trigger" ↔ ∃ id, f = .unreachable id := by
  cases f with
  | unreachable id => simp [message]
  | reply step fault => cases fault <;> simp [message, ReplyFault.message]
  | _ => simp [message]

theorem message_eq_noUrl_iff : f.message = "No URL configured" ↔ ∃ id, f = .noUrl id := by
  cases f with
  | noUrl id => simp [message]
  | reply step fault => cases fault <;> simp [message, ReplyFault.message]
  | _ => simp [message]

/-- Whether a finding is about how the graph hangs together. -/
def isStructural : Finding → Bool
  | noTrigger => true
  | unreachable _ => true
  | _ => false

end Finding

/-- The findings about the settings of a step are about nothing else. -/
theorem Step.isStructural_of_mem {s : Step} {f : Finding} (mem : f ∈ s.findings) : f.isStructural = false := by
  unfold Step.findings at mem
  cases body : s.body with
  | message m =>
    rw [body] at mem
    dsimp only at mem
    split at mem
    · rw [List.mem_singleton.mp mem]
      rfl
    · cases mem
  | reply r =>
    rw [body] at mem
    obtain ⟨fault, -, rfl⟩ := List.mem_map.mp mem
    rfl
  | apiCall c =>
    rw [body] at mem
    dsimp only at mem
    split at mem
    · rw [List.mem_singleton.mp mem]
      rfl
    · cases mem
  | webhook c =>
    rw [body] at mem
    dsimp only at mem
    split at mem
    · rw [List.mem_singleton.mp mem]
      rfl
    · cases mem
  | _ => rw [body] at mem; cases mem

namespace Graph

open Relation

variable {g : Graph}

/-- A finding about the whole graph is found there and not at a step. -/
theorem mem_findings_iff {f : Finding} (structural : f.isStructural = true) :
    f ∈ g.findings ↔ f ∈ g.structureFindings := by
  rw [findings, List.mem_append, or_iff_left_iff_imp, List.mem_flatMap]
  rintro ⟨s, -, mem⟩
  cases structural.symm.trans (s.isStructural_of_mem mem)

/-! ### Trigger steps -/

/-- **The trigger step that has a say** is the first one. -/
theorem map_fst_trigger? (g : Graph) : g.trigger?.map (·.1) = g.steps.find? (·.isTrigger) := by
  unfold trigger?
  induction g.steps with
  | nil => rfl
  | cons s rest ih =>
    rw [List.findSome?_cons, List.find?_cons]
    unfold Step.trigger? Step.isTrigger
    cases s.body with
    | trigger t => rfl
    | _ => exact ih

/-! ### The warning that a step is unreachable -/

/-- The search decides whether a path leads from one step to another. -/
instance (edges : List Edge) (start id : String) : Decidable (ReflTransGen (Linked edges) start id) :=
  decidable_of_iff (id ∈ (Search.start start).found edges) Search.sound_start.mem_found_iff

theorem isEntry_eq_false_iff {s : Step} : isEntry s = false ↔ s.keywordTokens = [] := by
  rw [isEntry, Bool.not_eq_false', List.isEmpty_iff]

/-- **The steps that are said to be unreachable**, in their order: no path leads to them from the first trigger step,
and they have no keywords. Nothing is said of a graph without a trigger step. -/
theorem unreachable_findings_eq (g : Graph) :
    g.findings.filter (·.message == "Step is not reachable from the trigger") =
      match g.steps.find? (·.isTrigger) with
      | none => []
      | some trigger =>
        (g.steps.filter fun s =>
          ¬ReflTransGen (Linked g.edges) trigger.id s.id ∧ s.keywordTokens = []).map (.unreachable ·.id) := by
  have warns (f : Finding) :
      (f.message == "Step is not reachable from the trigger") = true ↔ ∃ id, f = .unreachable id := by
    rw [beq_iff_eq, Finding.message_eq_unreachable_iff]
  have settings : (g.steps.flatMap Step.findings).filter
      (·.message == "Step is not reachable from the trigger") = [] := by
    refine List.filter_eq_nil_iff.mpr fun f mem warning => ?_
    obtain ⟨s, -, mem⟩ := List.mem_flatMap.mp mem
    obtain ⟨id, rfl⟩ := (warns f).mp warning
    cases s.isStructural_of_mem mem
  rw [findings, List.filter_append, settings, List.append_nil, ← map_fst_trigger?, structureFindings]
  cases g.trigger? with
  | none =>
    refine List.filter_eq_nil_iff.mpr fun f mem warning => ?_
    obtain ⟨id, rfl⟩ := (warns f).mp warning
    dsimp only at mem
    split at mem <;> simp at mem
  | some first =>
    obtain ⟨trigger, t⟩ := first
    -- there are no other findings about the graph, and the search stands for the paths
    have all : ∀ f ∈ (g.steps.filter fun s => !(g.reach trigger.id).contains s.id && !isEntry s).map
        (Finding.unreachable ·.id), (f.message == "Step is not reachable from the trigger") = true := by
      intro f mem
      obtain ⟨s, -, rfl⟩ := List.mem_map.mp mem
      exact (warns _).mpr ⟨s.id, rfl⟩
    dsimp only [Option.map_some]
    rw [List.filter_eq_self.mpr all]
    refine congrArg (List.map _) (List.filter_congr fun s _ => ?_)
    rw [Bool.eq_iff_iff, decide_eq_true_eq, Bool.and_eq_true, Bool.not_eq_true', Bool.not_eq_true',
      ← Bool.not_eq_true, List.contains_iff_mem, mem_reach_iff, isEntry_eq_false_iff]

/-- **When a builder is told that a step is unreachable**: it has no keywords, and the search from the first
trigger step does not find it. -/
theorem unreachable_mem_findings {id : String} : .unreachable id ∈ g.findings ↔
    ∃ trigger t, g.trigger? = some (trigger, t) ∧ id ∉ g.reach trigger.id ∧
      ∃ s ∈ g.steps, s.id = id ∧ isEntry s = false := by
  have warning : .unreachable id ∈ g.findings ↔
      .unreachable id ∈ g.findings.filter (·.message == "Step is not reachable from the trigger") := by
    rw [List.mem_filter]
    exact (and_iff_left (by rw [beq_iff_eq]; rfl)).symm
  rw [warning, unreachable_findings_eq, ← map_fst_trigger?]
  cases g.trigger? with
  | none => simp
  | some first =>
    obtain ⟨trigger, t⟩ := first
    simp only [Option.map_some, List.mem_map, List.mem_filter, decide_eq_true_eq, ← mem_reach_iff,
      Finding.unreachable.injEq, isEntry_eq_false_iff]
    constructor
    · rintro ⟨s, ⟨there, missed, plain⟩, rfl⟩
      exact ⟨trigger, t, rfl, missed, s, there, rfl, plain⟩
    · rintro ⟨_, _, ⟨⟩, missed, s, there, rfl, plain⟩
      exact ⟨s, ⟨there, missed, plain⟩, rfl⟩

/-- **The search and the warning are exact.** From every step the search comes to an end, in at most one round more
than there are edges, and it has found the steps to which a path leads, over edges of buttons as well as over plain
ones. So a builder is warned that a step is unreachable, once and in the order of the steps, just if it has no
keywords and no path leads to it from the first trigger step; and never if there is no trigger step. -/
theorem warned_iff_unreachable (g : Graph) :
    (∀ start,
      (∃ n ≤ g.edges.length + 1,
        (Search.round g.edges)^[n] (Search.start start) = { seen := g.reach start, waiting := [] }) ∧
      ∀ id, id ∈ g.reach start ↔ ReflTransGen (Linked g.edges) start id) ∧
    (g.findings.filter (·.message == "Step is not reachable from the trigger")).map
        (fun f => (f.step?, f.severity)) =
      match g.steps.find? (·.isTrigger) with
      | none => []
      | some trigger =>
        (g.steps.filter fun s =>
          ¬ReflTransGen (Linked g.edges) trigger.id s.id ∧ s.keywordTokens = []).map
            fun s => (some s.id, "warning") := by
  refine ⟨fun start => ⟨g.exists_rounds_eq_reach start, fun id => mem_reach_iff⟩, ?_⟩
  rw [unreachable_findings_eq]
  cases g.steps.find? (·.isTrigger) with
  | none => rfl
  | some trigger => exact List.map_map

/-- Steps that only lead back to where they are reached from, a button, and an edge that nothing reaches. -/
example :
    let g : Graph :=
      { table := [("in", { id := "in", body := .trigger {} }),
          ("ask", { id := "ask", body := .message { text := "Go on?", buttons := [{ text := "Yes" }] } }),
          ("lost", { id := "lost", body := .branch {} }), ("back", { id := "back", body := .branch {} })]
        edges := [⟨"in", "ask", none, none⟩, ⟨"lost", "back", none, none⟩, ⟨"ask", "back", some 0, none⟩,
          ⟨"back", "in", none, none⟩, ⟨"back", "ask", none, none⟩] }
    g.findings = [.unreachable "lost"] := by
  decide +kernel

end Graph

end Parley
