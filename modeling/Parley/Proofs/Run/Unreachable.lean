import Parley.Proofs.Graph.Warnings
import Parley.Proofs.Run.Present

/-!
# Steps that are said to be unreachable

A builder is told which steps cannot be reached from the trigger. This is said of the edges: no path leads from
the first trigger step to such a step. What it means for runs depends on where they enter. A run executes only
steps that plain edges lead to from its entries (`Parley.Graph.Passes.exists_entry`), so if it enters behind the
trigger, it executes no step of which the builder is warned.

But a run may also enter at the side (`Parley.Graph.SideEntry`): at a step that a message calls by a keyword,
behind another trigger step that is called so, and at the first step that is no trigger if nothing follows the
trigger step that has a say. The search for the steps that can be reached starts at none of them. If a run
executes a step of which the builder is warned, it came to it from there (`Parley.Graph.unreachable_of_edits`).
-/

namespace Parley

variable {σ : Type} {g : Graph} {st : RunState} {P : String → Prop} {id : String}

/-! ### What a run executes -/

namespace RunState

/-- Whether all steps to come are of some kind. -/
structure Within (P : String → Prop) (st : RunState) : Prop where
  current : ∀ id, st.current = some id → P id
  pending : ∀ id ∈ st.pending, P id

theorem Within.turn {turned : RunState} (within : st.Within P) (h : st.turn = some (id, turned)) :
    P id ∧ turned.Within P := by
  rcases turn_cases h with ⟨at_id, rfl⟩ | ⟨-, rest, entries, rfl⟩
  · exact ⟨within.current _ at_id, within⟩
  · have all := List.forall_mem_cons.mp (entries ▸ within.pending)
    exact ⟨all.1, fun _ eq => Option.some.inj eq ▸ all.1, all.2⟩

end RunState

namespace Walker

/-- A round executes a step of the kind, and leaves only such steps to come. -/
theorem round_of_within {maxSteps : Int} {s : Step} {entered : RunState} (h : g.Closed)
    (follows : ∀ id next, P id → g.next? id none = some next → P next) (within : st.Within P)
    (executes : round maxSteps g st = .execute s entered) :
    P s.id ∧ ∀ o, (entered.leave g s.id o).Within P := by
  obtain ⟨id, turned, turn, found, -, -, rfl⟩ := execute_of_round executes
  obtain ⟨here, within⟩ := within.turn turn
  obtain rfl : id = s.id := h.keyed _ (Dict.mem_of_get? found)
  exact ⟨here, fun o => ⟨fun next leads => follows s.id next here leads, within.pending⟩⟩

/-- **A stretch executes only steps of the kind**, and where it waits only such steps are to come. -/
theorem walk_of_within (k : Walker σ) (h : g.Closed)
    (follows : ∀ id next, P id → g.next? id none = some next → P next) (within : st.Within P)
    (effects : List Effect) (w : σ × List String) (before : ∀ id ∈ w.2, P id) :
    (∀ id ∈ (k.noting.walk g st effects w).2.2, P id) ∧
    ∀ wait left, (k.noting.walk g st effects w).1.ending = .suspended wait left → left.Within P := by
  have noted {s : Step} {log : List String} (here : P s.id) (before : ∀ id ∈ log, P id) :
      ∀ id ∈ log ++ [s.id], P id :=
    List.forall_mem_append.mpr ⟨before, List.forall_mem_singleton.mpr here⟩
  fun_induction Walker.walk k.noting g st effects w with
  | case1 => exact ⟨before, fun _ _ eq => Ending.noConfusion eq⟩
  | case2 => exact ⟨before, fun _ _ eq => Ending.noConfusion eq⟩
  | case3 st effects w s entered eq o v did left effects' seconds label waits =>
    obtain ⟨here, after⟩ := round_of_within h follows within eq
    cases did
    refine ⟨noted here before, fun _ _ same => ?_⟩
    cases same
    exact after _
  | case4 st effects w s entered eq o v did left effects' goes ih =>
    obtain ⟨here, after⟩ := round_of_within h follows within eq
    cases did
    exact ih (after _) (noted here before)

end Walker

namespace Graph

open Walker

/-- How a run from some entries may have come so far: what the last stretch ended with, and the steps executed
since the run began. It may have been resumed wherever it waited, each time with other services, another clock
and another limit. -/
inductive Passes (g : Graph) (entries : List String) : RunResult → List String → Prop where
  | executed {σ : Type} (r : Runner σ) (message : String) (context : Context) (automation : String) (w : σ) :
    Passes g entries (r.walker.noting.execute g entries message context automation (w, [])).1
      (r.walker.noting.execute g entries message context automation (w, [])).2.2
  | resumed {σ : Type} {result : RunResult} {log : List String} {wait : Suspension} {left : RunState}
      (earlier : Passes g entries result log) (waits : result.ending = .suspended wait left)
      (r : Runner σ) (w : σ) :
    Passes g entries (r.walker.noting.resume g left (w, log)).1 (r.walker.noting.resume g left (w, log)).2.2

/-- **A run executes only what its entries lead to**, however it is resumed. -/
theorem Passes.exists_entry {entries log : List String} {result : RunResult} (h : g.Closed)
    (passes : g.Passes entries result log) (mem : id ∈ log) : ∃ entry ∈ entries, g.Leads entry id := by
  let P (id : String) : Prop := ∃ entry ∈ entries, g.Leads entry id
  have follows : ∀ id next, P id → g.next? id none = some next → P next :=
    fun _ _ ⟨entry, mem, leads⟩ follows => ⟨entry, mem, leads.tail follows⟩
  suffices all : (∀ id ∈ log, P id) ∧ ∀ wait left, result.ending = .suspended wait left → left.Within P from
    all.1 id mem
  clear mem
  induction passes with
  | executed r message context automation w =>
    unfold execute
    split
    · exact ⟨fun _ mem => absurd mem List.not_mem_nil, fun _ _ eq => Ending.noConfusion eq⟩
    · have within : RunState.Within P { automation, message, context, pending := entries } :=
        ⟨(fun _ eq => nomatch eq), fun entry mem => ⟨entry, mem, .refl⟩⟩
      exact walk_of_within r.walker h follows within [] (w, []) fun _ mem => absurd mem List.not_mem_nil
  | resumed earlier waits r w ih =>
    obtain ⟨before, left⟩ := ih
    exact walk_of_within r.walker h follows (left _ _ waits) [] (w, _) before

/-! ### Where runs enter -/

/-- What a message or an event may give as the entries of a run. -/
def Starts (g : Graph) (entries : List String) : Prop :=
  (∃ everyStep message, entries = (g.matchMessage everyStep message).entries) ∨
    ∃ integration event, entries = (g.matchEvent integration event).entries

/-- Where a run may enter besides the step behind the trigger. -/
inductive SideEntry (g : Graph) (trigger : String) : String → Prop where
  /-- At a step that a message calls by a keyword. -/
  | called {s : Step} (mem : s ∈ g.steps) (keywords : isEntry s = true) (plain : s.isTrigger = false) :
    SideEntry g trigger s.id
  /-- Behind a trigger step that is called so. -/
  | behind {s : Step} {next : String} (mem : s ∈ g.steps) (keywords : isEntry s = true)
      (is_trigger : s.isTrigger = true) (leads : g.next? s.id none = some next) :
    SideEntry g trigger next
  /-- At the first step that is no trigger, if nothing follows the trigger step that has a say. -/
  | first {s first : Step} (mem : s ∈ g.steps) (has_say : s.id = trigger ∨ isEntry s = true)
      (is_trigger : s.isTrigger = true) (ends : g.next? s.id none = none)
      (found : g.steps.find? (fun s => !s.isTrigger) = some first) :
    SideEntry g trigger first.id

variable {entries : List String} {entry : String} {trigger : Step} {t : TriggerSettings}

theorem mem_steps_of_trigger? (h : g.trigger? = some (trigger, t)) :
    trigger ∈ g.steps ∧ trigger.isTrigger = true := by
  obtain ⟨s, mem, eq⟩ := List.exists_of_findSome?_eq_some h
  obtain ⟨t', is_trigger, same⟩ := Option.map_eq_some_iff.mp eq
  cases same
  refine ⟨mem, ?_⟩
  unfold Step.trigger? at is_trigger
  unfold Step.isTrigger
  cases body : trigger.body with
  | trigger settings => rfl
  | _ => rw [body] at is_trigger; cases is_trigger

/-- A run enters behind a trigger step, or at the first step that is no trigger. -/
theorem mem_entriesAfter (mem : entry ∈ g.entriesAfter id) :
    g.next? id none = some entry ∨
      (g.next? id none = none ∧
        ∃ first, g.steps.find? (fun s => !s.isTrigger) = some first ∧ first.id = entry) := by
  unfold entriesAfter at mem
  split at mem
  · rename_i next leads
    exact .inl (List.mem_singleton.mp mem ▸ leads)
  · rename_i ends
    rw [Option.mem_toList, Option.map_eq_some_iff] at mem
    exact .inr ⟨ends, mem⟩

/-- Where a run enters for the sake of the first trigger step. -/
theorem entry_of_trigger (h : g.trigger? = some (trigger, t)) (mem : entry ∈ g.entriesAfter trigger.id) :
    g.next? trigger.id none = some entry ∨ g.SideEntry trigger.id entry := by
  obtain ⟨there, is_trigger⟩ := mem_steps_of_trigger? h
  rcases mem_entriesAfter mem with leads | ⟨ends, first, found, rfl⟩
  · exact .inl leads
  · exact .inr (.first there (.inl rfl) is_trigger ends found)

/-- Where a run enters for the sake of a step that is called. -/
theorem entry_of_called {s : Step} {text : String} (there : s ∈ g.steps) (called : calledBy text s = true)
    (mem : entry ∈ g.entriesAt s) : g.SideEntry id entry := by
  have keywords : isEntry s = true := by
    obtain ⟨k, mem, -⟩ := List.any_eq_true.mp called
    rw [isEntry, List.isEmpty_eq_false_iff.mpr (List.ne_nil_of_mem mem)]
    rfl
  unfold entriesAt at mem
  cases is_trigger : s.isTrigger with
  | true =>
    rw [is_trigger, if_pos rfl] at mem
    rcases mem_entriesAfter mem with leads | ⟨ends, first, found, rfl⟩
    · exact .behind there keywords is_trigger leads
    · exact .first there (.inr keywords) is_trigger ends found
  | false =>
    rw [is_trigger, if_neg Bool.false_ne_true, List.mem_singleton] at mem
    exact mem ▸ .called there keywords is_trigger

/-- **Where runs enter** in a graph with a trigger step: behind the first one, or at the side. -/
theorem Starts.entry_cases (starts : g.Starts entries) (h : g.trigger? = some (trigger, t))
    (mem : entry ∈ entries) : g.next? trigger.id none = some entry ∨ g.SideEntry trigger.id entry := by
  rcases starts with ⟨everyStep, message, rfl⟩ | ⟨integration, event, rfl⟩
  · unfold matchMessage at mem
    split at mem
    · dsimp only at mem
      split at mem
      · exact absurd mem List.not_mem_nil
      · obtain ⟨s, called, at_s⟩ := List.mem_flatMap.mp (Text.mem_of_mem_distinct mem)
        rw [List.mem_filter] at called
        exact .inr (entry_of_called called.1 called.2 at_s)
    · rw [matchTrigger, h] at mem
      dsimp only at mem
      split at mem
      · exact entry_of_trigger h mem
      · exact absurd mem List.not_mem_nil
  · rw [matchEvent, h] at mem
    dsimp only at mem
    split at mem
    · exact entry_of_trigger h mem
    · exact absurd mem List.not_mem_nil

/-! ### The warning -/

/-- **What the warning is worth.** However a graph was built, take a step of which its builder is told that it
is unreachable, and a run that a message or an event starts in a snapshot of the graph. If the run executes the
step, however often it was resumed, then it came to it along plain edges from one of its entries that lies at
the side and is not reached from the first trigger step either. A run that entered behind that trigger step
does not execute it. -/
theorem unreachable_of_edits (changes : List Edit) (id : String)
    (warned : .unreachable id ∈ (Graph.edits {} changes).findings) :
    let g := (Graph.edits {} changes).snapshot
    ∃ trigger, g.triggerId? = some trigger ∧
      ∀ entries, g.Starts entries → ∀ result log, g.Passes entries result log → id ∈ log →
        ∃ entry ∈ entries, g.SideEntry trigger entry ∧ entry ∉ g.reach trigger ∧ g.Leads entry id := by
  intro g
  have whole : g.Whole := (Whole.empty.edits changes).snapshot
  obtain ⟨trigger, t, first, missed, -⟩ := unreachable_mem_findings.mp warned
  have first : g.trigger? = some (trigger, t) := first
  refine ⟨trigger.id, by rw [triggerId?, first]; rfl, fun entries starts result log passes mem => ?_⟩
  obtain ⟨entry, there, leads⟩ := passes.exists_entry whole.closed mem
  have unreached : entry ∉ g.reach trigger.id := fun reached => missed (leads.mem_reach reached)
  have side := (starts.entry_cases first there).resolve_left fun next =>
    unreached (mem_reach_of_next? (g.mem_reach_self trigger.id) next)
  exact ⟨entry, there, side, unreached, leads⟩

/-- A graph in which a branch follows the trigger step, and nothing leads to another one. -/
def danglingChanges : List Edit :=
  [.addStep (Step.reader (.dict [("id", .str "in"), ("type", .str "trigger")])),
    .addStep (Step.reader (.dict [("id", .str "hello"), ("type", .str "branch")])),
    .addStep (Step.reader (.dict [("id", .str "lost"), ("type", .str "branch")])),
    .addEdge "in" "hello" none]

/-- No run executes a step to which nothing leads if no step has keywords and one follows the trigger. -/
theorem unreachable_of_edits_dangling :
    let g := (Graph.edits {} danglingChanges).snapshot
    .unreachable "lost" ∈ (Graph.edits {} danglingChanges).findings ∧
      ∀ entries, g.Starts entries → ∀ result log, g.Passes entries result log → "lost" ∉ log := by
  intro g
  have silent : ∀ s ∈ g.steps, isEntry s = false := by decide +kernel
  have leads : g.next? "in" none = some "hello" := by decide +kernel
  have first : g.triggerId? = some "in" := by decide +kernel
  have warned : .unreachable "lost" ∈ (Graph.edits {} danglingChanges).findings := by decide +kernel
  obtain ⟨trigger, first', safe⟩ := unreachable_of_edits danglingChanges "lost" warned
  cases first.symm.trans first'
  refine ⟨warned, fun entries starts result log passes mem => ?_⟩
  obtain ⟨entry, -, side, -⟩ := safe entries starts result log passes mem
  cases side with
  | called mem keywords => exact absurd ((silent _ mem).symm.trans keywords) Bool.false_ne_true
  | behind mem keywords => exact absurd ((silent _ mem).symm.trans keywords) Bool.false_ne_true
  | first mem has_say _ ends =>
    rcases has_say with same | keywords
    · rw [same, leads] at ends
      cases ends
    · exact absurd ((silent _ mem).symm.trans keywords) Bool.false_ne_true

/-- A step that is executed although its builder is told that it is unreachable: nothing follows the trigger
step, and so a run enters at the first other step. -/
example :
    let g : Graph :=
      { table := [("in", { id := "in", body := .trigger {} }),
          ("hello", { id := "hello", body := .branch {} })] }
    let r : Runner Unit := { services := {}, now := ⟨0, none⟩ }
    .unreachable "hello" ∈ g.findings ∧ (g.matchMessage false "hi").entries = ["hello"] ∧
      (r.walker.noting.execute g ["hello"] "hi" ⟨"you", none, []⟩ "a" ((), [])).2.2 = ["hello"] := by
  decide +kernel

end Graph

end Parley
