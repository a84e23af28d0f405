import Parley.Proofs.Graph.Rebuild

/-!
# Replacing a step

When a step is replaced by one of the same kind, the graph loses the edges that leave the step by a button
which the new step does not have or which is no automation button there (`Parley.Edge.LostBy`), and no others.
The plain edges of the step stay, those that lead to it stay, and so do all that do not touch it; the order is
that of before. The new step stands in the place of the old one, and its buttons show the edges that are left
(`Parley.Graph.Replaced`).

A replacement by the very step that is there costs nothing, since every edge of a whole graph that leaves by a
button leaves by an automation button, and such a step shows its edges already
(`Parley.Graph.Whole.updateStep_self`).
-/

namespace Parley

/-- An edge that is lost when its source is replaced by `s`: it leaves the step by a button that `s` does not
have, or that is no automation button of `s`. -/
def Edge.LostBy (s : Step) (e : Edge) : Prop :=
  e.source = s.id ∧ ∃ i, e.button = some i ∧
    ∀ m b, s.body = .message m → m.buttons[i]? = some b → b.kind ≠ .automation

namespace Graph

variable {g g' : Graph} {s stored : Step} {e : Edge}

/-- The edges that survive a replacement are those that it does not cost. -/
theorem survives_eq_false_iff : survives s e = false ↔ e.LostBy s := by
  have anchored (i : Nat) : buttonFault? s i ≠ none ↔
      ∀ m b, s.body = .message m → m.buttons[i]? = some b → b.kind ≠ .automation := by
    rw [Ne, buttonFault?_eq_none_iff_exists]
    push Not
    rfl
  rcases slot : e.button with _ | i
  · simp [survives, Edge.LostBy, slot]
  · simp [survives, Edge.LostBy, slot, ← anchored, ← Option.isSome_iff_ne_none]

instance (s : Step) : DecidablePred (Edge.LostBy s) := fun _ => decidable_of_iff _ survives_eq_false_iff

/-- **A graph in which a step was replaced** by `s`, which stands there as `stored`, and in which nothing else
was changed than had to be. -/
structure Replaced (g : Graph) (s stored : Step) (g' : Graph) : Prop where
  /-- The edges are the old ones in their order, without those that are lost. -/
  edges : g'.edges = g.edges.filter fun e => ¬e.LostBy s
  /-- The steps are the old ones in their order, but for the one that is replaced. -/
  steps : g'.steps = g.steps.map fun t => if t.id = s.id then stored else t
  /-- The new step is the one given, apart from where it leads. -/
  given : stored.detached = s.detached
  /-- It has no connections of its own. -/
  bare : stored.connections = []
  /-- Its buttons show the edges that are left. -/
  shown : ∀ i b, stored.buttons[i]? = some b → b.connectedTo = g'.next? s.id (some i)
  frozen : g'.frozen = g.frozen

namespace Whole

/-- The steps of a whole graph with another step in the place of one. -/
theorem steps_put (h : g.Whole) (present : s.id ∈ g.ids) :
    (g.table.put s.id stored).map (·.2) = g.steps.map fun t => if t.id = s.id then stored else t := by
  obtain ⟨old, found⟩ := Dict.mem_keys_iff.mp present
  rw [← Dict.modify_eq_put (f := fun _ => stored) h.distinct found, Graph.steps, Dict.modify, List.map_map,
    List.map_map]
  refine List.map_congr_left fun entry mem => ?_
  simp only [Function.comp_apply, h.keyed entry mem, beq_iff_eq]
  split <;> rfl

/-- **What replacing a step does.** -/
theorem replaced (h : g.Whole) {step : Reading Step} (ok : g.updateStep step = .ok (g', stored)) :
    ∃ s, step = .ok s ∧ Replaced g s stored g' := by
  have whole := h.updateStep ok
  obtain ⟨s, current, -, rfl, found, -, eq, rfl⟩ := updateStep_eq_ok.mp ok
  have own : stored.id = s.id := by rw [eq, id_attached, Step.id_detached]
  refine ⟨s, rfl, List.filter_congr fun e _ => ?_, h.steps_put (Dict.mem_keys_of_get? found), ?_, ?_, ?_, rfl⟩
  · rw [Bool.eq_iff_iff, decide_eq_true_iff, ← survives_eq_false_iff, Bool.not_eq_false]
  · rw [eq, detached_attached, Step.detached_detached]
  · rw [eq, connections_attached, Step.connections_detached]
  · intro i b at_i
    rw [← own]
    exact whole.mirrored stored (mem_steps.mpr ⟨s.id, Dict.mem_of_get? (by rw [Dict.get?_put, if_pos rfl])⟩) i b at_i

/-- **A step that is replaced by itself** changes nothing. -/
theorem updateStep_self (h : g.Whole) (mutable : g.frozen = false) (mem : s ∈ g.steps) :
    g.updateStep (.ok s) = .ok (g, s) := by
  have found : g.step? s.id = some s := h.step?_eq_some_iff.mpr ⟨mem, rfl⟩
  have all_stay : g.edges.filter (survives s) = g.edges := by
    refine List.filter_eq_self.mpr fun e there => Bool.not_eq_false _ ▸ fun lost => ?_
    obtain ⟨source, i, slot, costs⟩ := survives_eq_false_iff.mp lost
    obtain ⟨t, at_source, free⟩ := h.anchored e there i slot
    obtain rfl : s = t := Option.some.inj (found.symm.trans (source ▸ at_source))
    obtain ⟨m, b, body, at_i, automation⟩ := buttonFault?_eq_none_iff_exists.mp free
    exact costs m b body at_i automation
  have kept : attached (g.edges.filter (survives s)) s.detached = s := by
    rw [all_stay]
    exact h.attached_detached mem
  refine updateStep_eq_ok.mpr ⟨s, s, mutable, rfl, found, rfl, kept.symm, ?_⟩
  rw [all_stay, Dict.put_self found]

end Whole

/-- **Replacing a step changes only what it must.** In a graph that was made by changes, a step can be replaced
by every step with its id and of its kind, and by nothing else. The graph then has its old edges, without those
that are lost, its old steps, but for the one that is replaced, and the buttons of this one show the edges that
are left. And every step can be replaced by itself, which changes nothing. -/
theorem updateStep_replaces (changes : List Edit) (step : Reading Step) :
    let g := Graph.edits {} changes
    (match g.updateStep step with
      | .ok (g', stored) => ∃ s, step = .ok s ∧ Replaced g s stored g'
      | .error _ => ¬∃ s, step = .ok s ∧ ∃ t ∈ g.steps, t.id = s.id ∧ t.typeName = s.typeName) ∧
    ∀ s ∈ g.steps, g.updateStep (.ok s) = .ok (g, s) := by
  intro g
  have whole : g.Whole := Whole.empty.edits changes
  have mutable : g.frozen = false := frozen_edits {} changes
  refine ⟨?_, fun s mem => whole.updateStep_self mutable mem⟩
  rcases made : g.updateStep step with refused | ⟨g', stored⟩
  · rintro ⟨s, rfl, t, mem, same, kind⟩
    have found : g.step? s.id = some t := whole.step?_eq_some_iff.mpr ⟨mem, same⟩
    have taken := updateStep_eq_ok.mpr ⟨s, t, mutable, rfl, found, kind, rfl, rfl⟩
    exact nomatch made.symm.trans taken
  · exact whole.replaced made

/-- The changes that build a question with two buttons, each of which leads to an answer, and with an answer for
those who press none. -/
def answerChanges : List Edit :=
  [.addStep (.ok { id := "ask", body := .message { buttons := [{ text := "Yes" }, { text := "No" }] } }),
    .addStep (.ok { id := "yes", body := .branch {} }), .addStep (.ok { id := "no", body := .branch {} }),
    .addEdge "ask" "yes" (some 0), .addEdge "ask" "no" none, .addEdge "ask" "no" (some 1)]

/-- The question with a link for its second button. -/
def linkedQuestion : Step :=
  { id := "ask", title := "Once more"
    body := .message { buttons := [{ text := "Yes" }, { text := "Terms", kind := .link }] } }

/-- The edge of the button that has become a link is lost, and the two others stay. -/
theorem updateStep_replaces_question :
    let g := Graph.edits {} answerChanges
    ∃ g' stored, g.updateStep (.ok linkedQuestion) = .ok (g', stored) ∧ Replaced g linkedQuestion stored g' ∧
      g'.edges = [{ source := "ask", target := "yes", button := some 0 }, { source := "ask", target := "no" }] := by
  intro g
  have holds := (updateStep_replaces answerChanges (.ok linkedQuestion)).1
  rcases made : g.updateStep (.ok linkedQuestion) with refused | ⟨g', stored⟩
  · have accepted : (g.updateStep (.ok linkedQuestion) matches .ok _) = true := by decide +kernel
    rw [made] at accepted
    cases accepted
  · rw [made] at holds
    obtain ⟨s, read, replaced⟩ := holds
    obtain rfl : linkedQuestion = s := Except.ok.inj read
    refine ⟨g', stored, rfl, replaced, ?_⟩
    rw [replaced.edges]
    decide +kernel

end Graph

end Parley
