import Parley.Proofs.Graph.Rebuild

/-!
# Taking a step out again

A step that is added to a graph can be connected with the others, disconnected, replaced and connected again.
All of this touches nothing but the step, edges with the step at one end, and what the buttons of other steps
show of these edges. So when the step is removed, the graph is what it was before
(`Parley.Graph.removeStep_restores`).

The other steps are not left alone on the way, since their buttons may show the new step. What stays is said
of them apart from where they lead: they are the same bare steps in the same order, and the edges that do not
touch the step are the same in the same order (`Parley.Graph.Beside`). Each change that is about the step keeps
this (`Parley.Graph.Beside.edit`). After the removal both graphs are whole, have the same bare steps and the
same edges, and so they are the same.
-/

namespace Parley

/-- A change that is about one step: the step is replaced, or an edge that it is at one end of is added or
removed. -/
def Edit.IsAbout (id : String) : Edit → Prop
  | .updateStep step => ∀ s, step = .ok s → s.id = id
  | .addEdge source target _ => source = id ∨ target = id
  | .removeEdge source target _ => source = id ∨ target = id
  | .addStep _ => False
  | .removeStep _ => False

namespace Graph

variable {g p p' : Graph} {s stored : Step} {id source target : String} {button : Option Int}

/-- Whether an edge keeps clear of a step. -/
def clearOf (id : String) (e : Edge) : Bool := e.source != id && e.target != id

theorem clearOf_iff {e : Edge} : clearOf id e = true ↔ e.source ≠ id ∧ e.target ≠ id := by simp [clearOf]

/-- **A graph with one more step** than another one: apart from that step and what touches it, they are the
same. -/
structure Beside (g : Graph) (id : String) (p : Graph) : Prop where
  whole : p.Whole
  frozen : p.frozen = g.frozen
  present : id ∈ p.ids
  /-- The other steps are the same, apart from where they lead, in the same order. -/
  others : p.bareTable.erase id = g.bareTable
  /-- The edges that do not touch the step are the same, in the same order. -/
  edges : p.edges.filter (clearOf id) = g.edges

namespace Beside

/-! ### Changes about the step -/

/-- A step that comes in stands beside the graph. -/
theorem addStep (h : g.Whole) (ok : g.addStep (.ok s) = .ok (p, stored)) : Beside g s.id p := by
  have whole := h.addStep ok
  obtain ⟨t, -, read, absent, -, rfl⟩ := addStep_eq_ok.mp ok
  obtain rfl : s = t := Except.ok.inj read
  refine ⟨whole, rfl, Dict.mem_keys_put.mpr (.inl rfl), ?_, List.filter_eq_self.mpr fun e mem => ?_⟩
  · show ((g.table.put _ _).mapValues Step.detached).erase _ = _
    rw [Dict.mapValues_put, Dict.erase_put]
    exact Dict.erase_of_not_mem (keys_bareTable (g := g) ▸ absent)
  · obtain ⟨source, target, -⟩ := h.joined e mem
    exact clearOf_iff.mpr ⟨fun same => absent (same ▸ source), fun same => absent (same ▸ target)⟩

theorem updateStep (beside : Beside g id p) {step : Reading Step} (about : (Edit.updateStep step).IsAbout id)
    (ok : p.updateStep step = .ok (p', stored)) : Beside g id p' := by
  have whole := beside.whole.updateStep ok
  obtain ⟨s, current, -, rfl, -, -, -, rfl⟩ := updateStep_eq_ok.mp ok
  obtain rfl : s.id = id := about s rfl
  refine ⟨whole, beside.frozen, Dict.mem_keys_put.mpr (.inl rfl), ?_, ?_⟩
  · show ((p.table.put _ _).mapValues Step.detached).erase _ = _
    rw [Dict.mapValues_put, Dict.erase_put]
    exact beside.others
  · -- an edge that keeps clear of the step does not start there, and stays
    rw [← beside.edges]
    exact List.filter_filter_of_imp fun e _ clear => Whole.survives_of_ne (clearOf_iff.mp clear).1

theorem addEdge (beside : Beside g id p) {e : Edge} (about : source = id ∨ target = id)
    (ok : p.addEdge source target button = .ok (p', e)) : Beside g id p' := by
  have whole := beside.whole.addEdge ok
  have made : p.edit (.addEdge source target button) = .ok (p', .edge e) := Except.map_eq_ok_iff.mpr ⟨_, ok, rfl⟩
  have frozen := frozen_of_edit made
  have bare := bareTable_of_addEdge ok
  obtain ⟨s, slot, -, -, -, -, -, rfl, -, -, rfl⟩ := addEdge_eq_ok.mp ok
  refine ⟨whole, frozen.trans beside.frozen, ?_, bare ▸ beside.others, ?_⟩
  · rw [← keys_bareTable, bare, keys_bareTable]
    exact beside.present
  · have touches : clearOf id { source, target, button := slot } = false := by
      rcases about with rfl | rfl <;> simp [clearOf]
    show (p.edges ++ [_]).filter (clearOf id) = _
    rw [List.filter_append, List.filter_cons_of_neg (by simp [touches]), List.filter_nil, List.append_nil]
    exact beside.edges

theorem removeEdge (beside : Beside g id p) {found : Bool} (about : source = id ∨ target = id)
    (ok : p.removeEdge source target button = .ok (p', found)) : Beside g id p' := by
  have whole := beside.whole.removeEdge ok
  have made : p.edit (.removeEdge source target button) = .ok (p', .removed found) :=
    Except.map_eq_ok_iff.mpr ⟨_, ok, rfl⟩
  have frozen := frozen_of_edit made
  have bare := bareTable_of_removeEdge ok
  obtain ⟨-, ⟨e, -, -, rfl⟩ | ⟨-, -, rfl⟩⟩ := removeEdge_eq_ok.mp ok
  swap
  · exact beside
  refine ⟨whole, frozen.trans beside.frozen, ?_, bare ▸ beside.others, ?_⟩
  · rw [← keys_bareTable, bare, keys_bareTable]
    exact beside.present
  · show (p.edges.eraseP (isLink source target button)).filter (clearOf id) = _
    rw [List.filter_eraseP_of_imp, beside.edges]
    intro x _ is_link
    obtain ⟨⟨rfl, rfl⟩, -⟩ : (x.source = source ∧ x.target = target) ∧ _ := by simpa [isLink] using is_link
    rcases about with rfl | rfl <;> simp [clearOf]

/-- **A change about the step** keeps everything else. -/
theorem edit (beside : Beside g id p) {change : Edit} {outcome : EditOutcome} (about : change.IsAbout id)
    (ok : p.edit change = .ok (p', outcome)) : Beside g id p' := by
  have made := edit_cases ok
  cases change with
  | updateStep step =>
    obtain ⟨stored, made⟩ := made
    exact beside.updateStep about made
  | addEdge source target button =>
    obtain ⟨e, made⟩ := made
    exact beside.addEdge about made
  | removeEdge source target button =>
    obtain ⟨found, made⟩ := made
    exact beside.removeEdge about made
  | addStep step => exact about.elim
  | removeStep id => exact about.elim

/-- **Any number of changes about the step**, of which those that fail are passed over, keep everything else. -/
theorem edits (beside : Beside g id p) {changes : List Edit} (about : ∀ change ∈ changes, change.IsAbout id) :
    Beside g id (p.edits changes) :=
  edits_induction beside fun _ _ _ _ mem before ok => before.edit (about _ mem) ok

/-- **Without the step**, the graph is the one that it stands beside. -/
theorem removeStep (beside : Beside g id p) (h : g.Whole) (mutable : g.frozen = false) :
    p.removeStep id = .ok g := by
  have made := removeStep_eq_ok.mpr ⟨beside.frozen.trans mutable, beside.present, rfl⟩
  rw [made]
  refine congrArg Except.ok (h.eq_of_bareTable (beside.whole.removeStep made) ?_ beside.edges beside.frozen)
  show ((p.table.erase id).mapValues (forget id)).mapValues Step.detached = g.bareTable
  rw [Dict.mapValues_mapValues, ← beside.others, bareTable, Dict.erase_mapValues]
  exact List.map_congr_left fun entry _ => congrArg (Prod.mk entry.1) detached_forget

end Beside

/-- **Removing a step takes back all that was done to it.** Take a graph that was made by changes, a step whose
id is not in it, and any changes that begin with adding the step and go on with replacing it and with adding and
removing edges that it is at one end of, some of which may fail. If the step is removed then, the graph is again
what it was: it has the same steps in the same order, with buttons that show the same, and the same edges in the
same order. -/
theorem removeStep_restores (changes about : List Edit) (s : Step) (fresh : s.id ∉ (Graph.edits {} changes).ids)
    (only : ∀ change ∈ about, change.IsAbout s.id) :
    let g := Graph.edits {} changes
    (g.edits (.addStep (.ok s) :: about)).removeStep s.id = .ok g := by
  intro g
  have whole : g.Whole := Whole.empty.edits changes
  have mutable : g.frozen = false := frozen_edits {} changes
  have added := addStep_eq_ok.mpr ⟨s, mutable, rfl, fresh, rfl, rfl⟩
  rw [edits_cons_of_ok (Except.map_eq_ok_iff.mpr ⟨_, added, rfl⟩)]
  exact ((Beside.addStep whole added).edits only).removeStep whole mutable

/-- The changes that build a question with two buttons, of which the first one leads on. -/
def choiceChanges : List Edit :=
  [.addStep (.ok { id := "ask", body := .message { buttons := [{ text := "Yes" }, { text := "No" }] } }),
    .addStep (.ok { id := "yes", body := .branch {} }), .addEdge "ask" "yes" (some 0)]

/-- An answer to the second button. -/
def secondAnswer : Step := { id := "no", body := .message { buttons := [{ text := "Back" }] } }

/-- Changes about the answer: it is connected in both directions, loses its button and with it an edge, and is
disconnected and connected again; to connect it with itself fails. -/
def secondAnswerChanges : List Edit :=
  [.addEdge "ask" "no" (some 1), .addEdge "no" "yes" (some 0), .addEdge "no" "yes" none,
    .updateStep (.ok { id := "no", title := "No", body := .message {} }), .addEdge "no" "no" none,
    .removeEdge "ask" "no" (some 1), .addEdge "ask" "no" (some 1)]

/-- The answer is there before it is removed, the second button leads to it, and nothing of it is left. -/
theorem removeStep_restores_choice :
    let g := Graph.edits {} choiceChanges
    secondAnswer.id ∉ g.ids ∧ (∀ change ∈ secondAnswerChanges, change.IsAbout secondAnswer.id) ∧
      (g.edits (.addStep (.ok secondAnswer) :: secondAnswerChanges)).next? "ask" (some 1) = some "no" ∧
      (g.edits (.addStep (.ok secondAnswer) :: secondAnswerChanges)).removeStep "no" = .ok g := by
  intro g
  have fresh : secondAnswer.id ∉ g.ids := by decide +kernel
  have only : ∀ change ∈ secondAnswerChanges, change.IsAbout secondAnswer.id := by
    simp only [secondAnswerChanges, List.forall_mem_cons, List.not_mem_nil, false_imp_iff, implies_true, and_true]
    refine ⟨.inr rfl, .inl rfl, .inl rfl, ?_, .inl rfl, .inr rfl, .inr rfl⟩
    rintro s ⟨⟩
    rfl
  exact ⟨fresh, only, by decide +kernel, removeStep_restores choiceChanges secondAnswerChanges secondAnswer fresh only⟩

end Graph

end Parley
