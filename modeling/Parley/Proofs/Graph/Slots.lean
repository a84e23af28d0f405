import Parley.Proofs.Graph.Rebuild

/-!
# Slots do not interfere

All edges of a graph stand in one list, a new edge is compared with the whole of it, and an edge is removed by
looking for the first that fits. Still a call that adds or removes an edge reads and writes only the edges that
leave by the same *slot*, which is the pair of the source and the button that the call names. What else it reads is
which steps there are and which buttons they have, and no such call changes that.

So a graph is looked at through one slot. Two graphs look alike there (`Parley.Graph.AlikeAt`) if they have the
same bare steps and the same edges that leave by the slot, in the same order. A call for the slot cannot tell such
graphs apart: it is refused on both for the same reason or has the same outcome on both
(`Parley.Graph.AlikeAt.outcome_eq`), and they look alike afterwards (`Parley.Graph.AlikeAt.edit`). A call for
another slot makes a graph that looks like the one before (`Parley.Graph.alikeAt_of_ne`). Through a slot, any
sequence of calls therefore looks like the sequence of those calls in it that are for the slot
(`Parley.Graph.AlikeAt.edits`), and how they are mixed with the others makes no difference
(`Parley.Graph.slots_independent`).

The lists of all edges can differ at the end. Where buttons lead cannot, since a whole graph is made of its bare
steps and of where its slots lead.
-/

namespace Parley

/-- The slot by which an edge leaves, as a call names it. -/
def Edge.slot (e : Edge) : String × Option Int := (e.source, e.button.map Int.ofNat)

/-- The slot that a change is for, if it adds or removes an edge. -/
def Edit.slot? : Edit → Option (String × Option Int)
  | .addEdge source _ button => some (source, button)
  | .removeEdge source _ button => some (source, button)
  | .addStep _ => none
  | .updateStep _ => none
  | .removeStep _ => none

/-- The calls for a slot. -/
theorem Edit.slot?_eq_some_iff {change : Edit} {source : String} {button : Option Int} :
    change.slot? = some (source, button) ↔
      (∃ target, change = .addEdge source target button) ∨ ∃ target, change = .removeEdge source target button := by
  constructor
  · intro is
    cases change with
    | addEdge _ target _ => cases is; exact .inl ⟨target, rfl⟩
    | removeEdge _ target _ => cases is; exact .inr ⟨target, rfl⟩
    | addStep step => cases is
    | updateStep step => cases is
    | removeStep id => cases is
  · rintro (⟨target, rfl⟩ | ⟨target, rfl⟩) <;> rfl

/-- Computations that come to the same are followed by ones that come to the same, whatever they add to it. -/
theorem Except.map_bind_congr {ε α α' β γ : Type} {x y : Except ε α} {f f' : α → Except ε β} {k : β → γ}
    (m : α → α') (first : m <$> x = m <$> y)
    (rest : ∀ a b, x = .ok a → m a = m b → k <$> f a = k <$> f' b) : k <$> (x >>= f) = k <$> (y >>= f') := by
  rcases x with error | a <;> rcases y with error' | b
  · exact congrArg Except.error (Except.error.inj first)
  · cases first
  · cases first
  · exact rest a b rfl (Except.ok.inj first)

namespace Graph

/-- The changes of a sequence, each with what comes of it. -/
def outcomes (g : Graph) : List Edit → List (Edit × Except EditError EditOutcome)
  | [] => []
  | change :: rest => (change, (·.2) <$> g.edit change) :: (g.edits [change]).outcomes rest

/-- The edges that leave by a slot. -/
def leaving (g : Graph) (slot : String × Option Int) : List Edge := g.edges.filter (·.slot = slot)

variable {g g' p q r : Graph} {s t : Step} {e x : Edge} {source target : String} {button : Option Int}
  {slot other : String × Option Int} {change : Edit} {outcome : EditOutcome} {calls : List Edit}

theorem successors_eq_leaving {id : String} {n : Option Nat} :
    g.successors id n = g.leaving (id, n.map Int.ofNat) := by
  refine List.filter_congr fun e _ => ?_
  rw [Bool.eq_iff_iff, Bool.and_eq_true, beq_iff_eq, beq_iff_eq, decide_eq_true_iff, Edge.slot, Prod.mk.injEq,
    slot_injective.eq_iff]

/-- The edge that a call asks for leaves by the slot of the call. -/
theorem slot_of_isLink (h : isLink source target button e = true) : e.slot = (source, button) := by
  obtain ⟨⟨rfl, -⟩, rfl⟩ : (e.source = source ∧ e.target = target) ∧ e.button.map Int.ofNat = button := by
    simpa [isLink] using h
  rfl

/-- An edge like another one leaves by the same slot. -/
theorem slot_of_sameLink (h : e.sameLink x = true) : x.slot = e.slot := by
  obtain ⟨source, -, button⟩ := Edge.sameLink_iff.mp h
  rw [Edge.slot, Edge.slot, source, button]

/-! ### What a call writes -/

/-- A new edge is the last that leaves by its slot, and does not leave by any other. -/
theorem leaving_of_addEdge (ok : g.addEdge source target button = .ok (g', e)) :
    g'.leaving slot = g.leaving slot ++ if (source, button) = slot then [e] else [] := by
  obtain ⟨s, n, -, -, -, -, rfl, rfl, -, -, rfl⟩ := addEdge_eq_ok.mp ok
  show (g.edges ++ [_]).filter (Edge.slot · = slot) = _
  rw [List.filter_append, List.filter_singleton, Bool.cond_decide]
  rfl

/-- The edge that goes is missed by its slot and by no other. -/
theorem leaving_of_removeEdge {found : Bool} (ok : g.removeEdge source target button = .ok (g', found)) :
    g'.leaving slot =
      if (source, button) = slot then (g.leaving slot).eraseP (isLink source target button)
      else g.leaving slot := by
  obtain ⟨-, ⟨e, -, -, rfl⟩ | ⟨absent, -, rfl⟩⟩ := removeEdge_eq_ok.mp ok
  · show (g.edges.eraseP (isLink source target button)).filter (·.slot = slot) = _
    split
    · rename_i own
      rw [leaving, List.eraseP_filter]
      congr 2
      funext x
      cases link : isLink source target button x with
      | false => rw [Bool.false_and]
      | true => rw [decide_eq_true ((slot_of_isLink link).trans own), Bool.and_true]
    · rename_i apart
      exact List.filter_eraseP_of_imp fun x _ link =>
        decide_eq_false fun own => apart ((slot_of_isLink link).symm.trans own)
  · split
    · rw [List.eraseP_of_forall_not]
      intro x mem
      simp [absent x (List.mem_of_mem_filter mem)]
    · rfl

/-- No call that adds or removes an edge touches a step, apart from where it leads. -/
theorem bareTable_of_edit (is : change.slot? = some slot) (ok : g.edit change = .ok (g', outcome)) :
    g'.bareTable = g.bareTable := by
  obtain ⟨source, button⟩ := slot
  rcases Edit.slot?_eq_some_iff.mp is with ⟨target, rfl⟩ | ⟨target, rfl⟩
  · obtain ⟨e, made⟩ := edit_cases ok
    exact bareTable_of_addEdge made
  · obtain ⟨found, made⟩ := edit_cases ok
    exact bareTable_of_removeEdge made

/-! ### Looking at a graph through a slot -/

/-- **Graphs that look alike through a slot**: they have the same steps, apart from where these lead, and the same
edges leave by the slot, in the same order. -/
structure AlikeAt (slot : String × Option Int) (p q : Graph) : Prop where
  frozen : p.frozen = q.frozen
  bare : p.bareTable = q.bareTable
  leaving : p.leaving slot = q.leaving slot

/-- **A call for one slot** is not seen through another. -/
theorem alikeAt_of_ne (is : change.slot? = some other) (ne : other ≠ slot) : AlikeAt slot (g.edits [change]) g := by
  rcases made : g.edit change with error | ⟨g', outcome⟩
  · rw [edits_cons_of_error made]
    exact ⟨rfl, rfl, rfl⟩
  · rw [edits_cons_of_ok made]
    refine ⟨frozen_of_edit made, bareTable_of_edit is made, ?_⟩
    show g'.leaving slot = g.leaving slot
    obtain ⟨source, button⟩ := other
    rcases Edit.slot?_eq_some_iff.mp is with ⟨target, rfl⟩ | ⟨target, rfl⟩
    · obtain ⟨e, added⟩ := edit_cases made
      rw [leaving_of_addEdge added, if_neg ne, List.append_nil]
    · obtain ⟨found, removed⟩ := edit_cases made
      rw [leaving_of_removeEdge removed, if_neg ne]

namespace AlikeAt

theorem refl (slot : String × Option Int) (p : Graph) : AlikeAt slot p p := ⟨rfl, rfl, rfl⟩

theorem symm (h : AlikeAt slot p q) : AlikeAt slot q p := ⟨h.frozen.symm, h.bare.symm, h.leaving.symm⟩

theorem trans (h : AlikeAt slot p q) (h' : AlikeAt slot q r) : AlikeAt slot p r :=
  ⟨h.frozen.trans h'.frozen, h.bare.trans h'.bare, h.leaving.trans h'.leaving⟩

/-! ### What a call reads -/

theorem requireMutable_eq (h : AlikeAt slot p q) : p.requireMutable = q.requireMutable := by
  rw [requireMutable, requireMutable, h.frozen]

/-- The step of an id is the same, apart from where it leads, or it is missing in both graphs. -/
theorem requireStep_eq (h : AlikeAt slot p q) (id : String) :
    Step.detached <$> p.requireStep id = Step.detached <$> q.requireStep id := by
  have same : (p.step? id).map Step.detached = (q.step? id).map Step.detached := by
    rw [step?, step?, ← Dict.get?_mapValues, ← Dict.get?_mapValues]
    exact congrArg (Dict.get? · id) h.bare
  rw [requireStep, requireStep]
  generalize p.step? id = x at same ⊢
  generalize q.step? id = y at same ⊢
  rcases x with _ | s <;> rcases y with _ | t
  · rfl
  · cases same
  · cases same
  · exact congrArg Except.ok (Option.some.inj same)

/-- An edge that leaves by the slot has a like in both graphs or in none. -/
theorem any_sameLink (h : AlikeAt slot p q) (own : e.slot = slot) :
    p.edges.any e.sameLink = q.edges.any e.sameLink := by
  have only (g : Graph) : g.edges.any e.sameLink = (g.leaving slot).any e.sameLink := by
    rw [Graph.leaving, List.any_filter]
    refine congrArg (List.any g.edges) (funext fun x => ?_)
    cases like : e.sameLink x with
    | false => rw [Bool.and_false]
    | true => rw [decide_eq_true ((slot_of_sameLink like).trans own), Bool.true_and]
  rw [only p, only q, h.leaving]

/-- The edge that a call for the slot asks for is in both graphs or in none. -/
theorem find?_isLink (h : AlikeAt (source, button) p q) :
    p.edges.find? (isLink source target button) = q.edges.find? (isLink source target button) := by
  have only (g : Graph) : g.edges.find? (isLink source target button) =
      (g.leaving (source, button)).find? (isLink source target button) := by
    rw [Graph.leaving, List.find?_filter]
    refine congrArg (List.find? · g.edges) (funext fun x => ?_)
    cases link : isLink source target button x with
    | false => simp
    | true => simp [slot_of_isLink link]
  rw [only p, only q, h.leaving]

/-- The slot is free in both graphs, or taken in both for the same reason. -/
theorem slotFault?_eq {n : Option Nat} (h : AlikeAt (s.id, n.map Int.ofNat) p q) (same : s.detached = t.detached) :
    p.slotFault? s n = q.slotFault? t n := by
  have id_t : t.id = s.id := by rw [← Step.id_detached, ← same, Step.id_detached]
  cases n with
  | none => rfl
  | some i =>
    rw [slotFault?, slotFault?, ← buttonFault?_detached, same, buttonFault?_detached, id_t, successors_eq_leaving,
      successors_eq_leaving, h.leaving]

/-! ### Calls for the slot -/

theorem addEdge_outcome (whole : p.Whole) (h : AlikeAt (source, button) p q) (target : String) :
    (·.2) <$> p.addEdge source target button = (·.2) <$> q.addEdge source target button := by
  refine Except.map_bind_congr id (by rw [h.requireMutable_eq]) fun _ _ _ _ => ?_
  refine Except.map_bind_congr Step.detached (h.requireStep_eq source) fun s t found same => ?_
  refine Except.map_bind_congr Step.detached (h.requireStep_eq target) fun _ _ _ _ => ?_
  by_cases self : source = target
  · rw [if_pos self, if_pos self]
  rw [if_neg self, if_neg self]
  refine Except.map_bind_congr id rfl fun n n' meant same_n => ?_
  obtain rfl : n = n' := same_n
  obtain rfl := requireSlot_eq_ok.mp meant
  have id_s : s.id = source := (whole.step?_eq_some_iff.mp (requireStep_eq_ok.mp found)).2
  have likes := h.any_sameLink (e := { source, target, button := n }) rfl
  have faults := slotFault?_eq (id_s ▸ h) same
  dsimp only
  rw [likes, faults]
  split
  · rfl
  · split <;> rfl

theorem removeEdge_outcome (h : AlikeAt (source, button) p q) (target : String) :
    (·.2) <$> p.removeEdge source target button = (·.2) <$> q.removeEdge source target button := by
  refine Except.map_bind_congr id (by rw [h.requireMutable_eq]) fun _ _ _ _ => ?_
  rw [h.find?_isLink]
  split <;> rfl

/-- **A call for the slot is refused for the same reason or has the same outcome** on graphs that look alike. -/
theorem outcome_eq (whole : p.Whole) (h : AlikeAt slot p q) (own : change.slot? = some slot) :
    (·.2) <$> p.edit change = (·.2) <$> q.edit change := by
  obtain ⟨source, button⟩ := slot
  rcases Edit.slot?_eq_some_iff.mp own with ⟨target, rfl⟩ | ⟨target, rfl⟩
  · have same := congrArg (EditOutcome.edge <$> ·) (h.addEdge_outcome whole target)
    simpa only [Graph.edit, Functor.map_map] using same
  · have same := congrArg (EditOutcome.removed <$> ·) (h.removeEdge_outcome target)
    simpa only [Graph.edit, Functor.map_map] using same

/-- What a call for the slot makes of the edges that leave by it depends on nothing else. -/
theorem leaving_eq (whole : p.Whole) (h : AlikeAt slot p q) (own : change.slot? = some slot)
    {p' q' : Graph} {outcome' : EditOutcome} (made : p.edit change = .ok (p', outcome))
    (made' : q.edit change = .ok (q', outcome')) : p'.leaving slot = q'.leaving slot := by
  obtain ⟨source, button⟩ := slot
  rcases Edit.slot?_eq_some_iff.mp own with ⟨target, rfl⟩ | ⟨target, rfl⟩
  · obtain ⟨e, added⟩ := edit_cases made
    obtain ⟨e', added'⟩ := edit_cases made'
    have same := h.addEdge_outcome whole target
    rw [added, added'] at same
    obtain rfl : e = e' := Except.ok.inj same
    rw [leaving_of_addEdge added, leaving_of_addEdge added', h.leaving]
  · obtain ⟨found, removed⟩ := edit_cases made
    obtain ⟨found', removed'⟩ := edit_cases made'
    rw [leaving_of_removeEdge removed, leaving_of_removeEdge removed', h.leaving]

/-- **After a call for the slot** graphs that looked alike look alike. -/
theorem edit (whole : p.Whole) (h : AlikeAt slot p q) (own : change.slot? = some slot) :
    AlikeAt slot (p.edits [change]) (q.edits [change]) := by
  have same := h.outcome_eq whole own
  rcases made : p.edit change with error | ⟨p', outcome⟩ <;>
    rcases made' : q.edit change with error' | ⟨q', outcome'⟩ <;> rw [made, made'] at same
  · rw [edits_cons_of_error made, edits_cons_of_error made']
    exact h
  · cases same
  · cases same
  · rw [edits_cons_of_ok made, edits_cons_of_ok made']
    exact {
      frozen := (frozen_of_edit made).trans (h.frozen.trans (frozen_of_edit made').symm)
      bare := (bareTable_of_edit own made).trans (h.bare.trans (bareTable_of_edit own made').symm)
      leaving := h.leaving_eq whole own made made' }

/-- **A sequence of calls looks like the calls for the slot alone**, both in what comes of them and afterwards. -/
theorem edits (whole : p.Whole) (h : AlikeAt slot p q) (links : ∀ call ∈ calls, call.slot?.isSome) :
    ((p.outcomes calls).filter (·.1.slot? = some slot) = q.outcomes (calls.filter (·.slot? = some slot))) ∧
      AlikeAt slot (p.edits calls) (q.edits (calls.filter (·.slot? = some slot))) := by
  induction calls generalizing p q with
  | nil => exact ⟨rfl, h⟩
  | cons call rest ih =>
    rw [List.forall_mem_cons] at links
    obtain ⟨other, is⟩ := Option.isSome_iff_exists.mp links.1
    have whole' := whole.edits [call]
    rw [outcomes, List.filter_cons, List.filter_cons]
    -- a call for the slot is made in both runs, any other one in the first run only
    by_cases own : other = slot
    · subst own
      obtain ⟨outcomes, alike⟩ := ih whole' (h.edit whole is) links.2
      rw [if_pos (decide_eq_true is), if_pos (decide_eq_true is), outcomes, Graph.outcomes, h.outcome_eq whole is]
      exact ⟨rfl, alike⟩
    · have others : ¬call.slot? = some slot := fun same => own (Option.some.inj (is.symm.trans same))
      obtain ⟨outcomes, alike⟩ := ih whole' ((alikeAt_of_ne is own).trans h) links.2
      rw [if_neg (by simpa using others), if_neg (by simpa using others)]
      exact ⟨outcomes, alike⟩

/-- A slot leads to the same step in graphs that look alike. -/
theorem next?_eq {id : String} {n : Option Nat} (h : AlikeAt (id, n.map Int.ofNat) p q) :
    p.next? id n = q.next? id n := by
  rw [next?, next?, successors_eq_leaving, successors_eq_leaving, h.leaving]

end AlikeAt

/-- Buttons show where the slots lead, and nothing else of the edges. -/
theorem attached_congr (same : ∀ i, p.next? s.id (some i) = q.next? s.id (some i)) :
    attached p.edges s = attached q.edges s := by
  refine Step.mapButtons_congr (List.ext_getElem? fun i => ?_)
  have same := same i
  rw [next?, next?, successors, successors, List.head?_filter, List.head?_filter] at same
  rw [List.getElem?_mapIdx, List.getElem?_mapIdx, same]

/-- **Whole graphs that look alike through every slot** have the same table. -/
theorem Whole.table_eq_of_alikeAt (whole : p.Whole) (whole' : q.Whole) (alike : ∀ slot, AlikeAt slot p q) :
    p.table = q.table := by
  have shown : attached p.edges = attached q.edges :=
    funext fun s => attached_congr fun i => (alike (s.id, (some i).map Int.ofNat)).next?_eq
  rw [whole.table_eq, whole'.table_eq, (alike ("", none)).bare, shown]

/-- **Slots do not interfere.** Take a graph that was made by changes and two sequences of calls that add or remove
edges, some of which may fail. If for every slot, which is a source and a button, both contain the same calls in the
same order, then each call comes to the same in both sequences, with the same outcome or the same error. At the end
every slot has the same edges in the same order and leads to the same step, and the steps are the same, down to what
their buttons show. -/
theorem slots_independent (changes calls₁ calls₂ : List Edit)
    (links₁ : ∀ call ∈ calls₁, call.slot?.isSome) (links₂ : ∀ call ∈ calls₂, call.slot?.isSome)
    (same : ∀ slot, calls₁.filter (·.slot? = some slot) = calls₂.filter (·.slot? = some slot)) :
    let g := Graph.edits {} changes
    (∀ slot, (g.outcomes calls₁).filter (·.1.slot? = some slot) = (g.outcomes calls₂).filter (·.1.slot? = some slot)) ∧
      (∀ id n, (g.edits calls₁).successors id n = (g.edits calls₂).successors id n) ∧
      (∀ id n, (g.edits calls₁).next? id n = (g.edits calls₂).next? id n) ∧
      (g.edits calls₁).table = (g.edits calls₂).table := by
  intro g
  have whole : g.Whole := Whole.empty.edits changes
  -- both sequences look like the calls for the slot alone, and these are the same
  have first (slot) := (AlikeAt.refl slot g).edits whole links₁
  have second (slot) := (AlikeAt.refl slot g).edits whole links₂
  have alike (slot) : AlikeAt slot (g.edits calls₁) (g.edits calls₂) := by
    refine (first slot).2.trans (.symm ?_)
    rw [same slot]
    exact (second slot).2
  refine ⟨fun slot => ?_, fun id n => ?_, fun id n => (alike _).next?_eq, ?_⟩
  · rw [(first slot).1, (second slot).1, same slot]
  · rw [successors_eq_leaving, successors_eq_leaving, (alike _).leaving]
  · exact (whole.edits calls₁).table_eq_of_alikeAt (whole.edits calls₂) alike

/-- The changes that build a question with one button, and two answers. -/
def questionChanges : List Edit :=
  [.addStep (.ok { id := "ask", body := .message { buttons := [{ text := "Yes" }] } }),
    .addStep (.ok { id := "yes", body := .branch {} }), .addStep (.ok { id := "no", body := .branch {} })]

/-- Calls for the button, for what follows the question otherwise, and for a button that cannot be: the button is
connected, cannot be connected a second time, is disconnected and then connected with the other answer. -/
def buttonFirst : List Edit :=
  [.addEdge "ask" "yes" (some 0), .addEdge "ask" "no" (some 0), .removeEdge "ask" "yes" (some 0),
    .addEdge "ask" "no" (some 0), .addEdge "ask" "no" none, .addEdge "ask" "yes" none, .addEdge "ask" "yes" (some (-1))]

/-- The same calls, mixed in another way. -/
def buttonLast : List Edit :=
  [.addEdge "ask" "yes" (some (-1)), .addEdge "ask" "no" none, .addEdge "ask" "yes" (some 0),
    .addEdge "ask" "no" (some 0), .addEdge "ask" "yes" none, .removeEdge "ask" "yes" (some 0),
    .addEdge "ask" "no" (some 0)]

/-- The edges stand in different orders at the end, and all else is the same. -/
theorem slots_independent_question :
    let g := Graph.edits {} questionChanges
    (∀ call ∈ buttonFirst, call.slot?.isSome) ∧ (∀ call ∈ buttonLast, call.slot?.isSome) ∧
      (∀ slot, buttonFirst.filter (·.slot? = some slot) = buttonLast.filter (·.slot? = some slot)) ∧
      (g.edits buttonFirst).edges ≠ (g.edits buttonLast).edges ∧
      (g.edits buttonFirst).next? "ask" (some 0) = some "no" ∧
      (g.edits buttonFirst).connections "ask" = ["no", "yes"] ∧
      (g.edits buttonFirst).table = (g.edits buttonLast).table := by
  intro g
  have links₁ : ∀ call ∈ buttonFirst, call.slot?.isSome := by decide
  have links₂ : ∀ call ∈ buttonLast, call.slot?.isSome := by decide
  have same : ∀ slot, buttonFirst.filter (·.slot? = some slot) = buttonLast.filter (·.slot? = some slot) := by
    intro slot
    by_cases button : ("ask", some 0) = slot
    · subst button
      rfl
    by_cases plain : ("ask", none) = slot
    · subst plain
      rfl
    simp [buttonFirst, buttonLast, List.filter_cons, Edit.slot?, button, plain]
  refine ⟨links₁, links₂, same, by decide +kernel, by decide +kernel, by decide +kernel, ?_⟩
  exact (slots_independent questionChanges buttonFirst buttonLast links₁ links₂ same).2.2.2

end Graph

end Parley
