import Parley.Graph.InPlace
import Parley.Proofs.Graph.Origin
import Parley.Proofs.Graph.Rebuild

/-!
# Changes in place are made whole or not at all

A change in place that stops on its way would leave half of it behind. None does: all tests come before the
first write, and on a whole graph every write finds its place. So a change in place is the change that
`Parley.Graph.edit` makes, and where that one fails the graph that is held is untouched
(`Parley.Graph.Whole.inPlace_eq`); by induction this holds of a graph with any history
(`Parley.Graph.untouched_if_stopped`).

The tests are compared one by one with those of the change that makes a new graph (`Parley.InPlace.test_bind`).
Three of the changes then write without further ado. The two loops need that the graph is whole. When a step is
replaced, the edges at its buttons are seen to one after the other, and `Parley.InPlace.midway` is the graph
when some of them have been: the next one is there still, and its button shows nothing yet, since no other edge
starts there. When a step is removed, the buttons that lead to it are cleared twice, first by their edges and
then by what they show; the first round makes no difference to what the second one leaves, because a button
with such an edge shows the step.
-/

namespace Parley

open Parley.Graph (attached survives buttonFault? aimButton forget)

namespace InPlace

variable {α β : Type} {g p : Graph} {s : Step} {e : Edge} {id source target : String} {button : Option Int}

/-! ### All or nothing -/

/-- The end of a change that is made whole or not at all. -/
def allOrNothing (g : Graph) : Except EditError (Graph × α) → EStateM.Result Stop Graph α
  | .ok (changed, a) => .ok a changed
  | .error why => .error (.refused why) g

/-- Work that goes on after a part that did not stop. -/
theorem bind_of_ok {x : InPlace α} {f : α → InPlace β} {a : α} (done : x g = .ok a p) :
    (x >>= f) g = f a p := by
  show EStateM.bind x f g = _
  rw [EStateM.bind, done]

/-- **A test in place** is the test of the graph: it stops before anything is written, or nothing of it is left
but its result. -/
theorem test_bind {check : Graph → Except EditError α} {f : α → InPlace β}
    {next : α → Except EditError (Graph × β)}
    (later : ∀ a, check g = .ok a → f a g = allOrNothing g (next a)) :
    (test check >>= f) g = allOrNothing g (check g >>= next) := by
  rcases passed : check g with why | a
  · show EStateM.bind (test check) f g = _
    rw [EStateM.bind, test, passed]
    rfl
  · have done : test check g = .ok a g := by rw [test, passed]
    rw [bind_of_ok done]
    exact later a passed

/-- A test that refuses what it finds. -/
theorem test_refuse {c : Graph → Prop} [DecidablePred c] {why : GraphError} {f : Unit → InPlace α}
    {next : Except EditError (Graph × α)} (later : ¬c g → f () g = allOrNothing g next) :
    ((test fun g => if c g then Graph.refuse why else .ok ()) >>= f) g =
      allOrNothing g (if c g then Graph.refuse why else next) := by
  have split : (if c g then Graph.refuse why else next) =
      (if c g then Graph.refuse why else .ok ()) >>= fun _ => next := by
    split <;> rfl
  rw [split]
  refine test_bind fun _ passed => later fun found => ?_
  rw [if_pos found] at passed
  exact absurd passed Graph.refuse_ne_ok

/-- A test that refuses for the fault that it finds. -/
theorem test_fault {fault? : Graph → Option GraphError} {f : Unit → InPlace α}
    {next : Except EditError (Graph × α)} (later : fault? g = none → f () g = allOrNothing g next) :
    ((test fun g => match fault? g with
      | some fault => Graph.refuse fault
      | none => .ok ()) >>= f) g =
      allOrNothing g (match fault? g with
        | some fault => Graph.refuse fault
        | none => next) := by
  rcases faulty : fault? g with _ | fault
  · rw [bind_of_ok (a := ()) (p := g) (by rw [test, faulty])]
    exact later faulty
  · show EStateM.bind _ f g = _
    rw [EStateM.bind, test, faulty]
    rfl

theorem allOrNothing_map {f : α → β} {r : Except EditError (Graph × α)} {x : InPlace α}
    (made : x g = allOrNothing g r) : (f <$> x) g = allOrNothing g ((fun a => (a.1, f a.2)) <$> r) := by
  show EStateM.map f x g = _
  rw [EStateM.map, made]
  rcases r with why | ⟨changed, a⟩ <;> rfl

/-! ### Adding a step, adding and removing an edge -/

theorem addStep_eq (step : Reading Step) : addStep step g = allOrNothing g (g.addStep step) := by
  refine test_bind fun _ _ => test_bind fun s _ => test_refuse fun _ => ?_
  show EStateM.Result.ok s.detached { g with table := g.table.put s.detached.id s.detached } = _
  rw [Step.id_detached]
  rfl

theorem addEdge_eq (source target : String) (button : Option Int) :
    addEdge source target button g = allOrNothing g (g.addEdge source target button) := by
  refine test_bind fun _ _ => test_bind fun s _ => test_bind fun _ _ => test_refuse fun _ => ?_
  refine test_bind fun slot _ => test_refuse fun _ => ?_
  refine test_fault fun _ => ?_
  cases slot <;> rfl

/-- The first edge that passes a test is the first one that is equal to it. -/
theorem erase_of_find? {l : List Edge} {q : Edge → Bool} (first : l.find? q = some e) :
    l.erase e = l.eraseP q := by
  obtain ⟨passes, before, after, rfl, fail⟩ := List.find?_eq_some_iff_append.mp first
  have unlike : e ∉ before := fun mem => by simpa [passes] using fail e mem
  rw [List.erase_append_right _ unlike, List.erase_cons_head,
    List.eraseP_append_right _ (by simpa using fail), List.eraseP_cons_of_pos passes]

theorem removeEdge_eq (source target : String) (button : Option Int) :
    removeEdge source target button g = allOrNothing g (g.removeEdge source target button) := by
  refine test_bind fun _ _ => (bind_of_ok (x := get) (a := g) (p := g) rfl).trans ?_
  rcases first : g.edges.find? (Graph.isLink source target button) with _ | e
  · rfl
  · have there : e ∈ g.edges := List.mem_of_find?_eq_some first
    have dropped : dropEdge e g = .ok () { g with edges := g.edges.eraseP (Graph.isLink source target button) } := by
      rw [dropEdge, if_pos there, erase_of_find? first]
    refine (bind_of_ok dropped).trans ?_
    obtain ⟨_, _, slot, _⟩ := e
    cases slot <;> rfl

/-! ### Replacing a step -/

/-- The graph while a step is replaced by `s`, when some of the edges at its buttons have been seen to: those
that cannot stay have gone, and the buttons of the others show them. -/
def midway (g : Graph) (s : Step) (done : List Edge) : Graph :=
  { g with
    table := g.table.put s.id (attached (done.filter (survives s)) s.detached)
    edges := g.edges.filter fun e => decide (e ∉ done) || survives s e }

section Reattach

variable {done todo : List Edge} {i : Nat}

/-- An edge that can stay is shown by its button, which is there. -/
theorem reattach_midway_of_free (distinct : g.ids.Nodup) (source : e.source = s.id) (slot : e.button = some i)
    (free : buttonFault? s i = none) (alone : ∀ x ∈ done, ¬(x.source = s.id ∧ x.button = some i)) :
    reattach s e (midway g s done) = .ok () (midway g s (done ++ [e])) := by
  have survived : survives s e = true := by simp [survives, source, slot, free]
  obtain ⟨-, kind⟩ := Graph.buttonFault?_eq_none_iff.mp free
  obtain ⟨b, at_i, -⟩ := Option.map_eq_some_iff.mp kind
  have inside : i < (attached (done.filter (survives s)) s.detached).buttons.length := by
    simpa using (List.getElem?_eq_some_iff.mp at_i).1
  have found : (midway g s done).step? s.id = some (attached (done.filter (survives s)) s.detached) := by
    rw [midway, Graph.step?, Dict.get?_put, if_pos rfl]
  have made : reattach s e (midway g s done) =
      .ok () ((midway g s done).mapStep s.id (aimButton i (some e.target))) := by
    simp only [reattach, slot, free, Option.isSome_none, Bool.false_eq_true, if_false, setButton, found, inside,
      if_true]
  have shown : attached ((done ++ [e]).filter (survives s)) s.detached =
      aimButton i (some e.target) (attached (done.filter (survives s)) s.detached) := by
    rw [List.filter_append, List.filter_cons_of_pos survived, List.filter_nil]
    refine Graph.attached_concat (source.trans Step.id_detached.symm) slot fun x before => ?_
    rw [Step.id_detached]
    exact alone x (List.mem_of_mem_filter before)
  have edges : (g.edges.filter fun x => decide (x ∉ done ++ [e]) || survives s x) =
      g.edges.filter fun x => decide (x ∉ done) || survives s x := by
    refine List.filter_congr fun x _ => ?_
    by_cases same : x = e
    · simp [same, survived]
    · simp [same]
  rw [made]
  simp only [midway, Graph.mapStep, Dict.modify_put distinct, shown, edges]

/-- An edge that cannot stay is still there, and goes. -/
theorem reattach_midway_of_fault (unlike : g.edges.Nodup) (mem : e ∈ g.edges) (source : e.source = s.id)
    (slot : e.button = some i) (faulty : buttonFault? s i ≠ none) (fresh : e ∉ done) :
    reattach s e (midway g s done) = .ok () (midway g s (done ++ [e])) := by
  have lost : survives s e = false := by simpa [survives, source, slot, Option.isSome_iff_ne_none] using faulty
  have there : e ∈ (midway g s done).edges := List.mem_filter.mpr ⟨mem, by simp [fresh]⟩
  have made : reattach s e (midway g s done) =
      .ok () { midway g s done with edges := (midway g s done).edges.erase e } := by
    simp only [reattach, slot, Option.isSome_iff_ne_none.mpr faulty, if_true, dropEdge, if_pos there]
  have shown : (done ++ [e]).filter (survives s) = done.filter (survives s) := by
    rw [List.filter_append, List.filter_cons_of_neg (by simp [lost]), List.filter_nil, List.append_nil]
  have edges : (g.edges.filter fun x => decide (x ∉ done ++ [e]) || survives s x) =
      (g.edges.filter fun x => decide (x ∉ done) || survives s x).erase e := by
    rw [(unlike.filter _).erase_eq_filter, List.filter_filter]
    refine List.filter_congr fun x _ => ?_
    by_cases same : x = e
    · simp [same, lost]
    · simp [same]
  rw [made]
  simp only [midway, shown, edges]

/-- **The edges are seen to one after the other**, and nothing stops the work. -/
theorem forM_reattach (distinct : g.ids.Nodup) (unlike : g.edges.Nodup)
    (starts : ∀ e ∈ todo, e ∈ g.edges ∧ e.source = s.id ∧ e.button.isSome = true)
    (alone : (done ++ todo).Pairwise fun a b => ¬(a.source = b.source ∧ a.button = b.button)) :
    todo.forM (reattach s) (midway g s done) = .ok () (midway g s (done ++ todo)) := by
  induction todo generalizing done with
  | nil => rw [List.append_nil]; rfl
  | cons e rest ih =>
    rw [List.forall_mem_cons] at starts
    obtain ⟨⟨mem, source, button⟩, later⟩ := starts
    obtain ⟨i, slot⟩ := Option.isSome_iff_exists.mp button
    have apart : ∀ x ∈ done, ¬(x.source = s.id ∧ x.button = some i) := fun x before => by
      rw [← source, ← slot]
      exact (List.pairwise_append.mp alone).2.2 x before e List.mem_cons_self
    have step : reattach s e (midway g s done) = .ok () (midway g s (done ++ [e])) := by
      by_cases free : buttonFault? s i = none
      · exact reattach_midway_of_free distinct source slot free apart
      · exact reattach_midway_of_fault unlike mem source slot free fun before => apart e before ⟨source, slot⟩
    have rest_alone : ((done ++ [e]) ++ rest).Pairwise
        fun a b => ¬(a.source = b.source ∧ a.button = b.button) := by
      rwa [List.append_assoc, List.singleton_append]
    refine (bind_of_ok step).trans ((ih later rest_alone).trans ?_)
    rw [List.append_assoc, List.singleton_append]

end Reattach

/-- Only the edges that start at its buttons matter to a step. -/
theorem attached_filter {edges : List Edge} {keep : Edge → Bool}
    (kept : ∀ e ∈ edges, e.source = s.id → e.button.isSome = true → keep e = true) :
    attached (edges.filter keep) s = attached edges s := by
  have first (i : Nat) : ((edges.filter keep).find? fun e => e.source == s.id && e.button == some i) =
      edges.find? fun e => e.source == s.id && e.button == some i := by
    rw [← List.head?_filter, ← List.head?_filter, List.filter_filter_of_imp]
    intro e mem starts
    rw [Bool.and_eq_true, beq_iff_eq, beq_iff_eq] at starts
    exact kept e mem starts.1 (by rw [starts.2]; rfl)
  simp only [attached, first]

/-- **When all edges have been seen to**, the step has been replaced. -/
theorem midway_all : midway g s (g.edges.filter fun e => e.source == s.id && e.button.isSome) =
    { g with
      table := g.table.put s.id (attached (g.edges.filter (survives s)) s.detached)
      edges := g.edges.filter (survives s) } := by
  have shown : attached ((g.edges.filter fun e => e.source == s.id && e.button.isSome).filter (survives s))
      s.detached = attached (g.edges.filter (survives s)) s.detached := by
    rw [List.filter_comm]
    refine attached_filter fun e _ source button => ?_
    rw [source, Step.id_detached, beq_self_eq_true, button, Bool.and_self]
  have edges : (g.edges.filter fun e =>
      decide (e ∉ g.edges.filter fun e => e.source == s.id && e.button.isSome) || survives s e) =
      g.edges.filter (survives s) := by
    refine List.filter_congr fun e mem => ?_
    by_cases starts : e.source = s.id ∧ e.button.isSome = true
    · simp [mem, starts]
    · -- an edge of another step or slot stays in any case
      have stays : survives s e = true := by
        rcases plain : e.button with _ | i
        · simp [survives, plain]
        · exact Graph.Whole.survives_of_ne fun source => starts ⟨source, by rw [plain]; rfl⟩
      simp [stays]
  simp only [midway, shown, edges]

/-- Before the first edge is seen to, the new step is there and shows none. -/
theorem midway_nil (distinct : g.ids.Nodup) : midway g s [] =
    { g with table := (g.table.put s.id { s with connections := [] }).modify s.id Step.detached } := by
  have bare : attached [] s.detached = s.detached := by
    refine Step.mapButtons_eq_self (List.ext_getElem? fun i => ?_)
    rw [List.getElem?_mapIdx, Step.buttons_detached, List.getElem?_map, Option.map_map]
    rfl
  have table : (g.table.put s.id { s with connections := [] }).modify s.id Step.detached =
      g.table.put s.id s.detached := by
    rw [Dict.modify_put distinct, Step.detached_reconnected]
  have edges : (g.edges.filter fun e => decide (e ∉ []) || survives s e) = g.edges := by simp
  simp only [midway, List.filter_nil, bare, table, edges]

theorem updateStep_eq (h : g.Whole) (step : Reading Step) :
    updateStep step g = allOrNothing g (g.updateStep step) := by
  refine test_bind fun _ _ => test_bind fun s _ => test_bind fun current found => test_refuse fun _ => ?_
  have unlike : g.edges.Nodup := h.unlike.imp fun {a b} apart same => by simp [same, Edge.sameLink] at apart
  let atButtons := g.edges.filter fun e => e.source == s.id && e.button.isSome
  have starts : ∀ e ∈ atButtons, e ∈ g.edges ∧ e.source = s.id ∧ e.button.isSome = true := by
    simp [atButtons]
  have alone : ([] ++ atButtons).Pairwise fun a b : Edge => ¬(a.source = b.source ∧ a.button = b.button) := by
    refine (h.pairwise_rivals.filter _).imp_of_mem fun {a b} mem _ apart same => ?_
    obtain ⟨i, slot⟩ := Option.isSome_iff_exists.mp (starts a mem).2.2
    have rivals : b.rivals a = true := Edge.rivals_iff.mpr
      ⟨same.1.symm, same.2.symm, fun plain => absurd (slot.symm.trans (same.2.trans plain)) (Option.some_ne_none i)⟩
    exact Bool.false_ne_true (apart.symm.trans rivals)
  have seen := forM_reattach h.distinct unlike starts alone
  rw [List.nil_append, midway_all, midway_nil h.distinct] at seen
  refine (bind_of_ok (x := putStep { s with connections := [] }) rfl).trans ?_
  refine (bind_of_ok (x := modify (·.mapStep s.id Step.detached)) rfl).trans ?_
  refine (bind_of_ok (x := get) rfl).trans ((bind_of_ok seen).trans ?_)
  rw [standing, Graph.step?, Dict.get?_put, if_pos rfl]
  rfl

/-! ### Removing a step -/

/-- The first round of clearing makes no difference to what the second one leaves, if all buttons that it
clears show the step. -/
theorem forM_clearFor {edges : List Edge} (shown : ∀ e ∈ edges, e.target = id → ∀ i, e.button = some i →
      (p.table.mapValues (forget id)).modify e.source (aimButton i none) =
        p.table.mapValues (forget id)) :
    ∃ table, edges.forM (clearFor id) p = .ok () { p with table } ∧
      table.mapValues (forget id) = p.table.mapValues (forget id) := by
  induction edges generalizing p with
  | nil => exact ⟨p.table, rfl, rfl⟩
  | cons e rest ih =>
    rw [List.forall_mem_cons] at shown
    obtain ⟨here, later⟩ := shown
    obtain ⟨table, step, same⟩ : ∃ table, clearFor id e p = .ok () { p with table } ∧
        table.mapValues (forget id) = p.table.mapValues (forget id) := by
      by_cases clears : e.source ≠ id ∧ e.target = id
      · rcases slot : e.button with _ | i
        · exact ⟨p.table, by simp [clearFor, clears, slot]; rfl, rfl⟩
        · refine ⟨p.table.modify e.source (aimButton i none), by simp [clearFor, clears, slot]; rfl, ?_⟩
          rw [Dict.mapValues_modify fun _ => Graph.forget_aimButton]
          exact here clears.2 i slot
      · refine ⟨p.table, ?_, rfl⟩
        have skips : (e.source != id && e.target == id) = false := by simpa using clears
        rw [clearFor, skips, if_neg Bool.false_ne_true]
        rfl
    obtain ⟨table', rest_done, same'⟩ := ih (p := { p with table }) (by rwa [same])
    exact ⟨table', (bind_of_ok step).trans rest_done, same'.trans same⟩

/-- A button at which an edge starts shows the step that the edge leads to, and nothing once that is
forgotten. -/
theorem modify_forget (h : g.Whole) {i : Nat} (mem : e ∈ g.edges) (leads : e.target = id) (slot : e.button = some i) :
    ((g.table.erase id).mapValues (forget id)).modify e.source (aimButton i none) =
      (g.table.erase id).mapValues (forget id) := by
  refine Dict.modify_eq_self fun t' there => Graph.aimButton_eq_self fun b' at_i => ?_
  obtain ⟨⟨key, t⟩, old, same⟩ := List.mem_map.mp there
  obtain ⟨rfl, rfl⟩ := Prod.mk.inj same
  obtain ⟨old, -⟩ := Dict.mem_erase.mp old
  rw [Graph.buttons_forget, List.getElem?_map, Option.map_eq_some_iff] at at_i
  obtain ⟨b, at_i, rfl⟩ := at_i
  have keyed : e.source = t.id := h.keyed _ old
  have shows : b.connectedTo = some id := by
    rw [h.mirrored t (Graph.mem_steps.mpr ⟨_, old⟩) i b at_i, Graph.next?, ← keyed,
      h.successors_eq_singleton mem slot, ← leads]
    rfl
  rw [if_pos shows]

theorem removeStep_eq (h : g.Whole) (id : String) :
    removeStep id g = allOrNothing g ((fun changed => (changed, ())) <$> g.removeStep id) := by
  rw [Graph.removeStep, map_bind]
  refine test_bind fun _ _ => ?_
  rw [map_bind]
  refine test_bind fun s found => ?_
  have present : g.has id = true :=
    Dict.has_iff_mem_keys.mpr (Dict.mem_keys_of_get? (Graph.requireStep_eq_ok.mp found))
  have dropped : dropStep id g = .ok () { g with table := g.table.erase id } := by rw [dropStep, if_pos present]
  have shown : ∀ e ∈ g.edges, e.target = id → ∀ i, e.button = some i →
      ((g.table.erase id).mapValues (forget id)).modify e.source (aimButton i none) =
        (g.table.erase id).mapValues (forget id) :=
    fun e mem leads i slot => modify_forget h mem leads slot
  obtain ⟨table, cleared, same⟩ := forM_clearFor (p := { g with table := g.table.erase id }) shown
  refine (bind_of_ok dropped).trans ((bind_of_ok (x := get) rfl).trans ((bind_of_ok cleared).trans ?_))
  show EStateM.Result.ok () { g with
    table := table.mapValues (forget id)
    edges := g.edges.filter fun e => e.source != id && e.target != id } = _
  rw [same]
  rfl

end InPlace

open InPlace

variable {g : Graph}

/-- **A change in place of a whole graph** is the change that makes a new graph, and if there is none it leaves
no trace. -/
theorem Graph.Whole.inPlace_eq (h : g.Whole) (change : Edit) :
    change.inPlace g = allOrNothing g (g.edit change) := by
  cases change with
  | addStep step => exact allOrNothing_map (addStep_eq step)
  | updateStep step => exact allOrNothing_map (updateStep_eq h step)
  | removeStep id =>
    have made := allOrNothing_map (f := fun _ => EditOutcome.done) (removeStep_eq h id)
    rwa [Functor.map_map] at made
  | addEdge source target button => exact allOrNothing_map (addEdge_eq source target button)
  | removeEdge source target button => exact allOrNothing_map (removeEdge_eq source target button)

namespace Graph

theorem edit_of_frozen (frozen : g.frozen = true) (change : Edit) :
    g.edit change = .error (.broken .readOnly) := by
  have locked : g.requireMutable = refuse .readOnly := if_pos frozen
  cases change with
  | addStep step => simp only [edit, addStep, locked]; rfl
  | updateStep step => simp only [edit, updateStep, locked]; rfl
  | removeStep id => simp only [edit, removeStep, locked]; rfl
  | addEdge source target button => simp only [edit, addEdge, locked]; rfl
  | removeEdge source target button => simp only [edit, removeEdge, locked]; rfl

/-- What is held after a change in place is whole again. -/
theorem Whole.after (h : g.Whole) (change : Edit) : (g.after change).Whole := by
  rw [Graph.after, h.inPlace_eq]
  rcases made : g.edit change with why | ⟨changed, outcome⟩
  · exact h
  · exact h.edit made

/-- **Whatever was done with a graph that is held**, it is whole. -/
theorem Whole.handled (h : g.Whole) (history : List Handling) : (g.handled history).Whole := by
  induction history generalizing g with
  | nil => exact h
  | cons handling rest ih =>
    cases handling with
    | change change => exact ih (h.after change)
    | snapshot => exact ih { h with }

/-- **A change that stops leaves no trace.** Take a graph that was changed in place and made a snapshot of any
number of times, also by changes that stopped, and change it in place once more. If that stops, then it is
refused for the reason for which there is no changed graph, and the graph that is held is what it was: its
steps with their buttons, its edges and whether it is a snapshot. If it does not stop, it makes the graph that
is the changed one. A snapshot refuses every change. -/
theorem untouched_if_stopped (history : List Handling) (change : Edit) :
    let g := Graph.handled {} history
    (∀ stop left, change.inPlace g = .error stop left →
      left = g ∧ ∃ why, stop = .refused why ∧ g.edit change = .error why) ∧
    (∀ outcome left, change.inPlace g = .ok outcome left → g.edit change = .ok (left, outcome)) ∧
    (g.frozen = true → change.inPlace g = .error (.refused (.broken .readOnly)) g) := by
  intro g
  have whole : g.Whole := Whole.empty.handled history
  rw [whole.inPlace_eq]
  refine ⟨fun stop left stopped => ?_, fun outcome left made => ?_, fun frozen => ?_⟩
  · rcases refused : g.edit change with why | made <;> rw [refused] at stopped
    · cases stopped
      exact ⟨rfl, why, rfl, rfl⟩
    · cases stopped
  · rcases done : g.edit change with why | ⟨changed, a⟩ <;> rw [done] at made <;> cases made
    rfl
  · rw [edit_of_frozen frozen]
    rfl

/-- A question whose button leads to one of two answers. -/
def takenHistory : List Handling :=
  [.change (.addStep (.ok { id := "ask", body := .message { buttons := [{ text := "Yes" }] } })),
    .change (.addStep (.ok { id := "yes", body := .branch {} })),
    .change (.addStep (.ok { id := "no", body := .branch {} })), .change (.addEdge "ask" "yes" (some 0))]

/-- A second edge from the button is refused after all other tests have passed, and a snapshot refuses to let the
answer go. In both cases nothing has changed. -/
theorem untouched_if_stopped_taken :
    let g := Graph.handled {} takenHistory
    let fixed := Graph.handled {} (takenHistory ++ [.snapshot])
    g.next? "ask" (some 0) = some "yes" ∧
      (∃ why, (Edit.addEdge "ask" "no" (some 0)).inPlace g = .error (.refused why) g) ∧
      (Edit.removeStep "yes").inPlace fixed = .error (.refused (.broken .readOnly)) fixed := by
  intro g fixed
  refine ⟨by decide +kernel, ?_, (untouched_if_stopped _ (.removeStep "yes")).2.2 rfl⟩
  rcases ran : (Edit.addEdge "ask" "no" (some 0)).inPlace g with ⟨outcome, left⟩ | ⟨stop, left⟩
  · have stops : ((Edit.addEdge "ask" "no" (some 0)).inPlace g matches .error _ _) = true := by decide +kernel
    rw [ran] at stops
    cases stops
  · obtain ⟨rfl, why, rfl, -⟩ := (untouched_if_stopped takenHistory _).1 stop left ran
    exact ⟨why, rfl⟩

end Graph

end Parley
