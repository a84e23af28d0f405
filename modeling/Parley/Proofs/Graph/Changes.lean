import Parley.Proofs.Dictionary
import Parley.Proofs.Graph.Buttons

/-!
# What each change of a graph does

The five changes of a graph are chains of tests with a new graph at their end. Here each chain is read
once, as an equivalence: the change succeeds with a result exactly if the tests hold and the result is
the one written down (`Parley.Graph.addStep_eq_ok`, `Parley.Graph.updateStep_eq_ok`,
`Parley.Graph.removeStep_eq_ok`, `Parley.Graph.addEdge_eq_ok`, `Parley.Graph.removeEdge_eq_ok`). What a
change keeps, refuses or undoes is a consequence of these five, and no later proof opens a change.
-/

namespace Parley

theorem Except.ok_bind {ε α β : Type} (a : α) (f : α → Except ε β) : (Except.ok a >>= f) = f a := rfl

/-- A chain of two computations that can fail succeeds if both of them do. -/
theorem Except.bind_eq_ok_iff {ε α β : Type} {x : Except ε α} {f : α → Except ε β} {b : β} :
    (x >>= f) = .ok b ↔ ∃ a, x = .ok a ∧ f a = .ok b := by
  cases x with
  | error e => exact ⟨nofun, nofun⟩
  | ok a =>
    refine ⟨fun h => ⟨a, rfl, h⟩, ?_⟩
    rintro ⟨_, same, h⟩
    cases same
    exact h

theorem Except.map_eq_ok_iff {ε α β : Type} {x : Except ε α} {f : α → β} {b : β} :
    f <$> x = .ok b ↔ ∃ a, x = .ok a ∧ f a = b := by
  cases x with
  | error e => exact ⟨nofun, nofun⟩
  | ok a =>
    refine ⟨fun h => ⟨a, rfl, Except.ok.inj h⟩, ?_⟩
    rintro ⟨_, same, rfl⟩
    cases same
    rfl

namespace Graph

variable {g g' : Graph} {s stored : Step} {id source target : String} {button : Option Int}
  {slot : Option Nat} {e : Edge}

/-! ### The tests -/

theorem refuse_ne_ok {α : Type} {error : GraphError} {a : α} : refuse error ≠ .ok a := nofun

theorem requireMutable_eq_ok {u : Unit} : g.requireMutable = .ok u ↔ g.frozen = false := by
  unfold requireMutable
  cases g.frozen with
  | true => simp [refuse_ne_ok]
  | false => simp

theorem requireStep_eq_ok : g.requireStep id = .ok s ↔ g.step? id = some s := by
  unfold requireStep
  cases g.step? id with
  | none => simp [refuse_ne_ok]
  | some found => simp

theorem requireRead_eq_ok {α : Type} {r : Reading α} {a : α} : requireRead r = .ok a ↔ r = .ok a := by
  cases r with
  | error issues => exact ⟨nofun, nofun⟩
  | ok b => exact ⟨fun h => by cases h; rfl, fun h => by cases h; rfl⟩

/-- The slot that is meant: none for the plain one, else the index of a button. -/
theorem requireSlot_eq_ok : requireSlot button = .ok slot ↔ button = slot.map Int.ofNat := by
  cases button with
  | none => cases slot <;> simp [requireSlot]
  | some i =>
    by_cases h : 0 ≤ i
    · cases slot <;> simp [requireSlot, h]
      omega
    · cases slot <;> simp [requireSlot, h]
      omega

/-- Different slots are asked for differently. -/
theorem slot_injective : Function.Injective (Option.map Int.ofNat) :=
  Option.map_injective fun _ _ => Int.ofNat.inj

/-- **When a slot is free for an edge**: it is the plain one, or it is that of an automation button from
which no edge starts yet. -/
theorem slotFault?_eq_none_iff : g.slotFault? s slot = none ↔
    ∀ i, slot = some i → buttonFault? s i = none ∧ g.successors s.id (some i) = [] := by
  cases slot with
  | none => simp [slotFault?]
  | some i =>
    simp only [slotFault?, Option.some.injEq, forall_eq']
    cases buttonFault? s i with
    | some fault => simp
    | none => simp

/-! ### The five changes -/

theorem addStep_eq_ok {step : Reading Step} : g.addStep step = .ok (g', stored) ↔
    ∃ s, g.frozen = false ∧ step = .ok s ∧ s.id ∉ g.ids ∧ stored = s.detached ∧
      g' = { g with table := g.table.put s.id stored } := by
  simp only [addStep, Except.bind_eq_ok_iff, requireMutable_eq_ok, requireRead_eq_ok]
  refine ⟨?_, ?_⟩
  · rintro ⟨-, mutable, s, read, h⟩
    split at h
    · exact absurd h refuse_ne_ok
    · rename_i absent
      cases h
      exact ⟨s, mutable, read, fun mem => absent (Dict.has_iff_mem_keys.mpr mem), rfl, rfl⟩
  · rintro ⟨s, mutable, read, absent, rfl, rfl⟩
    refine ⟨(), mutable, s, read, ?_⟩
    rw [if_neg fun present : g.has s.id = true => absent (Dict.has_iff_mem_keys.mp present)]
    rfl

theorem updateStep_eq_ok {step : Reading Step} : g.updateStep step = .ok (g', stored) ↔
    ∃ s current, g.frozen = false ∧ step = .ok s ∧ g.step? s.id = some current ∧
      current.typeName = s.typeName ∧ stored = attached (g.edges.filter (survives s)) s.detached ∧
      g' = { g with table := g.table.put s.id stored, edges := g.edges.filter (survives s) } := by
  simp only [updateStep, Except.bind_eq_ok_iff, requireMutable_eq_ok, requireRead_eq_ok,
    requireStep_eq_ok]
  refine ⟨?_, ?_⟩
  · rintro ⟨-, mutable, s, read, current, present, h⟩
    split at h
    · exact absurd h refuse_ne_ok
    · rename_i same
      cases h
      exact ⟨s, current, mutable, read, present, not_not.mp same, rfl, rfl⟩
  · rintro ⟨s, current, mutable, read, present, same, rfl, rfl⟩
    refine ⟨(), mutable, s, read, current, present, ?_⟩
    rw [if_neg (not_not.mpr same)]
    rfl

theorem removeStep_eq_ok : g.removeStep id = .ok g' ↔
    g.frozen = false ∧ id ∈ g.ids ∧
      g' = { g with
        table := (g.table.erase id).mapValues (forget id)
        edges := g.edges.filter fun e => e.source != id && e.target != id } := by
  simp only [removeStep, Except.bind_eq_ok_iff, requireMutable_eq_ok, requireStep_eq_ok]
  refine ⟨?_, ?_⟩
  · rintro ⟨-, mutable, s, present, h⟩
    cases h
    exact ⟨mutable, Dict.mem_keys_of_get? present, rfl⟩
  · rintro ⟨mutable, present, rfl⟩
    obtain ⟨s, found⟩ := Dict.mem_keys_iff.mp present
    exact ⟨(), mutable, s, found, rfl⟩

theorem addEdge_eq_ok : g.addEdge source target button = .ok (g', e) ↔
    ∃ s slot, g.frozen = false ∧ g.step? source = some s ∧ target ∈ g.ids ∧ source ≠ target ∧
      button = slot.map Int.ofNat ∧ e = { source, target, button := slot } ∧
      (∀ x ∈ g.edges, e.sameLink x = false) ∧ g.slotFault? s slot = none ∧
      g' = { g.aim source slot (some target) with edges := g.edges ++ [e] } := by
  simp only [addEdge, Except.bind_eq_ok_iff, requireMutable_eq_ok, requireStep_eq_ok]
  refine ⟨?_, ?_⟩
  · rintro ⟨-, mutable, s, found, t, present, h⟩
    split at h
    · exact absurd h refuse_ne_ok
    · rename_i apart
      obtain ⟨slot, meant, h⟩ := Except.bind_eq_ok_iff.mp h
      split at h
      · exact absurd h refuse_ne_ok
      · rename_i unlike
        split at h
        · exact absurd h refuse_ne_ok
        · rename_i free
          cases h
          exact ⟨s, slot, mutable, found, Dict.mem_keys_of_get? present,
            apart, requireSlot_eq_ok.mp meant, rfl,
            fun x mem => by simpa using List.any_eq_false.mp (Bool.eq_false_iff.mpr unlike) x mem,
            free, rfl⟩
  · rintro ⟨s, slot, mutable, found, present, apart, meant, rfl, unlike, free, rfl⟩
    obtain ⟨t, there⟩ := Dict.mem_keys_iff.mp present
    refine ⟨(), mutable, s, found, t, there, ?_⟩
    have alone : (g.edges.any { source, target, button := slot : Edge }.sameLink) = false := by
      rw [List.any_eq_false]
      exact fun x mem => by simp [unlike x mem]
    rw [if_neg apart, requireSlot_eq_ok.mpr meant]
    change (if (g.edges.any _) = true then _ else _) = _
    rw [alone, if_neg Bool.false_ne_true]
    simp only [free]
    rfl

theorem removeEdge_eq_ok {found : Bool} : g.removeEdge source target button = .ok (g', found) ↔
    g.frozen = false ∧
      ((∃ e, g.edges.find? (isLink source target button) = some e ∧ found = true ∧
          g' = { g.aim source e.button none with
            edges := g.edges.eraseP (isLink source target button) }) ∨
        ((∀ e ∈ g.edges, isLink source target button e = false) ∧ found = false ∧ g' = g)) := by
  simp only [removeEdge, Except.bind_eq_ok_iff, requireMutable_eq_ok]
  refine ⟨?_, ?_⟩
  · rintro ⟨-, mutable, h⟩
    refine ⟨mutable, ?_⟩
    split at h
    · rename_i e eq
      cases h
      exact Or.inl ⟨e, eq, rfl, rfl⟩
    · rename_i eq
      cases h
      exact Or.inr ⟨fun e mem => by simpa using List.find?_eq_none.mp eq e mem, rfl, rfl⟩
  · rintro ⟨mutable, ⟨e, eq, rfl, rfl⟩ | ⟨absent, rfl, rfl⟩⟩
    · refine ⟨(), mutable, ?_⟩
      simp only [eq]
      rfl
    · have missing : g'.edges.find? (isLink source target button) = none := by
        rw [List.find?_eq_none]
        exact fun e mem => by simp [absent e mem]
      refine ⟨(), mutable, ?_⟩
      simp only [missing]
      rfl

/-! ### Sequences of changes -/

/-- What a change as data has made. -/
theorem edit_cases {change : Edit} {outcome : EditOutcome} (ok : g.edit change = .ok (g', outcome)) :
    match change with
    | .addStep step => ∃ stored, g.addStep step = .ok (g', stored)
    | .updateStep step => ∃ stored, g.updateStep step = .ok (g', stored)
    | .removeStep id => g.removeStep id = .ok g'
    | .addEdge source target button => ∃ e, g.addEdge source target button = .ok (g', e)
    | .removeEdge source target button => ∃ found, g.removeEdge source target button = .ok (g', found) := by
  cases change <;> obtain ⟨_, made, same⟩ := Except.map_eq_ok_iff.mp ok <;> cases same
  · exact ⟨_, made⟩
  · exact ⟨_, made⟩
  · exact made
  · exact ⟨_, made⟩
  · exact ⟨_, made⟩

theorem edits_cons_of_ok {change : Edit} {changes : List Edit} {outcome : EditOutcome}
    (ok : g.edit change = .ok (g', outcome)) : g.edits (change :: changes) = g'.edits changes := by
  rw [edits, List.foldl_cons, ok]
  rfl

theorem edits_cons_of_error {change : Edit} {changes : List Edit} {error : EditError}
    (refused : g.edit change = .error error) : g.edits (change :: changes) = g.edits changes := by
  rw [edits, List.foldl_cons, refused]
  rfl

theorem edits_append (changes more : List Edit) : g.edits (changes ++ more) = (g.edits changes).edits more :=
  List.foldl_append

/-- **What the changes of a sequence keep**, each where it succeeds, the sequence keeps. -/
theorem edits_induction {motive : Graph → Prop} {changes : List Edit} (start : motive g)
    (kept : ∀ (g g' : Graph) (change : Edit) (outcome : EditOutcome), change ∈ changes → motive g →
      g.edit change = .ok (g', outcome) → motive g') : motive (g.edits changes) := by
  induction changes generalizing g with
  | nil => exact start
  | cons change rest ih =>
    have later {p : Graph} (h : motive p) : motive (p.edits rest) :=
      ih h fun g g' c o mem => kept g g' c o (List.mem_cons_of_mem _ mem)
    cases made : g.edit change with
    | error refused =>
      rw [edits_cons_of_error made]
      exact later start
    | ok done =>
      rw [edits_cons_of_ok made]
      exact later (kept g done.1 change done.2 List.mem_cons_self start made)

end Graph

end Parley
