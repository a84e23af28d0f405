import Parley.Reading.Basic
import Parley.Proofs.Dictionary

/-!
# What readings yield

A record is read by applying its constructor to the readings of its fields, so a reading of a record
succeeds exactly if those of its fields do. The equivalences here take such a reading apart, one
application or field at a time; the lemmas that are tagged for `simp` put it together.
-/

namespace Parley

namespace Reading

variable {α β : Type}

/-! ### Applications -/

@[simp] theorem map_ok (f : α → β) (a : α) : f <$> ok a = ok (f a) := rfl

@[simp] theorem seq_ok (f : α → β) (a : α) : ok f <*> ok a = ok (f a) := rfl

@[simp] theorem field_ok (name : String) (a : α) : field name (ok a) = ok a := rfl

theorem ok_injective {a b : α} (h : ok a = ok b) : a = b := Except.ok.inj h

theorem bad_ne_ok {issues : List Issue} {a : α} : bad issues ≠ ok a := by
  intro h
  cases (show Except.error issues = Except.ok a from h)

theorem fail_ne_ok {kind : IssueKind} {a : α} : fail kind ≠ ok a := bad_ne_ok

theorem map_eq_ok {f : α → β} {r : Reading α} {b : β} : f <$> r = ok b ↔ ∃ a, r = ok a ∧ f a = b := by
  refine ⟨fun h => ?_, ?_⟩
  · cases r with
    | error issues => exact absurd h bad_ne_ok
    | ok a => exact ⟨a, rfl, ok_injective h⟩
  · rintro ⟨a, rfl, rfl⟩
    rfl

theorem seq_eq_ok {f : Reading (α → β)} {r : Reading α} {b : β} :
    f <*> r = ok b ↔ ∃ g, f = ok g ∧ ∃ a, r = ok a ∧ g a = b := by
  refine ⟨fun h => ?_, ?_⟩
  · cases f with
    | error issues => cases r <;> exact absurd h bad_ne_ok
    | ok g =>
      cases r with
      | error issues => exact absurd h bad_ne_ok
      | ok a => exact ⟨g, rfl, a, rfl, ok_injective h⟩
  · rintro ⟨g, rfl, a, rfl, rfl⟩
    rfl

theorem under_eq_ok {key : Key} {r : Reading α} {a : α} : under key r = ok a ↔ r = ok a := by
  refine ⟨fun h => ?_, fun h => by rw [h]; rfl⟩
  cases r with
  | error issues => exact absurd h bad_ne_ok
  | ok b => exact h

theorem field_eq_ok {name : String} {r : Reading α} {a : α} : field name r = ok a ↔ r = ok a :=
  under_eq_ok

end Reading

open Reading

/-! ### Lists and dictionaries -/

namespace Reader

variable {α β : Type} {r : Reader α}

theorem itemsFrom_cons_eq_ok {v : Value} {vs : List Value} {i : Nat} {as : List α} :
    itemsFrom r i (v :: vs) = ok as ↔
      ∃ a rest, r v = ok a ∧ itemsFrom r (i + 1) vs = ok rest ∧ a :: rest = as := by
  rw [itemsFrom, seq_eq_ok]
  refine ⟨?_, ?_⟩
  · rintro ⟨_, head, rest, tail, rfl⟩
    obtain ⟨a, read, rfl⟩ := map_eq_ok.mp head
    exact ⟨a, rest, under_eq_ok.mp read, tail, rfl⟩
  · rintro ⟨a, rest, head, tail, rfl⟩
    exact ⟨List.cons a, map_eq_ok.mpr ⟨a, under_eq_ok.mpr head, rfl⟩, rest, tail, rfl⟩

/-- Every member of a list that is read is read from something. -/
theorem exists_of_mem_itemsFrom {vs : List Value} {i : Nat} {as : List α}
    (h : itemsFrom r i vs = ok as) {a : α} (mem : a ∈ as) : ∃ v ∈ vs, r v = ok a := by
  induction vs generalizing i as with
  | nil =>
    cases ok_injective h
    cases mem
  | cons v vs ih =>
    obtain ⟨first, rest, read, tail, rfl⟩ := itemsFrom_cons_eq_ok.mp h
    rcases List.mem_cons.mp mem with rfl | later
    · exact ⟨v, List.mem_cons_self, read⟩
    · obtain ⟨u, in_rest, read⟩ := ih tail later
      exact ⟨u, List.mem_cons_of_mem _ in_rest, read⟩

/-- A list is read only if something is read from every member. -/
theorem exists_of_itemsFrom {vs : List Value} {i : Nat} {as : List α} (h : itemsFrom r i vs = ok as)
    {v : Value} (mem : v ∈ vs) : ∃ a, r v = ok a := by
  induction vs generalizing i as with
  | nil => cases mem
  | cons u vs ih =>
    obtain ⟨first, rest, read, tail, -⟩ := itemsFrom_cons_eq_ok.mp h
    rcases List.mem_cons.mp mem with rfl | later
    · exact ⟨first, read⟩
    · exact ih tail later

theorem exists_of_mem_listOf {v : Value} {as : List α} (h : listOf r v = ok as) {a : α} (mem : a ∈ as) :
    ∃ u, r u = ok a := by
  cases v with
  | list vs =>
    obtain ⟨u, -, read⟩ := exists_of_mem_itemsFrom h mem
    exact ⟨u, read⟩
  | _ => exact absurd h fail_ne_ok

/-- What is written member by member is read member by member. -/
theorem itemsFrom_map {write : β → Value} {f : β → α} {i : Nat} {bs : List β}
    (h : ∀ b ∈ bs, r (write b) = ok (f b)) : itemsFrom r i (bs.map write) = ok (bs.map f) := by
  induction bs generalizing i with
  | nil => rfl
  | cons b rest ih =>
    simp only [List.map_cons, itemsFrom, h b List.mem_cons_self,
      ih fun b mem => h b (List.mem_cons_of_mem _ mem)]
    rfl

theorem listOf_map {write : β → Value} {f : β → α} {bs : List β}
    (h : ∀ b ∈ bs, r (write b) = ok (f b)) : listOf r (.list (bs.map write)) = ok (bs.map f) :=
  itemsFrom_map h

@[simp] theorem text_str (s : String) : text (.str s) = ok s := rfl

@[simp] theorem listOf_text_ofTexts (texts : List String) : listOf text (.ofTexts texts) = ok texts := by
  rw [Value.ofTexts, listOf_map fun s _ => text_str s, List.map_id']

/-- What is not null is read as itself. -/
theorem orNull_of_isNull {v : Value} {a : α} (some_value : v.isNull = false) (read : r v = ok a) :
    orNull r v = ok (some a) := by
  cases v with
  | null => cases some_value
  | _ => exact map_eq_ok.mpr ⟨a, read, rfl⟩

@[simp] theorem dictOf_any (fs : Fields) : dictOf any (.dict fs) = ok fs := by
  show entries any fs = ok fs
  induction fs with
  | nil => rfl
  | cons entry rest ih =>
    rw [entries, ih]
    rfl

@[simp] theorem dictOf_text_ofTextDict (d : Dict String) : dictOf text (.ofTextDict d) = ok d := by
  show entries text (d.map fun entry => (entry.1, Value.str entry.2)) = ok d
  induction d with
  | nil => rfl
  | cons entry rest ih =>
    rw [List.map_cons, entries, ih]
    rfl

theorem record_eq_ok {otherwise : IssueKind} {read : Fields → Reading α} {v : Value} {a : α} :
    record otherwise read v = ok a ↔ ∃ fs, v = .dict fs ∧ read fs = ok a := by
  refine ⟨fun h => ?_, ?_⟩
  · cases v with
    | dict fs => exact ⟨fs, rfl, h⟩
    | _ => exact absurd h fail_ne_ok
  · rintro ⟨fs, rfl, h⟩
    exact h

end Reader

/-! ### Fields -/

namespace Fields

variable {α : Type} {fs : Fields} {name : String} {r : Reader α} {a default : α}

theorem required_eq_ok : fs.required name r = ok a ↔ ∃ v, fs.get? name = some v ∧ r v = ok a := by
  unfold required
  cases fs.get? name with
  | none => exact ⟨fun h => absurd h bad_ne_ok, fun ⟨_, h, _⟩ => by cases h⟩
  | some v =>
    refine field_eq_ok.trans ⟨fun h => ⟨v, rfl, h⟩, ?_⟩
    rintro ⟨_, ⟨⟩, h⟩
    exact h

theorem withDefault_eq_ok :
    fs.withDefault name default r = ok a ↔
      (∃ v, fs.get? name = some v ∧ r v = ok a) ∨ (fs.get? name = none ∧ default = a) := by
  unfold withDefault
  cases fs.get? name with
  | none =>
    refine ⟨fun h => .inr ⟨rfl, ok_injective h⟩, ?_⟩
    rintro (⟨_, ⟨⟩, -⟩ | ⟨-, rfl⟩)
    rfl
  | some v =>
    refine field_eq_ok.trans ⟨fun h => .inl ⟨v, rfl, h⟩, ?_⟩
    rintro (⟨_, ⟨⟩, h⟩ | ⟨⟨⟩, -⟩)
    exact h

theorem withDefault_of_get? {v : Value} (name : String) (at_name : fs.get? name = some v)
    (read : r v = ok a) : fs.withDefault name default r = ok a :=
  withDefault_eq_ok.mpr (.inl ⟨v, at_name, read⟩)

/-- A list that is read from a field has members that are read from something. -/
theorem exists_of_mem_withDefault {as : List α} (h : fs.withDefault name [] (Reader.listOf r) = ok as)
    (mem : a ∈ as) : ∃ v, r v = ok a := by
  rcases withDefault_eq_ok.mp h with ⟨v, -, read⟩ | ⟨-, rfl⟩
  · exact Reader.exists_of_mem_listOf read mem
  · cases mem

end Fields

end Parley
