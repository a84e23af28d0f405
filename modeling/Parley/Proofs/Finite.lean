import Parley.Proofs.Dictionary

/-!
# Documents without infinite numbers

`Parley.Value.finite` puts null in the place of every number that is infinite or not a number. It has
nothing to do exactly if there is no such number (`Parley.Value.finite_eq_self_iff`), and afterwards there
is none.
-/

namespace Parley.Value

mutual

/-- Whether every floating number in a document is finite. -/
def isFinite : Value → Bool
  | float x => x.isFinite
  | list items => itemsFinite items
  | dict fields => fieldsFinite fields
  | null => true
  | bool _ => true
  | int _ => true
  | str _ => true

/-- Whether every floating number in the members of a list is finite. -/
def itemsFinite : List Value → Bool
  | [] => true
  | item :: rest => isFinite item && itemsFinite rest

/-- Whether every floating number in the fields of a dictionary is finite. -/
def fieldsFinite : List (String × Value) → Bool
  | [] => true
  | (_, value) :: rest => isFinite value && fieldsFinite rest

end

/-! ### Members and fields -/

theorem finiteItems_eq_map (items : List Value) : finiteItems items = items.map finite := by
  induction items with
  | nil => rfl
  | cons item rest ih => rw [finiteItems, ih, List.map_cons]

theorem finiteFields_eq_map (fields : Fields) :
    finiteFields fields = fields.map fun entry => (entry.1, entry.2.finite) := by
  induction fields with
  | nil => rfl
  | cons entry rest ih => rw [finiteFields, ih, List.map_cons]

theorem fieldsFinite_eq_all (fields : Fields) : fieldsFinite fields = fields.all (·.2.isFinite) := by
  induction fields with
  | nil => rfl
  | cons entry rest ih => rw [fieldsFinite, ih, List.all_cons]

theorem itemsFinite_eq_all (items : List Value) : itemsFinite items = items.all isFinite := by
  induction items with
  | nil => rfl
  | cons item rest ih => rw [itemsFinite, ih, List.all_cons]

theorem itemsFinite_map {α : Type} {write : α → Value} {as : List α}
    (h : ∀ a ∈ as, (write a).isFinite = true) : itemsFinite (as.map write) = true := by
  rw [itemsFinite_eq_all, List.all_map, List.all_eq_true]
  exact h

theorem fieldsFinite_append (fields more : Fields) :
    fieldsFinite (fields ++ more) = (fieldsFinite fields && fieldsFinite more) := by
  rw [fieldsFinite_eq_all, List.all_append, ← fieldsFinite_eq_all, ← fieldsFinite_eq_all]

/-- What stands under a name once there are no infinite numbers. -/
theorem get?_finiteFields (fields : Fields) (name : String) :
    Dict.get? (finiteFields fields) name = (fields.get? name).map finite := by
  rw [finiteFields_eq_map]
  exact Dict.get?_mapValues _

@[simp] theorem isFinite_ofText? (s : Option String) : (ofText? s).isFinite = true := by
  cases s <;> rfl

@[simp] theorem isFinite_ofTexts (texts : List String) : (ofTexts texts).isFinite = true :=
  itemsFinite_map fun _ _ => rfl

@[simp] theorem isFinite_ofTextDict (d : Dict String) : (ofTextDict d).isFinite = true := by
  rw [ofTextDict, isFinite, fieldsFinite_eq_all, List.all_map, List.all_eq_true]
  exact fun _ _ => rfl

/-! ### Finite documents -/

mutual

/-- **A document is its own finite form exactly if it is finite.** -/
theorem finite_eq_self_iff (v : Value) : v.finite = v ↔ v.isFinite = true := by
  cases v with
  | float x =>
    simp only [finite, isFinite]
    cases x.isFinite <;> simp
  | list items => simp only [finite, isFinite, list.injEq, finiteItems_eq_self_iff items]
  | dict fields => simp only [finite, isFinite, dict.injEq, finiteFields_eq_self_iff fields]
  | null => simp only [finite, isFinite]
  | bool b => simp only [finite, isFinite]
  | int n => simp only [finite, isFinite]
  | str s => simp only [finite, isFinite]

theorem finiteItems_eq_self_iff (items : List Value) :
    finiteItems items = items ↔ itemsFinite items = true := by
  cases items with
  | nil => simp only [finiteItems, itemsFinite]
  | cons item rest =>
    simp only [finiteItems, itemsFinite, List.cons.injEq, Bool.and_eq_true, finite_eq_self_iff item,
      finiteItems_eq_self_iff rest]

theorem finiteFields_eq_self_iff (fields : Fields) :
    finiteFields fields = fields ↔ fieldsFinite fields = true := by
  match fields with
  | [] => simp only [finiteFields, fieldsFinite]
  | (key, value) :: rest =>
    simp only [finiteFields, fieldsFinite, List.cons.injEq, Prod.mk.injEq, true_and, Bool.and_eq_true,
      finite_eq_self_iff value, finiteFields_eq_self_iff rest]

end

mutual

/-- The finite form of a document is finite. -/
theorem isFinite_finite (v : Value) : v.finite.isFinite = true := by
  cases v with
  | float x =>
    simp only [finite]
    cases h : x.isFinite with
    | true => rw [if_pos rfl, isFinite, h]
    | false => rfl
  | list items => simp only [finite, isFinite, itemsFinite_finiteItems items]
  | dict fields => simp only [finite, isFinite, fieldsFinite_finiteFields fields]
  | null => rfl
  | bool b => rfl
  | int n => rfl
  | str s => rfl

theorem itemsFinite_finiteItems (items : List Value) : itemsFinite (finiteItems items) = true := by
  cases items with
  | nil => rfl
  | cons item rest =>
    simp only [finiteItems, itemsFinite, isFinite_finite item, itemsFinite_finiteItems rest,
      Bool.and_self]

theorem fieldsFinite_finiteFields (fields : Fields) : fieldsFinite (finiteFields fields) = true := by
  cases fields with
  | nil => rfl
  | cons entry rest =>
    simp only [finiteFields, fieldsFinite, isFinite_finite entry.2, fieldsFinite_finiteFields rest,
      Bool.and_self]

end

theorem finiteFields_finiteFields (fields : Fields) :
    finiteFields (finiteFields fields) = finiteFields fields :=
  (finiteFields_eq_self_iff _).mpr (fieldsFinite_finiteFields fields)

end Parley.Value
