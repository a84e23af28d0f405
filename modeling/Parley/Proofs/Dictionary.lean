import Mathlib.Data.List.Nodup
import Parley.Value

/-!
# The laws of dictionaries

A dictionary is a list of pairs, and nothing in its type keeps a key from standing in it twice. The
operations that build one never put a key twice, so the laws below come in two kinds: those that hold
of every list of pairs, because a look-up takes the first entry of a key and no other, and those that
ask for distinct keys, because they speak of *the* entry of a key.

What a look-up finds after each change is stated for all keys at once
(`Parley.Dict.get?_put`, `Parley.Dict.get?_erase`, `Parley.Dict.get?_modify`), and so is what becomes
of the keys themselves; everything later cites these and does not open the operations.
-/

namespace Parley.Dict

variable {α : Type} {d : Dict α} {k key : String} {v value : α}

/-! ### Keys and look-ups -/

@[simp] theorem keys_nil : keys ([] : Dict α) = [] := rfl

@[simp] theorem keys_cons (entry : String × α) (d : Dict α) :
    keys (entry :: d) = entry.1 :: d.keys := rfl

theorem mem_keys_of_mem {entry : String × α} (h : entry ∈ d) : entry.1 ∈ d.keys :=
  List.mem_map_of_mem h

@[simp] theorem get?_nil : get? ([] : Dict α) key = none := rfl

theorem get?_cons (entry : String × α) (d : Dict α) :
    get? (entry :: d) key = if entry.1 = key then some entry.2 else d.get? key := by
  unfold get?
  by_cases h : entry.1 = key
  · rw [List.find?_cons_of_pos (by simpa using h), if_pos h, Option.map_some]
  · rw [List.find?_cons_of_neg (by simpa using h), if_neg h]

theorem get?_append (d late : Dict α) :
    get? (d ++ late) key = (d.get? key).or (late.get? key) := by
  induction d with
  | nil => rfl
  | cons entry d ih =>
    rw [List.cons_append, get?_cons, get?_cons, ih]
    split <;> rfl

@[simp] theorem has_iff_mem_keys : d.has key = true ↔ key ∈ d.keys := by
  simp only [has, keys, List.any_eq_true, beq_iff_eq, List.mem_map]

theorem mem_of_get? (h : d.get? key = some value) : (key, value) ∈ d := by
  induction d with
  | nil => cases h
  | cons entry d ih =>
    rw [get?_cons] at h
    split at h
    · rename_i same
      cases h
      subst same
      exact List.mem_cons_self
    · exact List.mem_cons_of_mem _ (ih h)

theorem get?_eq_none_iff : d.get? key = none ↔ key ∉ d.keys := by
  induction d with
  | nil => simp
  | cons entry d ih =>
    rw [get?_cons, keys_cons, List.mem_cons, not_or, ← ih]
    by_cases h : entry.1 = key
    · simp [h]
    · rw [if_neg h]
      exact ⟨fun none => ⟨Ne.symm h, none⟩, And.right⟩

/-- The keys are what a look-up finds something for. -/
theorem mem_keys_iff : key ∈ d.keys ↔ ∃ value, d.get? key = some value := by
  rw [← not_iff_not, ← get?_eq_none_iff, Option.eq_none_iff_forall_ne_some, not_exists]

theorem mem_keys_of_get? (h : d.get? key = some value) : key ∈ d.keys := mem_keys_iff.mpr ⟨value, h⟩

/-- **The entry of a key**: where keys are distinct, a look-up finds every entry. -/
theorem get?_eq_some_iff (distinct : d.keys.Nodup) :
    d.get? key = some value ↔ (key, value) ∈ d := by
  refine ⟨mem_of_get?, fun mem => ?_⟩
  induction d with
  | nil => cases mem
  | cons entry d ih =>
    rw [keys_cons, List.nodup_cons] at distinct
    rw [get?_cons]
    rcases List.mem_cons.mp mem with same | later
    · rw [← same, if_pos rfl]
    · have other : entry.1 ≠ key := fun same => distinct.1 (same ▸ mem_keys_of_mem later)
      rw [if_neg other]
      exact ih distinct.2 later

/-! ### Putting -/

theorem put_of_not_mem (fresh : key ∉ d.keys) : d.put key value = d ++ [(key, value)] := by
  induction d with
  | nil => rfl
  | cons entry d ih =>
    rw [keys_cons, List.mem_cons, not_or] at fresh
    have other : (entry.1 == key) = false := by simpa using Ne.symm fresh.1
    rw [put, other, if_neg Bool.false_ne_true, ih fresh.2, List.cons_append]

theorem keys_put : (d.put key value).keys = if key ∈ d.keys then d.keys else d.keys ++ [key] := by
  induction d with
  | nil => rfl
  | cons entry d ih =>
    by_cases h : entry.1 = key
    · simp [put, h]
    · have other : key ≠ entry.1 := Ne.symm h
      simp only [put, beq_iff_eq, h, if_false, keys_cons, List.mem_cons, other, false_or, ih]
      split <;> simp

theorem mem_keys_put : k ∈ (d.put key value).keys ↔ k = key ∨ k ∈ d.keys := by
  rw [keys_put]
  split
  · rename_i present
    exact ⟨Or.inr, fun h => h.elim (fun same => same ▸ present) id⟩
  · rw [List.mem_append, List.mem_singleton, or_comm]

theorem nodup_keys_put (distinct : d.keys.Nodup) : (d.put key value).keys.Nodup := by
  rw [keys_put]
  split
  · exact distinct
  · rename_i fresh
    rw [List.nodup_append]
    refine ⟨distinct, List.nodup_singleton _, ?_⟩
    rintro a ha b hb rfl
    rw [List.mem_singleton] at hb
    exact fresh (hb ▸ ha)

theorem get?_put : (d.put key value).get? k = if k = key then some value else d.get? k := by
  induction d with
  | nil =>
    rw [put, get?_cons, get?_nil]
    exact if_congr eq_comm rfl rfl
  | cons entry d ih =>
    by_cases h : entry.1 = key
    · simp only [put, h, beq_self_eq_true, if_true, get?_cons]
      by_cases hk : k = key
      · simp [hk]
      · simp [hk, Ne.symm hk]
    · simp only [put, beq_iff_eq, h, if_false, get?_cons, ih]
      by_cases hk : k = key
      · have : entry.1 ≠ k := fun same => h (same.trans hk)
        simp [hk, h]
      · simp [hk]

/-- Of two puts under one key the later one counts. -/
theorem put_put {later : α} : (d.put key value).put key later = d.put key later := by
  induction d with
  | nil => simp [put]
  | cons entry d ih =>
    by_cases h : entry.1 = key
    · simp [put, h]
    · simp [put, h, ih]

/-- Putting what is there changes nothing. -/
theorem put_self (found : d.get? key = some value) : d.put key value = d := by
  induction d with
  | nil => exact nomatch found
  | cons entry d ih =>
    rw [get?_cons] at found
    by_cases h : entry.1 = key
    · rw [if_pos h] at found
      rw [put, h, beq_self_eq_true, if_pos rfl, ← Option.some.inj found, ← h]
    · rw [if_neg h] at found
      have other : (entry.1 == key) = false := by simpa using h
      rw [put, other, if_neg Bool.false_ne_true, ih found]

/-- **After a merge** the entries of the later dictionary come first. -/
theorem get?_merge {late : Dict α} (distinct : late.keys.Nodup) :
    (d.merge late).get? key = (late.get? key).or (d.get? key) := by
  unfold merge
  induction late generalizing d with
  | nil => rfl
  | cons entry late ih =>
    rw [keys_cons, List.nodup_cons] at distinct
    rw [List.foldl_cons, ih distinct.2, get?_put, get?_cons]
    by_cases same : entry.1 = key
    · have later : get? late key = none := get?_eq_none_iff.mpr (same ▸ distinct.1)
      rw [if_pos same, if_pos same.symm, later]
      rfl
    · rw [if_neg same, if_neg (Ne.symm same)]

/-- The entries after a put are the one put and the old ones of other keys. -/
theorem mem_put (distinct : d.keys.Nodup) {entry : String × α} :
    entry ∈ d.put key value ↔ entry = (key, value) ∨ (entry ∈ d ∧ entry.1 ≠ key) := by
  obtain ⟨k, v⟩ := entry
  rw [← get?_eq_some_iff (nodup_keys_put distinct), get?_put, ← get?_eq_some_iff distinct]
  by_cases h : k = key
  · simp [h, eq_comm]
  · simp [h]

/-! ### Erasing and changing -/

theorem keys_erase : (d.erase key).keys = d.keys.filter (· != key) := by
  simp only [erase, keys, List.filter_map]
  rfl

theorem mem_erase {entry : String × α} : entry ∈ d.erase key ↔ entry ∈ d ∧ entry.1 ≠ key := by
  simp only [erase, List.mem_filter, bne_iff_ne]

theorem erase_of_not_mem (absent : key ∉ d.keys) : d.erase key = d := by
  refine List.filter_eq_self.mpr fun entry mem => ?_
  rw [bne_iff_ne]
  rintro rfl
  exact absent (mem_keys_of_mem mem)

theorem nodup_keys_erase (distinct : d.keys.Nodup) : (d.erase key).keys.Nodup := by
  rw [keys_erase]
  exact distinct.filter _

theorem get?_erase : (d.erase key).get? k = if k = key then none else d.get? k := by
  induction d with
  | nil => simp [erase]
  | cons entry d ih =>
    simp only [erase, List.filter_cons, bne_iff_ne] at ih ⊢
    by_cases h : entry.1 = key
    · rw [if_neg (not_not.mpr h), ih, get?_cons, h]
      by_cases hk : k = key
      · simp [hk]
      · simp [hk, Ne.symm hk]
    · rw [if_pos h, get?_cons, get?_cons, ih]
      by_cases hk : k = key
      · simp [hk, h]
      · simp [hk]

@[simp] theorem keys_modify (f : α → α) : (d.modify key f).keys = d.keys := by
  simp only [modify, keys, List.map_map]
  refine List.map_congr_left fun entry _ => ?_
  simp only [Function.comp_apply]
  split <;> rfl

@[simp] theorem keys_mapValues (f : α → α) : (d.mapValues f).keys = d.keys := by
  simp only [mapValues, keys, List.map_map, Function.comp_def]

theorem get?_modify (f : α → α) :
    (d.modify key f).get? k = if k = key then (d.get? k).map f else d.get? k := by
  induction d with
  | nil => simp [modify]
  | cons entry d ih =>
    simp only [modify, List.map_cons, beq_iff_eq] at ih ⊢
    rw [get?_cons, get?_cons, ih]
    by_cases h : entry.1 = key <;> by_cases hk : k = key <;> by_cases same : entry.1 = k <;>
      simp_all

theorem modify_cons (entry : String × α) (d : Dict α) (f : α → α) :
    modify (entry :: d) key f =
      (if entry.1 = key then (entry.1, f entry.2) else entry) :: d.modify key f := by
  simp only [modify, List.map_cons, beq_iff_eq]

theorem modify_of_not_mem {f : α → α} (absent : key ∉ d.keys) : d.modify key f = d := by
  refine (List.map_congr_left fun entry mem => if_neg ?_).trans (List.map_id _)
  rw [beq_iff_eq]
  rintro rfl
  exact absent (mem_keys_of_mem mem)

/-- **Changing the entry of a key** is putting the changed value in its place. -/
theorem modify_eq_put {f : α → α} (distinct : d.keys.Nodup) (found : d.get? key = some value) :
    d.modify key f = d.put key (f value) := by
  induction d with
  | nil => cases found
  | cons entry d ih =>
    rw [keys_cons, List.nodup_cons] at distinct
    rw [get?_cons] at found
    by_cases here : entry.1 = key
    · -- no later entry has the key, so nothing else is changed
      rw [if_pos here] at found
      obtain rfl := Option.some.inj found
      rw [modify_cons, if_pos here, modify_of_not_mem (here ▸ distinct.1), put, here,
        beq_self_eq_true, if_pos rfl]
    · rw [if_neg here] at found
      have other : (entry.1 == key) = false := by simpa using here
      rw [modify_cons, if_neg here, ih distinct.2 found, put, other, if_neg Bool.false_ne_true]

/-- A value just put is the one that is changed. -/
theorem modify_put {f : α → α} (distinct : d.keys.Nodup) :
    (d.put key value).modify key f = d.put key (f value) := by
  have found : (d.put key value).get? key = some value := by rw [get?_put, if_pos rfl]
  rw [modify_eq_put (nodup_keys_put distinct) found, put_put]

theorem modify_eq_self {f : α → α} (same : ∀ v, (key, v) ∈ d → f v = v) : d.modify key f = d := by
  refine (List.map_congr_left fun entry mem => ?_).trans (List.map_id _)
  by_cases h : entry.1 = key
  · rw [if_pos (beq_iff_eq.mpr h), same entry.2 (h ▸ mem), id]
  · rw [if_neg (mt beq_iff_eq.mp h), id]

/-- Changing one value and then all of them, in either order. -/
theorem mapValues_modify {f m m' : α → α} (swap : ∀ v, f (m v) = m' (f v)) :
    (d.modify key m).mapValues f = (d.mapValues f).modify key m' := by
  simp only [mapValues, modify, List.map_map]
  refine List.map_congr_left fun entry _ => ?_
  by_cases h : entry.1 = key <;> simp [h, swap]

/-- A change of one value that is not seen once all of them are changed. -/
theorem mapValues_modify_of_eq {f m : α → α} (same : ∀ v, f (m v) = f v) :
    (d.modify key m).mapValues f = d.mapValues f := by
  have swap (v : α) : f (m v) = id (f v) := same v
  rw [mapValues_modify swap]
  exact modify_eq_self fun _ _ => rfl

theorem get?_mapValues (f : α → α) : (d.mapValues f).get? k = (d.get? k).map f := by
  induction d with
  | nil => rfl
  | cons entry d ih =>
    simp only [mapValues, List.map_cons] at ih ⊢
    rw [get?_cons, get?_cons, ih]
    split <;> rfl

theorem mapValues_mapValues {f f' : α → α} :
    (d.mapValues f).mapValues f' = d.mapValues fun v => f' (f v) := List.map_map

theorem mapValues_put (f : α → α) : (d.put key value).mapValues f = (d.mapValues f).put key (f value) := by
  induction d with
  | nil => rfl
  | cons entry d ih =>
    by_cases h : entry.1 = key
    · simp [put, mapValues, h]
    · simpa [put, mapValues, h] using ih

theorem erase_mapValues (f : α → α) : (d.mapValues f).erase key = (d.erase key).mapValues f := by
  rw [erase, erase, mapValues, mapValues, List.filter_map]
  rfl

/-- What is put is gone when its key is erased. -/
theorem erase_put : (d.put key value).erase key = d.erase key := by
  induction d with
  | nil => simp [put, erase]
  | cons entry d ih =>
    by_cases h : entry.1 = key
    · simp [put, erase, h]
    · simpa [put, erase, h] using ih

end Parley.Dict
