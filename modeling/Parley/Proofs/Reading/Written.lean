import Parley.Proofs.Finite
import Parley.Proofs.Reading.Basic
import Parley.Step.Writer

/-!
# Reading what was written

A record is written as its known fields, perhaps without those that are null, and after them the fields
without a meaning (`Parley.Form.record`). As long as no field without a meaning goes by a known name,
every known field is found again and the others are left over. `Parley.Written` is this situation, and
its lemmas are all that the round trips of records need to know of it.
-/

namespace Parley

open Reading

/-- The fields without a meaning as they are written. -/
def Form.tidy (form : Form) (extras : Fields) : Fields := Value.finiteFields (form.keep extras)

/-- Fields none of which goes by one of some names. -/
def Fields.Free (names : List String) (fs : Fields) : Prop := ∀ name ∈ names, name ∉ fs.keys

namespace Fields

variable {names : List String} {fs : Fields} {name : String}

theorem free_without (fs : Fields) (names : List String) : Free names (fs.without names) := by
  intro name known mem
  obtain ⟨entry, left, rfl⟩ := List.mem_map.mp mem
  have other := (List.mem_filter.mp left).2
  rw [Bool.not_eq_true', ← Bool.not_eq_true, List.contains_iff_mem] at other
  exact other known

theorem without_eq_self (h : fs.Free names) : fs.without names = fs := by
  refine List.filter_eq_self.mpr fun entry mem => ?_
  rw [Bool.not_eq_true', ← Bool.not_eq_true, List.contains_iff_mem]
  exact fun known => h _ known (List.mem_map_of_mem mem)

theorem without_eq_nil (h : ∀ name ∈ fs.keys, name ∈ names) : fs.without names = [] := by
  refine List.filter_eq_nil_iff.mpr fun entry mem => ?_
  rw [Bool.not_eq_true', Bool.not_eq_false, List.contains_iff_mem]
  exact h _ (List.mem_map_of_mem mem)

end Fields

namespace Form

variable {form : Form} {names : List String} {fs : Fields} {name : String}

theorem keep_subset (form : Form) (fs : Fields) : (form.keep fs).keys ⊆ fs.keys := by
  cases form with
  | full => exact List.Subset.refl _
  | compact => exact List.map_subset _ List.filter_sublist.subset

theorem keys_finiteFields (fs : Fields) : Dict.keys (Value.finiteFields fs) = Dict.keys fs := by
  rw [Value.finiteFields_eq_map, Dict.keys, Dict.keys, List.map_map]
  rfl

theorem tidy_subset (form : Form) (fs : Fields) : (form.tidy fs).keys ⊆ fs.keys := by
  rw [tidy, keys_finiteFields]
  exact form.keep_subset fs

theorem free_tidy (h : fs.Free names) : Fields.Free names (form.tidy fs) :=
  fun name known mem => h name known (form.tidy_subset fs mem)

/-- A field that is not null is kept. -/
theorem get?_keep {v : Value} (at_name : fs.get? name = some v) (some_value : v.isNull = false) :
    (form.keep fs).get? name = some v := by
  cases form with
  | full => exact at_name
  | compact =>
    show Dict.get? (fs.filter fun entry => !entry.2.isNull) name = some v
    -- a field in front of it may be dropped, but goes by another name
    induction fs with
    | nil => cases at_name
    | cons entry rest ih =>
      obtain ⟨key, value⟩ := entry
      rw [Dict.get?_cons] at at_name
      by_cases same : key = name
      · rw [if_pos same] at at_name
        cases at_name
        rw [List.filter_cons_of_pos (by simp [some_value]), Dict.get?_cons, if_pos same]
      · rw [if_neg same] at at_name
        rw [List.filter_cons]
        split
        · rw [Dict.get?_cons, if_neg same]
          exact ih at_name
        · exact ih at_name

/-- A field that is null is kept or dropped. -/
theorem get?_keep_null (distinct : fs.keys.Nodup) (at_name : fs.get? name = some .null) :
    (form.keep fs).get? name = some .null ∨ (form.keep fs).get? name = none := by
  cases form with
  | full => exact .inl at_name
  | compact =>
    right
    rw [Dict.get?_eq_none_iff]
    intro mem
    obtain ⟨⟨key, value⟩, kept, rfl⟩ := List.mem_map.mp mem
    obtain ⟨there, some_value⟩ := List.mem_filter.mp kept
    rw [(Dict.get?_eq_some_iff distinct).mpr there] at at_name
    cases at_name
    cases some_value

end Form

/-! ### Written records -/

/-- The fields of a written record: known ones, each under a name of its own, and then fields without a
meaning, none of which goes by a known name. -/
structure Written (form : Form) (known extras fs : Fields) : Prop where
  eq : fs = form.keep known ++ form.tidy extras
  free : extras.Free known.keys
  distinct : known.keys.Nodup

/-- To read a written record, it is enough to read its fields. -/
theorem Form.reader_record {α : Type} {form : Form} {known extras : Fields} {r : Reader α} {a : α}
    (free : extras.Free known.keys) (distinct : known.keys.Nodup)
    (h : ∀ fs, Written form known extras fs → r (.dict fs) = ok a) :
    r (form.record known extras) = ok a :=
  h _ ⟨rfl, free, distinct⟩

/-- The same for a record that has no fields without a meaning. -/
theorem Form.reader_keep {α : Type} {form : Form} {known : Fields} {r : Reader α} {a : α}
    (distinct : known.keys.Nodup) (h : ∀ fs, Written form known [] fs → r (.dict fs) = ok a) :
    r (.dict (form.keep known)) = ok a := by
  have no_extras : form.tidy [] = [] := by cases form <;> rfl
  refine h _ ⟨?_, fun _ _ mem => absurd mem List.not_mem_nil, distinct⟩
  rw [no_extras, List.append_nil]

namespace Written

variable {form : Form} {known extras fs : Fields} {name : String} {v : Value}

/-- What is found under a known name. -/
theorem get?_known (h : Written form known extras fs) (mem : name ∈ known.keys) :
    fs.get? name = (form.keep known).get? name := by
  rw [h.eq, Dict.get?_append]
  have none_left : (form.tidy extras).get? name = none :=
    Dict.get?_eq_none_iff.mpr fun left => h.free name mem (form.tidy_subset extras left)
  rw [none_left, Option.or_none]

/-- A known field that is not null is found again. -/
theorem get? (h : Written form known extras fs) (name : String) (at_name : known.get? name = some v)
    (some_value : v.isNull = false) : fs.get? name = some v := by
  rw [h.get?_known (Dict.mem_keys_of_mem (Dict.mem_of_get? at_name))]
  exact Form.get?_keep at_name some_value

/-- A known field that is null is found again or was dropped. -/
theorem get?_null (h : Written form known extras fs) (name : String)
    (at_name : known.get? name = some .null) : fs.get? name = some .null ∨ fs.get? name = none := by
  rw [h.get?_known (Dict.mem_keys_of_mem (Dict.mem_of_get? at_name))]
  exact Form.get?_keep_null h.distinct at_name

/-- Nothing is found under a name that is neither known nor that of a field without a meaning. -/
theorem get?_unknown (h : Written form known extras fs) (unknown : name ∉ known.keys)
    (unused : name ∉ extras.keys) : fs.get? name = none := by
  rw [h.eq, Dict.get?_append, Option.or_eq_none_iff, Dict.get?_eq_none_iff, Dict.get?_eq_none_iff]
  exact ⟨fun mem => unknown (form.keep_subset known mem), fun mem => unused (form.tidy_subset extras mem)⟩

variable {α : Type} {r : Reader α} {a default : α}

/-- **A required field is read back.** -/
theorem required (h : Written form known extras fs) (name : String) (at_name : known.get? name = some v)
    (some_value : v.isNull = false) (read : r v = ok a) : fs.required name r = ok a :=
  Fields.required_eq_ok.mpr ⟨v, h.get? name at_name some_value, read⟩

/-- **A field with a default is read back.** -/
theorem withDefault (h : Written form known extras fs) (name : String) (at_name : known.get? name = some v)
    (some_value : v.isNull = false) (read : r v = ok a) : fs.withDefault name default r = ok a :=
  Fields.withDefault_of_get? name (h.get? name at_name some_value) read

/-- **A field that may be null is read back**, also when it was dropped. -/
theorem orNull {a : Option α} (h : Written form known extras fs) (name : String) (write : α → Value)
    (at_name : known.get? name = some (a.elim .null write)) (some_value : ∀ a, (write a).isNull = false)
    (read : ∀ a, r (write a) = ok a) : fs.withDefault name none (Reader.orNull r) = ok a := by
  cases a with
  | none =>
    rcases h.get?_null name at_name with kept | dropped
    · exact Fields.withDefault_of_get? name kept rfl
    · exact Fields.withDefault_eq_ok.mpr (.inr ⟨dropped, rfl⟩)
  | some a =>
    exact Fields.withDefault_of_get? name (h.get? name at_name (some_value a))
      (Reader.orNull_of_isNull (some_value a) (read a))

theorem textOrNull {s : Option String} (h : Written form known extras fs) (name : String)
    (at_name : known.get? name = some (.ofText? s)) : fs.textOrNull name = ok s :=
  h.orNull name .str (by rw [at_name]; cases s <;> rfl) (fun _ => rfl) fun _ => rfl

/-- **The fields without a meaning are left over.** -/
theorem without (h : Written form known extras fs) : fs.without known.keys = form.tidy extras := by
  rw [h.eq, Dict.without, List.filter_append]
  have no_known := Fields.without_eq_nil (form.keep_subset known)
  have all_others : (form.tidy extras).without known.keys = form.tidy extras :=
    Fields.without_eq_self (Form.free_tidy h.free)
  rw [Dict.without] at no_known all_others
  rw [no_known, all_others, List.nil_append]

end Written

end Parley
