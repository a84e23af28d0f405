import Parley.Proofs.Graph.RoundTrip

/-!
# Steps that are read again

A step that was read from a document is a fixed point of writing and reading: written in full it is read back as it is,
and written compactly as it is without the fields that are null and have no meaning
(`Parley.Step.reader_write_of_reader`). Its document may have been in one of the forms of older automations, which are
brought into the present one when they are read. What is written is in the present form, which is left alone.
-/

namespace Parley

open Reading

variable {form : Form}

/-! ### Finite steps -/

theorem Body.mapUntyped_self (b : Body) : (b.mapUntyped (fun fs => fs) fun fs => fs) = b := by
  have button : Button.mapExtras (fun fs => fs) = id := rfl
  have attachment : Attachment.mapExtras (fun fs => fs) = id := rfl
  have field : DataField.mapExtras (fun fs => fs) = id := rfl
  cases b with
  | message s => simp only [mapUntyped, MessageSettings.mapExtras, button, attachment, List.map_id]; rfl
  | input s => simp only [mapUntyped, InputSettings.mapExtras, field, List.map_id]; rfl
  | _ => rfl

/-- **A finite step** loses nothing when it is written in full. -/
theorem Step.mapUntyped_full_eq_self {s : Step} (finite : s.FiniteUntyped) :
    s.mapUntyped Form.full.tidy Value.finiteFields = s := by
  have same : s.body.mapUntyped Form.full.tidy Value.finiteFields = s.body := by
    refine Eq.trans (Body.mapUntyped_congr fun fs mem => ?_) s.body.mapUntyped_self
    have unchanged : Value.finiteFields fs = fs := (Value.finiteFields_eq_self_iff fs).mpr (finite fs mem)
    exact ⟨unchanged, unchanged⟩
  rw [mapUntyped, same]

/-! ### Older forms -/

/-- What is read for settings in an older form: a delay in seconds becomes a duration, and settings of a trigger without
a type become those of a keyword trigger. -/
def Body.modernized : Body → Fields → Fields
  | .delay _ => DelaySettings.modern
  | .trigger _ => TriggerSettings.withType
  | _ => id

/-- A known field that is not null is the first of its name in a record. -/
theorem Form.get?_record {known extras : Fields} {v : Value} (name : String) (at_name : known.get? name = some v)
    (some_value : v.isNull = false) :
    Dict.get? (form.keep known ++ Value.finiteFields (form.keep extras)) name = some v := by
  rw [Dict.get?_append, Form.get?_keep at_name some_value, Option.some_or]

/-- **Settings are written in the present form.** -/
theorem Body.modernized_write (form : Form) (b : Body) :
    ∃ fs, b.write form = .dict fs ∧ b.modernized fs = fs := by
  cases b with
  | delay s =>
    exact ⟨_, rfl, DelaySettings.modern_eq_self (Form.get?_record "duration" rfl rfl)⟩
  | trigger s =>
    obtain ⟨common, rule⟩ := s
    -- the type stands behind the keywords in each kind of trigger
    cases rule <;>
      exact ⟨_, rfl, TriggerSettings.withType_eq_self (Form.get?_record "type" rfl rfl)⟩
  | _ => exact ⟨_, rfl, rfl⟩

/-! ### Reading again -/

namespace Step

/-- **Steps are fixed points of writing and reading.** Whatever document a step was read from, as long as the numbers in
its dictionaries without a schema are finite, it is read back from what is written of it: from the full form as it is,
and from the compact form without the null fields that have no meaning. In both forms its settings are present ones: to
bring them into the present form once more changes nothing. -/
theorem reader_write_of_reader {v : Value} {s : Step} (read : Step.reader v = ok s) (finite : s.FiniteUntyped) :
    Step.reader (s.write .full) = ok s ∧ Step.reader (s.write .compact) = ok s.withoutNulls ∧
      ∀ form, ∃ fs, s.body.write form = .dict fs ∧ s.body.modernized fs = fs := by
  have sound : s.Sound := sound_of_reader read
  refine ⟨?_, ?_, fun form => s.body.modernized_write form⟩
  · rw [reader_write .full sound, mapUntyped_full_eq_self finite]
  · rw [reader_write .compact sound, tidied_eq_withoutNulls finite]

/-- A delay in seconds, with a field without a meaning that is null. -/
theorem reader_write_of_reader_delay :
    ∃ s, Step.reader (.dict [("id", .str "w"), ("type", .str "delay"),
        ("config", .dict [("delay", .int 3), ("note", .null)])]) = ok s ∧
      s.untyped = [[("note", .null)]] ∧ Step.reader (s.write .full) = ok s ∧
      Step.reader (s.write .compact) = ok s.withoutNulls ∧ s.withoutNulls.untyped = [[]] := by
  refine ⟨{ id := "w", body := .delay { duration := Float.ofInt 3, unit := .seconds, extras := [("note", .null)] } },
    rfl, rfl, ?_⟩
  obtain ⟨full, compact, -⟩ := reader_write_of_reader (v := .dict [("id", .str "w"), ("type", .str "delay"),
    ("config", .dict [("delay", .int 3), ("note", .null)])]) rfl (fun fs mem => by
      cases List.mem_singleton.mp mem
      rfl)
  exact ⟨full, compact, rfl⟩

end Step

end Parley
