import Parley.Proofs.Record
import Parley.Proofs.Step.Legible
import Parley.Store

/-!
# What a store makes of a record

A record is stored without infinite numbers and read back on the next look at it. If its steps are legible
it is read back, with null in the place of what was infinite among the settings of its trigger
(`Parley.Store.recordIn_document`); if one of them is not, it is not read back at all
(`Parley.Store.recordIn_illegible`). It comes back as it was exactly if none of its numbers is infinite.
-/

namespace Parley

open Reading

/-- An edge holds no floating number. -/
theorem Edge.isFinite_write (e : Edge) : (e.write .full).isFinite = true := by
  obtain ⟨source, target, button, label⟩ := e
  cases button <;> simp [Edge.write, Form.keep, Value.isFinite, Value.fieldsFinite, Value.ofInt?]

namespace Record

variable {r : Record}

/-! ### Records without infinite numbers -/

/-- Whether the floating numbers of all steps are finite. -/
def Legible (r : Record) : Prop := ∀ s ∈ r.workflow, s.Legible

/-- Whether the floating numbers of all steps are finite, and those among the settings of the trigger. -/
def Finite (r : Record) : Prop := r.Legible ∧ Value.fieldsFinite r.triggerConfig = true

instance (r : Record) : Decidable r.Legible :=
  inferInstanceAs (Decidable (∀ s ∈ r.workflow, s.Legible))

instance (r : Record) : Decidable r.Finite :=
  inferInstanceAs (Decidable (r.Legible ∧ Value.fieldsFinite r.triggerConfig = true))

/-- The record as it is kept: null in the place of infinite numbers among the settings of the trigger. -/
def kept (r : Record) : Record := { r with triggerConfig := Value.finiteFields r.triggerConfig }

@[simp] theorem id_kept : r.kept.id = r.id := rfl

@[simp] theorem updatedAt_kept : r.kept.updatedAt = r.updatedAt := rfl

theorem kept_eq_self_iff : r.kept = r ↔ Value.fieldsFinite r.triggerConfig = true := by
  rw [← Value.finiteFields_eq_self_iff]
  obtain ⟨id, name, description, triggerType, triggerConfig, workflow, connections, status, made, changed⟩ := r
  simp only [kept, Record.mk.injEq, true_and, and_true]

/-! ### Records in their normal form -/

/-- **A record as a store holds it**: its steps are read, and are read back as they are written; its times
are those of the calendar, and the last one is that of a clock of unknown offset. -/
structure Normal (r : Record) : Prop where
  read : ∀ s ∈ r.workflow, s.IsRead
  tidy : ∀ s ∈ r.workflow, s.mapUntyped Form.full.tidy Value.finiteFields = s
  created : r.createdAt.Valid
  updated : r.updatedAt.Valid
  onClock : r.updatedAt.ahead = none

/-- The document of a record without infinite numbers. -/
theorem finite_write (r : Record) : r.write.finite = .dict
    [("id", .str r.id), ("name", .str r.name), ("description", .str r.description),
      ("trigger_type", .str r.triggerType), ("trigger_config", .dict r.kept.triggerConfig),
      ("workflow", .list (r.workflow.map fun s => (s.write .full).finite)),
      ("connections", .list (r.connections.map (Edge.write .full))), ("status", .str r.status.word),
      ("created_at", .str r.createdAt.toText), ("updated_at", .str r.updatedAt.toText)] := by
  have edge (e : Edge) : (e.write .full).finite = e.write .full :=
    (Value.finite_eq_self_iff _).mpr e.isFinite_write
  simp only [write, fields, Value.finite, Value.finiteFields, Value.finiteFields_finiteFields,
    Value.finiteItems_eq_map, List.map_map, Function.comp_def, edge]
  rfl

end Record

namespace Store

variable {r : Record}

theorem recordIn_of_read {v : Value} (h : Record.readerWith "" default v = ok r) :
    recordIn (.document v) = .ok r := by
  rw [recordIn, h]
  rfl

/-- **A legible record is read back**, but for the infinite numbers among the settings of its trigger. -/
theorem recordIn_document (h : r.Normal) (legible : r.Legible) :
    recordIn (.document r.write.finite) = .ok r.kept := by
  have workflow : Reader.listOf Step.reader (.list (r.workflow.map fun s => (s.write .full).finite)) =
      ok r.kept.workflow := by
    rw [Reader.listOf_map fun s mem => Step.reader_finite_write (h.read s mem).sound (legible s mem),
      List.map_congr_left h.tidy, List.map_id']
    rfl
  have connections : Reader.listOf Edge.reader (.list (r.connections.map (Edge.write .full))) =
      ok r.kept.connections := by
    rw [Reader.listOf_map fun e _ => Edge.reader_write .full e, List.map_id']
    rfl
  refine recordIn_of_read ?_
  rw [Record.finite_write]
  exact Record.readerWith_document (r := r.kept) workflow connections h.created h.updated

/-- **A record that is not legible is not read back.** -/
theorem recordIn_illegible (h : ¬ r.Legible) :
    ∃ issues, recordIn (.document r.write.finite) = .error (.unreadable issues) := by
  rw [recordIn]
  cases read : Record.readerWith "" default r.write.finite with
  | error issues => exact ⟨issues, rfl⟩
  | ok back =>
    refine absurd (fun s mem => ?_) h
    obtain ⟨fs, same, workflow, -, -⟩ := Record.parts_of_readerWith read
    rw [Record.finite_write] at same
    cases same
    -- the steps are read from their field, so each of them is read back
    rcases Fields.withDefault_eq_ok.mp workflow with ⟨v, found, listed⟩ | ⟨missing, -⟩
    · cases found
      obtain ⟨t, back⟩ := Reader.exists_of_itemsFrom listed (List.mem_map_of_mem mem)
      exact Step.legible_of_reader back
    · cases missing

end Store

end Parley
