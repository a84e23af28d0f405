import Parley.Proofs.Moment.Text
import Parley.Proofs.Step.RoundTrip
import Parley.Record.Basic

/-!
# Reading records back

The document of a record is read back field by field. Its steps and edges may be written in either form, so
the lemma on whole documents, `Parley.Record.readerWith_document`, leaves open what they look like and asks
only that they are read as those of the record.
-/

namespace Parley

open Reading

/-! ### Edges and words -/

namespace Edge

variable {fs : Fields} {name other : String} {v : Value}

theorem aliased_of_get? (h : fs.get? name = some v) : aliased fs name other = some (name, v) := by
  rw [aliased, h]

/-- **An edge is read back as it was written.** -/
theorem reader_write (form : Form) (e : Edge) : Edge.reader (e.write form) = ok e := by
  obtain ⟨source, target, button, label⟩ := e
  refine Form.reader_keep (by decide : ["from", "to", "fromButton", "label"].Nodup) fun fs w => ?_
  have start : readEnd fs "from" "source" = ok source := by
    rw [readEnd, aliased_of_get? (w.get? "from" rfl rfl)]
    rfl
  have goal : readEnd fs "to" "target" = ok target := by
    rw [readEnd, aliased_of_get? (w.get? "to" rfl rfl)]
    rfl
  have slot : readButton fs = ok button := by
    unfold readButton
    cases button with
    | none =>
      have unknown : fs.get? "from_button" = none :=
        w.get?_unknown (by decide : "from_button" ∉ ["from", "to", "fromButton", "label"])
          List.not_mem_nil
      rcases w.get?_null "fromButton" rfl with kept | dropped
      · rw [aliased_of_get? kept]
        rfl
      · rw [aliased, dropped, unknown]
        rfl
    | some i =>
      rw [aliased_of_get? (w.get? "fromButton" rfl rfl)]
      show field "fromButton" (some <$> ok i) = ok (some i)
      rw [map_ok, field_ok]
  simp only [Edge.reader, readerAs, Reader.record]
  rw [start, goal, slot, w.textOrNull "label" rfl]
  rfl

end Edge

theorem Status.reader_word (s : Status) : Status.reader (.str s.word) = ok s := by
  cases s <;> rfl

/-! ### Moments -/

/-- **A written moment is read back.** -/
theorem Reader.moment_toText {m : Moment} (h : m.Valid) : Reader.moment (.str m.toText) = ok m := by
  simp only [Reader.moment, Moment.ofText?_toText h]

/-- What is read as a moment is one of the calendar. -/
theorem Reader.valid_of_moment {v : Value} {m : Moment} (h : Reader.moment v = ok m) : m.Valid := by
  unfold Reader.moment at h
  split at h
  · split at h
    · rename_i read
      cases ok_injective h
      exact Moment.valid_of_ofText? read
    · exact absurd h fail_ne_ok
  · split at h
    · rename_i read
      cases ok_injective h
      exact Moment.valid_of_ofNumber? read
    · exact absurd h fail_ne_ok
  · simp only at h
    split at h
    · split at h
      · rename_i read
        cases ok_injective h
        exact Moment.valid_of_ofNumber? read
      · exact absurd h fail_ne_ok
    · exact absurd h fail_ne_ok
  · exact absurd h fail_ne_ok

/-! ### Records -/

namespace Record

open Fields (withDefault_of_get?)

variable {id : String} {made : Moment}

/-- What the steps and times of a record are read from. -/
theorem parts_of_readerWith {v : Value} {r : Record} (h : readerWith id made v = ok r) :
    ∃ fs : Fields, v = .dict fs ∧
      fs.withDefault "workflow" [] (Reader.listOf Step.reader) = ok r.workflow ∧
      fs.withDefault "created_at" made Reader.moment = ok r.createdAt ∧
      fs.withDefault "updated_at" made Reader.moment = ok r.updatedAt := by
  obtain ⟨fs, rfl, parts⟩ := Reader.record_eq_ok.mp h
  simp only [seq_eq_ok, map_eq_ok] at parts
  obtain ⟨_, ⟨_, ⟨_, ⟨_, ⟨_, ⟨_, ⟨_, ⟨_, ⟨_, ⟨_, -, rfl⟩, _, -, rfl⟩, _, -, rfl⟩, _, -, rfl⟩, _, -, rfl⟩,
    _, workflow, rfl⟩, _, -, rfl⟩, _, -, rfl⟩, _, created, rfl⟩, _, updated, rfl⟩ := parts
  exact ⟨fs, rfl, workflow, created, updated⟩

/-- The times of a record that was read are moments of the calendar. -/
theorem valid_of_readerWith {v : Value} {r : Record} (now : made.Valid)
    (h : readerWith id made v = ok r) : r.createdAt.Valid ∧ r.updatedAt.Valid := by
  obtain ⟨fs, rfl, -, created, updated⟩ := parts_of_readerWith h
  have valid : ∀ {name : String} {m : Moment}, Fields.withDefault fs name made Reader.moment = ok m →
      m.Valid := by
    intro name m read
    rcases Fields.withDefault_eq_ok.mp read with ⟨v, -, read⟩ | ⟨-, rfl⟩
    · exact Reader.valid_of_moment read
    · exact now
  exact ⟨valid created, valid updated⟩

/-- The steps of a record that was read are read themselves. -/
theorem isRead_of_readerWith {v : Value} {r : Record} (h : readerWith id made v = ok r) {s : Step}
    (mem : s ∈ r.workflow) : s.IsRead := by
  obtain ⟨fs, -, workflow, -, -⟩ := parts_of_readerWith h
  exact Fields.exists_of_mem_withDefault workflow mem

/-- **A record is read from a document of its fields**, however its steps and edges are written. -/
theorem readerWith_document {r : Record} {steps edges : List Value}
    (workflow : Reader.listOf Step.reader (.list steps) = ok r.workflow)
    (connections : Reader.listOf Edge.reader (.list edges) = ok r.connections)
    (created : r.createdAt.Valid) (updated : r.updatedAt.Valid) :
    readerWith id made (.dict
      [("id", .str r.id), ("name", .str r.name), ("description", .str r.description),
        ("trigger_type", .str r.triggerType), ("trigger_config", .dict r.triggerConfig),
        ("workflow", .list steps), ("connections", .list edges), ("status", .str r.status.word),
        ("created_at", .str r.createdAt.toText), ("updated_at", .str r.updatedAt.toText)]) = ok r := by
  simp only [readerWith, Reader.record, Fields.text, Fields.dict]
  rw [withDefault_of_get? "id" rfl (Reader.text_str _), withDefault_of_get? "name" rfl (Reader.text_str _),
    withDefault_of_get? "description" rfl (Reader.text_str _),
    withDefault_of_get? "trigger_type" rfl (Reader.text_str _),
    withDefault_of_get? "trigger_config" rfl (Reader.dictOf_any _), withDefault_of_get? "workflow" rfl workflow,
    withDefault_of_get? "connections" rfl connections, withDefault_of_get? "status" rfl (Status.reader_word _),
    withDefault_of_get? "created_at" rfl (Reader.moment_toText created),
    withDefault_of_get? "updated_at" rfl (Reader.moment_toText updated)]
  rfl

end Record

end Parley
