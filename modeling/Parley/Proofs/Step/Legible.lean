import Parley.Proofs.Step.RoundTrip

/-!
# Numbers that a document cannot hold

A floating number of a step may be infinite or not a number: its readers take `inf` and `nan` for numbers.
In a document without infinite numbers null stands in its place, and null is no number. A step is *legible*
if all its floating numbers are finite: then it is read back from such a document, and otherwise it is not
(`Parley.Step.reader_finite_write`, `Parley.Step.legible_of_reader`). The dictionaries without a schema do
not matter to this, since nulls may stand in them.
-/

namespace Parley

open Reading

/-! ### The numbers of a step -/

/-- The floating numbers in the settings of a body. -/
def Body.numbers : Body → List Float
  | .reply s => [s.temperature]
  | .delay s => [s.duration]
  | _ => []

/-- The floating numbers of a step that have a meaning. -/
def Step.numbers (s : Step) : List Float :=
  (match s.position with
    | some p => [p.x, p.y]
    | none => []) ++ s.body.numbers

/-- Whether all these numbers are finite. -/
def Step.Legible (s : Step) : Prop := ∀ x ∈ s.numbers, x.isFinite = true

instance (s : Step) : Decidable s.Legible :=
  inferInstanceAs (Decidable (∀ x ∈ s.numbers, x.isFinite = true))

/-! ### Writing without infinite numbers -/

open Value (fieldsFinite)

/-- The fields without a meaning of a record are written without infinite numbers. -/
@[simp] theorem Form.isFinite_record (known extras : Fields) :
    (Form.full.record known extras).isFinite = fieldsFinite known := by
  show fieldsFinite (known ++ Value.finiteFields extras) = _
  rw [Value.fieldsFinite_append, Value.fieldsFinite_finiteFields, Bool.and_true]

@[simp] theorem Settings.isFinite_write (s : Settings) (known : Fields) :
    (s.write .full known).isFinite = fieldsFinite known := by
  rw [Settings.write, Form.isFinite_record, fieldsFinite, Value.isFinite_ofText?, Bool.true_and]

theorem Button.isFinite_write (b : Button) : (b.write .full).isFinite = true := by
  simp [Button.write, fieldsFinite, Value.isFinite]

theorem Attachment.isFinite_write (a : Attachment) : (a.write .full).isFinite = true := by
  simp [Attachment.write, fieldsFinite, Value.isFinite]

theorem DataField.isFinite_write (d : DataField) : (d.write .full).isFinite = true := by
  simp [DataField.write, fieldsFinite, Value.isFinite]

theorem TriggerSettings.isFinite_write (s : TriggerSettings) : (s.write .full).isFinite = true := by
  obtain ⟨common, rule⟩ := s
  cases rule <;> simp [TriggerSettings.write, fieldsFinite, Value.isFinite]

/-- **A body is written without infinite numbers** exactly if its settings have none. -/
theorem Body.isFinite_write (b : Body) : (b.write .full).isFinite = b.numbers.all Float.isFinite := by
  cases b with
  | trigger s => exact s.isFinite_write
  | message s =>
    have buttons := Value.itemsFinite_map fun b (_ : b ∈ s.buttons) => b.isFinite_write
    have attachments := Value.itemsFinite_map fun a (_ : a ∈ s.attachments) => a.isFinite_write
    simp [Body.write, MessageSettings.write, numbers, fieldsFinite, Value.isFinite, buttons, attachments]
  | reply s =>
    simp [Body.write, ReplySettings.write, numbers, fieldsFinite, Value.isFinite, RateLimit.write,
      Scope.write]
  | condition s =>
    have rules := Value.itemsFinite_map fun r (_ : r ∈ s.conditions) =>
      (rfl : (ConditionRule.write r).isFinite = true)
    simp [Body.write, ConditionSettings.write, numbers, fieldsFinite, Value.isFinite, rules]
  | input s =>
    have fields := Value.itemsFinite_map fun d (_ : d ∈ s.fields) => d.isFinite_write
    simp [Body.write, InputSettings.write, Storage.write, numbers, fieldsFinite, Value.isFinite, fields]
  | apiCall s =>
    simp [Body.write, CallSettings.write, numbers, fieldsFinite, Value.isFinite,
      Value.fieldsFinite_finiteFields]
  | webhook s =>
    simp [Body.write, CallSettings.write, numbers, fieldsFinite, Value.isFinite,
      Value.fieldsFinite_finiteFields]
  | delay s => simp [Body.write, DelaySettings.write, numbers, fieldsFinite, Value.isFinite]
  | action s =>
    simp [Body.write, ActionSettings.write, numbers, fieldsFinite, Value.isFinite,
      Value.fieldsFinite_finiteFields]
  | branch s => simp [Body.write, BranchSettings.write, numbers, fieldsFinite]
  | unknown kind s => simp [Body.write, numbers, fieldsFinite]

namespace Step

variable {s t : Step}

/-- **A step is written without infinite numbers** exactly if it is legible. -/
theorem isFinite_write (s : Step) : (s.write .full).isFinite = s.numbers.all Float.isFinite := by
  obtain ⟨id, title, position, connections, body⟩ := s
  cases position with
  | none => simp [write, fields, Form.keep, numbers, fieldsFinite, Value.isFinite, body.isFinite_write]
  | some p =>
    simp [write, fields, Form.keep, Position.write, numbers, fieldsFinite, Value.isFinite,
      body.isFinite_write, Bool.and_assoc]

/-! ### Reading back -/

/-- **A legible step is read back** from a document without infinite numbers. -/
theorem reader_finite_write (h : s.Sound) (legible : s.Legible) :
    Step.reader (s.write .full).finite = ok (s.mapUntyped Form.full.tidy Value.finiteFields) := by
  have finite : (s.write .full).isFinite = true := by
    rw [isFinite_write, List.all_eq_true]
    exact legible
  rw [(Value.finite_eq_self_iff _).mpr finite]
  exact reader_write .full h

/-- No number is read where an infinite one would have to stand. -/
theorem isFinite_of_floating {x y : Float} (h : Reader.floating (Value.float x).finite = ok y) :
    x.isFinite = true := by
  cases finite : x.isFinite with
  | true => rfl
  | false =>
    rw [Value.finite, finite] at h
    exact absurd h fail_ne_ok

/-- The same for a number in a field. -/
theorem isFinite_of_withDefault {fs : Fields} {name : String} {x y default : Float}
    (at_name : fs.get? name = some (.float x))
    (h : Fields.withDefault (Value.finiteFields fs) name default Reader.floating = ok y) :
    x.isFinite = true := by
  rcases Fields.withDefault_eq_ok.mp h with ⟨v, found, read⟩ | ⟨missing, -⟩
  · rw [Value.get?_finiteFields, at_name] at found
    cases found
    exact isFinite_of_floating read
  · rw [Value.get?_finiteFields, at_name] at missing
    cases missing

theorem isFinite_of_position {p q : Position} (h : Position.reader p.write.finite = ok q) :
    p.x.isFinite = true ∧ p.y.isFinite = true := by
  simp only [Position.write, Value.finite, Position.reader, Reader.record, seq_eq_ok, map_eq_ok] at h
  obtain ⟨_, ⟨x, at_x, rfl⟩, y, at_y, rfl⟩ := h
  exact ⟨isFinite_of_withDefault rfl at_x, isFinite_of_withDefault rfl at_y⟩

theorem isFinite_of_delay {s t : DelaySettings} (h : DelaySettings.reader (s.write .full).finite = ok t) :
    s.duration.isFinite = true := by
  obtain ⟨fs, written⟩ : ∃ fs : Fields, s.write .full = .dict fs := ⟨_, rfl⟩
  have at_name : fs.get? "duration" = some (.float s.duration) := by
    cases written
    rfl
  have there : Dict.get? (Value.finiteFields fs) "duration" = some (Value.float s.duration).finite := by
    rw [Value.get?_finiteFields, at_name, Option.map_some]
  rw [written, Value.finite, DelaySettings.reader, Reader.record, DelaySettings.modern_eq_self there] at h
  simp only [DelaySettings.readModern, seq_eq_ok, map_eq_ok] at h
  obtain ⟨_, ⟨_, ⟨_, -, rfl⟩, x, read, rfl⟩, _, -, rfl⟩ := h
  exact isFinite_of_withDefault at_name read

theorem isFinite_of_reply {s t : ReplySettings} (h : ReplySettings.reader (s.write .full).finite = ok t) :
    s.temperature.isFinite = true := by
  obtain ⟨fs, written⟩ : ∃ fs : Fields, s.write .full = .dict fs := ⟨_, rfl⟩
  have at_name : fs.get? "temperature" = some (.float s.temperature) := by
    cases written
    rfl
  rw [written, Value.finite, ReplySettings.reader, Reader.record] at h
  simp only [seq_eq_ok, map_eq_ok] at h
  obtain ⟨_, ⟨_, ⟨_, ⟨_, ⟨_, ⟨_, ⟨_, ⟨_, ⟨_, ⟨_, -, rfl⟩, _, -, rfl⟩, _, -, rfl⟩, _, -, rfl⟩, x, read, rfl⟩,
    _, -, rfl⟩, _, -, rfl⟩, _, -, rfl⟩, _, -, rfl⟩, _, -, rfl⟩ := h
  exact isFinite_of_withDefault at_name read

/-- The numbers of a body whose settings are read back are finite. -/
theorem isFinite_of_body {b c : Body} {fs : Fields} {read : Fields → Reading Body}
    (at_config : fs.get? "config" = some (b.write .full).finite) (known : bodyOfKind? b.typeName = some read)
    (h : read fs = ok c) : ∀ x ∈ b.numbers, x.isFinite = true := by
  -- the settings are read from what is written of the body
  have config {α : Type} {r : Reader α} {a default : α}
      (found : fs.withDefault "config" default r = ok a) : r (b.write .full).finite = ok a := by
    rcases Fields.withDefault_eq_ok.mp found with ⟨v, same, read⟩ | ⟨missing, -⟩
    · cases at_config.symm.trans same
      exact read
    · cases at_config.symm.trans missing
  cases b with
  | reply s =>
    cases known
    obtain ⟨t, found, -⟩ := map_eq_ok.mp h
    exact List.forall_mem_singleton.mpr (isFinite_of_reply (config found))
  | delay s =>
    cases known
    obtain ⟨t, found, -⟩ := map_eq_ok.mp h
    exact List.forall_mem_singleton.mpr (isFinite_of_delay (config found))
  | _ => exact fun _ mem => absurd mem List.not_mem_nil

/-- A kind of step that is not known has no numbers. -/
theorem numbers_of_unknown {b : Body} (unknown : bodyOfKind? b.typeName = none) : b.numbers = [] := by
  cases b with
  | reply s => cases unknown
  | delay s => cases unknown
  | _ => rfl

/-- A place that is read back has finite numbers. -/
theorem isFinite_of_place {place : Option Position}
    (h : Fields.withDefault (Value.finiteFields (s.fields .full)) "position" none
      (Reader.orNull Position.reader) = ok place) :
    ∀ p, s.position = some p → p.x.isFinite = true ∧ p.y.isFinite = true := by
  intro p placed
  have at_name : Dict.get? (Value.finiteFields (s.fields .full)) "position" = some p.write.finite := by
    rw [Value.get?_finiteFields, fields, placed]
    rfl
  rcases Fields.withDefault_eq_ok.mp h with ⟨v, found, read⟩ | ⟨missing, -⟩
  · cases at_name.symm.trans found
    obtain ⟨q, read, -⟩ := map_eq_ok.mp (show some <$> Position.reader p.write.finite = ok place from read)
    exact isFinite_of_position read
  · cases at_name.symm.trans missing

/-- A step that is read back is legible, if the numbers of its body are finite. -/
theorem legible_of_readWith {body : Fields → Reading Body}
    (h : readWith body (Value.finiteFields (s.fields .full)) = ok t)
    (inside : ∀ b, body (Value.finiteFields (s.fields .full)) = ok b →
      ∀ x ∈ s.body.numbers, x.isFinite = true) : s.Legible := by
  simp only [readWith, seq_eq_ok, map_eq_ok] at h
  obtain ⟨_, ⟨_, ⟨_, ⟨_, ⟨_, -, rfl⟩, _, -, rfl⟩, place, position, rfl⟩, _, -, rfl⟩, b, read, rfl⟩ := h
  intro x mem
  -- a number of the step stands in its place or in its settings
  rcases List.mem_append.mp mem with outside | mem
  · cases placed : s.position with
    | none =>
      rw [placed] at outside
      exact absurd outside List.not_mem_nil
    | some p =>
      obtain ⟨finite_x, finite_y⟩ := isFinite_of_place position p placed
      rw [placed] at outside
      rcases List.mem_pair.mp outside with rfl | rfl
      · exact finite_x
      · exact finite_y
  · exact inside b read x mem

/-- **Only a legible step is read back** from a document without infinite numbers. -/
theorem legible_of_reader (h : Step.reader (s.write .full).finite = ok t) : s.Legible := by
  have at_type : Dict.get? (Value.finiteFields (s.fields .full)) "type" = some (.str s.typeName) := by
    rw [Value.get?_finiteFields]
    rfl
  have at_config : Dict.get? (Value.finiteFields (s.fields .full)) "config" =
      some (s.body.write .full).finite := by
    rw [Value.get?_finiteFields]
    rfl
  rw [write, Value.finite, Step.reader] at h
  simp only [at_type] at h
  cases kind : bodyOfKind? s.typeName with
  | some read =>
    rw [kind] at h
    exact legible_of_readWith (field_eq_ok.mp h) fun b => isFinite_of_body at_config kind
  | none =>
    rw [kind] at h
    refine legible_of_readWith (field_eq_ok.mp h) fun b _ => ?_
    rw [numbers_of_unknown kind]
    exact fun _ mem => absurd mem List.not_mem_nil

end Step

end Parley
