import Parley.Proofs.Step.Sound
import Parley.Proofs.Step.Untyped

/-!
# Writing steps and reading them back

A sound step that is written, in full or compactly, is read back as it was, but for its dictionaries
without a schema: what was dropped from them or written as null is gone. `Parley.Step.reader_write` says
so with `Parley.Step.mapUntyped`, which changes just these dictionaries.

There is one lemma for each kind of record. They follow their readers field by field; what a field may look
like when it is written is settled in `Parley.Written`.
-/

namespace Parley

open Reading

/-! ### Words -/

@[simp] theorem ButtonKind.reader_word (k : ButtonKind) : ButtonKind.reader (.str k.word) = ok k := by
  cases k <;> rfl

@[simp] theorem TimeUnit.reader_word (u : TimeUnit) : TimeUnit.reader (.str u.word) = ok u := by
  cases u <;> rfl

/-! ### Parts of settings -/

theorem Button.reader_write (form : Form) {b : Button} (h : b.Sound) :
    Button.reader (b.write form) = ok (b.mapExtras form.tidy) := by
  refine Form.reader_record h (by decide : Button.names.Nodup) fun fs w => ?_
  have left : fs.without Button.names = _ := w.without
  simp only [Button.reader, Reader.record]
  rw [w.required "text" rfl rfl (Reader.text_str _),
    w.withDefault "type" rfl rfl (ButtonKind.reader_word _), w.textOrNull "automation_id" rfl,
    w.textOrNull "url" rfl, w.textOrNull "phone" rfl, w.textOrNull "connected_to" rfl, left]
  rfl

theorem Attachment.reader_write (form : Form) {a : Attachment} (h : a.Sound) :
    Attachment.reader (a.write form) = ok (a.mapExtras form.tidy) := by
  refine Form.reader_record h (by decide : Attachment.names.Nodup) fun fs w => ?_
  have left : fs.without Attachment.names = _ := w.without
  simp only [Attachment.reader, Reader.record, Fields.text]
  rw [w.withDefault "type" rfl rfl (Reader.text_str _), w.withDefault "url" rfl rfl (Reader.text_str _),
    w.textOrNull "filename" rfl, w.textOrNull "caption" rfl, left]
  rfl

theorem DataField.reader_write (form : Form) {d : DataField} (h : d.Sound) :
    DataField.reader (d.write form) = ok (d.mapExtras form.tidy) := by
  refine Form.reader_record h (by decide : DataField.names.Nodup) fun fs w => ?_
  have left : fs.without DataField.names = _ := w.without
  simp only [DataField.reader, Reader.record, Fields.text]
  rw [w.required "name" rfl rfl (Reader.text_str _), w.withDefault "label" rfl rfl (Reader.text_str _),
    w.withDefault "type" rfl rfl (Reader.text_str _), w.withDefault "required" rfl rfl (a := d.required) rfl,
    left]
  rfl

theorem Storage.reader_write (form : Form) {s : Storage} (h : s.Sound) :
    Storage.reader (s.write form) = ok (s.mapExtras form.tidy) := by
  refine Form.reader_record h (by decide : ["type"].Nodup) fun fs w => ?_
  have left : fs.without ["type"] = _ := w.without
  simp only [Storage.reader, Reader.record]
  rw [w.withDefault "type" rfl rfl (Reader.text_str _), left]
  rfl

theorem RateLimit.reader_write (l : RateLimit) : RateLimit.reader l.write = ok l := rfl

theorem Scope.reader_write (s : Scope) : Scope.reader s.write = ok s := rfl

theorem ConditionRule.reader_write (r : ConditionRule) : ConditionRule.reader r.write = ok r := rfl

theorem Position.reader_write (p : Position) : Position.reader p.write = ok p := rfl

/-- The settings in front of others are read back. -/
theorem Written.settings {form : Form} {s : Settings} {known fs : Fields}
    (w : Written form (("trigger_keywords", .ofText? s.triggerKeywords) :: known) s.extras fs) :
    Settings.read known.keys fs = ok (s.mapExtras form.tidy) := by
  have left : fs.without ("trigger_keywords" :: known.keys) = _ := w.without
  rw [Settings.read, w.textOrNull "trigger_keywords" rfl, left]
  rfl

/-! ### Settings of each kind -/

namespace TriggerSettings

/-- The type is always written, so written settings are not taken for those of an older keyword
trigger. -/
theorem withType_eq_self {fs : Fields} {v : Value} (h : fs.get? "type" = some v) : withType fs = fs := by
  rw [withType, if_pos (Dict.has_iff_mem_keys.mpr (Dict.mem_keys_of_mem (Dict.mem_of_get? h)))]

theorem readRule_written {form : Form} {common : Settings} {known fs : Fields} {names : List String}
    {read : Fields → Reading TriggerRule} {rule : TriggerRule}
    (w : Written form (("trigger_keywords", .ofText? common.triggerKeywords) :: known) common.extras fs)
    (same : known.keys = "type" :: names) (of_rule : read fs = ok rule) :
    readRule names read fs = ok { toSettings := common.mapExtras form.tidy, rule } := by
  have settings := w.settings
  rw [same] at settings
  rw [readRule, settings, of_rule]
  rfl

theorem reader_write (form : Form) {s : TriggerSettings} (h : s.Sound) :
    TriggerSettings.reader (s.write form) =
      ok { s with toSettings := s.toSettings.mapExtras form.tidy } := by
  obtain ⟨common, rule⟩ := s
  cases rule with
  | keyword keywords =>
    refine Form.reader_record h (by decide : ["trigger_keywords", "type", "keywords"].Nodup)
      fun fs w => ?_
    have at_type := w.get? "type" rfl rfl
    have read : fs.texts "keywords" = ok keywords :=
      w.withDefault "keywords" rfl rfl (Reader.listOf_text_ofTexts _)
    simp only [reader, Reader.record, withType_eq_self at_type, readTagged, at_type, TriggerRule.typeName]
    exact field_eq_ok.mpr (readRule_written w rfl (by rw [read, map_ok]))
  | exactMatch text =>
    refine Form.reader_record h (by decide : ["trigger_keywords", "type", "match_text"].Nodup)
      fun fs w => ?_
    have at_type := w.get? "type" rfl rfl
    have read : fs.text "match_text" = ok text := w.withDefault "match_text" rfl rfl (Reader.text_str _)
    simp only [reader, Reader.record, withType_eq_self at_type, readTagged, at_type, TriggerRule.typeName]
    exact field_eq_ok.mpr (readRule_written w rfl (by rw [read, map_ok]))
  | schedule cron =>
    refine Form.reader_record h (by decide : ["trigger_keywords", "type", "cron"].Nodup) fun fs w => ?_
    have at_type := w.get? "type" rfl rfl
    have read : fs.textOrNull "cron" = ok cron := w.textOrNull "cron" rfl
    simp only [reader, Reader.record, withType_eq_self at_type, readTagged, at_type, TriggerRule.typeName]
    exact field_eq_ok.mpr (readRule_written w rfl (by rw [read, map_ok]))
  | webhook =>
    refine Form.reader_record h (by decide : ["trigger_keywords", "type"].Nodup) fun fs w => ?_
    have at_type := w.get? "type" rfl rfl
    simp only [reader, Reader.record, withType_eq_self at_type, readTagged, at_type, TriggerRule.typeName]
    exact field_eq_ok.mpr (readRule_written w rfl rfl)
  | integration name event variableNames =>
    refine Form.reader_record h (by decide : ["trigger_keywords", "type", "integration", "webhook_event",
      "webhook_variables"].Nodup) fun fs w => ?_
    have at_type := w.get? "type" rfl rfl
    have at_name : fs.text "integration" = ok name :=
      w.withDefault "integration" rfl rfl (Reader.text_str _)
    have at_event : fs.text "webhook_event" = ok event :=
      w.withDefault "webhook_event" rfl rfl (Reader.text_str _)
    have at_variables : fs.texts "webhook_variables" = ok variableNames :=
      w.withDefault "webhook_variables" rfl rfl (Reader.listOf_text_ofTexts _)
    simp only [reader, Reader.record, withType_eq_self at_type, readTagged, at_type, TriggerRule.typeName]
    exact field_eq_ok.mpr (readRule_written w rfl (by
      rw [at_name, at_event, at_variables, map_ok, seq_ok, seq_ok]))

end TriggerSettings

theorem MessageSettings.reader_write (form : Form) {s : MessageSettings} (h : s.Sound) :
    MessageSettings.reader (s.write form) = ok (s.mapExtras form.tidy) := by
  refine Form.reader_record h.settings (by decide : ("trigger_keywords" :: names).Nodup) fun fs w => ?_
  have common : Settings.read names fs = _ := w.settings
  simp only [MessageSettings.reader, Reader.record, Fields.text, Fields.texts, Fields.textDict]
  rw [common, w.withDefault "text" rfl rfl (Reader.text_str _),
    w.withDefault "message" rfl rfl (Reader.text_str _),
    w.withDefault "buttons" rfl rfl
      (Reader.listOf_map fun b mem => Button.reader_write form (h.buttons b mem)),
    w.withDefault "attachments" rfl rfl
      (Reader.listOf_map fun a mem => Attachment.reader_write form (h.attachments a mem)),
    w.withDefault "variables" rfl rfl (Reader.listOf_text_ofTexts _),
    w.withDefault "variable_values" rfl rfl (Reader.dictOf_text_ofTextDict _)]
  rfl

theorem ReplySettings.reader_write (form : Form) {s : ReplySettings} (h : s.toSettings.Sound names) :
    ReplySettings.reader (s.write form) = ok { s with toSettings := s.toSettings.mapExtras form.tidy } := by
  refine Form.reader_record h (by decide : ("trigger_keywords" :: names).Nodup) fun fs w => ?_
  have common : Settings.read names fs = _ := w.settings
  simp only [ReplySettings.reader, Reader.record, Fields.text]
  rw [common, w.withDefault "system_prompt" rfl rfl (Reader.text_str _),
    w.withDefault "context_data" rfl rfl (Reader.text_str _),
    w.withDefault "tone" rfl rfl (Reader.text_str _),
    w.withDefault "temperature" rfl rfl (a := s.temperature) rfl,
    w.withDefault "max_tokens" rfl rfl (a := s.maxTokens) rfl, w.textOrNull "fallback_response" rfl,
    w.withDefault "rate_limit" rfl rfl (RateLimit.reader_write _),
    w.textOrNull "rate_limit_message" rfl,
    w.withDefault "scope_restrictions" rfl rfl (Scope.reader_write _)]
  rfl

theorem ConditionSettings.reader_write (form : Form) {s : ConditionSettings}
    (h : s.toSettings.Sound names) :
    ConditionSettings.reader (s.write form) =
      ok { s with toSettings := s.toSettings.mapExtras form.tidy } := by
  refine Form.reader_record h (by decide : ("trigger_keywords" :: names).Nodup) fun fs w => ?_
  have common : Settings.read names fs = _ := w.settings
  have rules : Reader.listOf ConditionRule.reader (.list (s.conditions.map ConditionRule.write)) =
      ok s.conditions := by
    rw [Reader.listOf_map fun r _ => ConditionRule.reader_write r, List.map_id']
  simp only [ConditionSettings.reader, Reader.record, Fields.text, Fields.texts]
  rw [common, w.withDefault "conditions" rfl rfl rules,
    w.withDefault "condition" rfl rfl (Reader.text_str _),
    w.withDefault "true_path" rfl rfl (Reader.listOf_text_ofTexts _),
    w.withDefault "false_path" rfl rfl (Reader.listOf_text_ofTexts _)]
  rfl

theorem InputSettings.reader_write (form : Form) {s : InputSettings} (h : s.Sound) :
    InputSettings.reader (s.write form) = ok (s.mapExtras form.tidy) := by
  refine Form.reader_record h.settings (by decide : ("trigger_keywords" :: names).Nodup) fun fs w => ?_
  have common : Settings.read names fs = _ := w.settings
  simp only [InputSettings.reader, Reader.record]
  rw [common, w.textOrNull "prompt" rfl, w.textOrNull "field" rfl,
    w.withDefault "fields" rfl rfl
      (Reader.listOf_map fun f mem => DataField.reader_write form (h.fields f mem)),
    w.withDefault "storage" rfl rfl (Storage.reader_write form h.storage)]
  rfl

theorem CallSettings.reader_write (form : Form) {method content : String} {s : CallSettings}
    (h : s.toSettings.Sound ["url", "method", "headers", content])
    (of_call : content = "body" ∨ content = "payload") :
    CallSettings.reader method content (s.write form content) =
      ok (s.mapUntyped form.tidy Value.finiteFields) := by
  have distinct : ["trigger_keywords", "url", "method", "headers", content].Nodup := by
    rcases of_call with rfl | rfl <;> decide
  refine Form.reader_record h distinct fun fs w => ?_
  have common : Settings.read ["url", "method", "headers", content] fs = _ := w.settings
  have sent : fs.dict content = ok (Value.finiteFields s.content) := by
    rcases of_call with rfl | rfl
    · exact w.withDefault "body" rfl rfl (Reader.dictOf_any _)
    · exact w.withDefault "payload" rfl rfl (Reader.dictOf_any _)
  simp only [CallSettings.reader, Reader.record, Fields.text, Fields.textDict]
  rw [common, w.withDefault "url" rfl rfl (Reader.text_str _),
    w.withDefault "method" rfl rfl (Reader.text_str _),
    w.withDefault "headers" rfl rfl (Reader.dictOf_text_ofTextDict _), sent]
  rfl

theorem DelaySettings.modern_eq_self {fs : Fields} {v : Value} (h : fs.get? "duration" = some v) :
    modern fs = fs := by
  have there := Dict.has_iff_mem_keys.mpr (Dict.mem_keys_of_mem (Dict.mem_of_get? h))
  unfold modern
  split
  · rw [if_pos there]
  · rfl

theorem DelaySettings.reader_write (form : Form) {s : DelaySettings}
    (h : s.toSettings.Sound ["duration", "unit"]) :
    DelaySettings.reader (s.write form) = ok { s with toSettings := s.toSettings.mapExtras form.tidy } := by
  refine Form.reader_record h (by decide : ["trigger_keywords", "duration", "unit"].Nodup) fun fs w => ?_
  have common : Settings.read ["duration", "unit"] fs = _ := w.settings
  simp only [DelaySettings.reader, Reader.record, modern_eq_self (w.get? "duration" rfl rfl), readModern]
  rw [common, w.withDefault "duration" rfl rfl (a := s.duration) rfl,
    w.withDefault "unit" rfl rfl (TimeUnit.reader_word _)]
  rfl

theorem ActionSettings.reader_write (form : Form) {s : ActionSettings}
    (h : s.toSettings.Sound ["description", "action", "parameters"]) :
    ActionSettings.reader (s.write form) =
      ok { s with
        toSettings := s.toSettings.mapExtras form.tidy
        parameters := Value.finiteFields s.parameters } := by
  refine Form.reader_record h
    (by decide : ["trigger_keywords", "description", "action", "parameters"].Nodup) fun fs w => ?_
  have common : Settings.read ["description", "action", "parameters"] fs = _ := w.settings
  simp only [ActionSettings.reader, Reader.record, Fields.dict]
  rw [common, w.textOrNull "description" rfl, w.textOrNull "action" rfl,
    w.withDefault "parameters" rfl rfl (Reader.dictOf_any _)]
  rfl

theorem BranchSettings.reader_write (form : Form) {s : BranchSettings}
    (h : s.toSettings.Sound ["description"]) :
    BranchSettings.reader (s.write form) =
      ok { s with toSettings := s.toSettings.mapExtras form.tidy } := by
  refine Form.reader_record h (by decide : ["trigger_keywords", "description"].Nodup) fun fs w => ?_
  have common : Settings.read ["description"] fs = _ := w.settings
  simp only [BranchSettings.reader, Reader.record]
  rw [common, w.textOrNull "description" rfl]
  rfl

theorem Settings.reader_write (form : Form) {s : Settings} (h : s.Sound []) :
    Settings.reader (s.write form []) = ok (s.mapExtras form.tidy) := by
  refine Form.reader_record h (by decide : ["trigger_keywords"].Nodup) fun fs w => ?_
  exact w.settings

/-! ### Steps -/

namespace Step

/-- **A body is read back** from the type and the settings that are written. -/
theorem read_body (form : Form) {b : Body} (h : b.Sound) {fs : Fields}
    (at_type : fs.get? "type" = some (.str b.typeName)) (at_config : fs.get? "config" = some (b.write form)) :
    (match bodyOfKind? b.typeName with
      | some read => read fs
      | none => unknownBody fs) = ok (b.mapUntyped form.tidy Value.finiteFields) := by
  have config {α : Type} {r : Reader α} {a default : α} (read : r (b.write form) = ok a) :
      fs.withDefault "config" default r = ok a :=
    Fields.withDefault_of_get? "config" at_config read
  cases b with
  | trigger s => exact map_eq_ok.mpr ⟨_, config (TriggerSettings.reader_write form h), rfl⟩
  | message s => exact map_eq_ok.mpr ⟨_, config (MessageSettings.reader_write form h), rfl⟩
  | reply s => exact map_eq_ok.mpr ⟨_, config (ReplySettings.reader_write form h), rfl⟩
  | condition s => exact map_eq_ok.mpr ⟨_, config (ConditionSettings.reader_write form h), rfl⟩
  | input s => exact map_eq_ok.mpr ⟨_, config (InputSettings.reader_write form h), rfl⟩
  | apiCall s => exact map_eq_ok.mpr ⟨_, config (CallSettings.reader_write form h (.inl rfl)), rfl⟩
  | webhook s => exact map_eq_ok.mpr ⟨_, config (CallSettings.reader_write form h (.inr rfl)), rfl⟩
  | delay s => exact map_eq_ok.mpr ⟨_, config (DelaySettings.reader_write form h), rfl⟩
  | action s => exact map_eq_ok.mpr ⟨_, config (ActionSettings.reader_write form h), rfl⟩
  | branch s => exact map_eq_ok.mpr ⟨_, config (BranchSettings.reader_write form h), rfl⟩
  | unknown kind s =>
    have named : fs.required "type" Reader.text = ok kind := Fields.required_eq_ok.mpr ⟨_, at_type, rfl⟩
    simp only [Body.typeName, h.1, unknownBody]
    rw [named, config (Settings.reader_write form h.2)]
    rfl

/-- **A sound step is read back as it was written.** -/
theorem reader_write (form : Form) {s : Step} (h : s.Sound) :
    Step.reader (s.write form) = ok (s.mapUntyped form.tidy Value.finiteFields) := by
  have distinct : ["id", "title", "position", "connections", "type", "config"].Nodup := by decide
  refine Form.reader_keep distinct fun fs w => ?_
  have at_type := w.get? "type" rfl rfl
  -- settings are never null, so they are written in either form
  have config_not_null : (s.body.write form).isNull = false := by cases s.body <;> rfl
  have at_config := w.get? "config" rfl config_not_null
  have position : fs.withDefault "position" none (Reader.orNull Position.reader) = ok s.position :=
    w.orNull "position" Position.write (by cases s.position <;> rfl) (fun _ => rfl) Position.reader_write
  have read_with {body : Fields → Reading Body} {b : Body} (read : body fs = ok b) :
      readWith body fs = ok { s with body := b } := by
    simp only [readWith, Fields.text, Fields.texts]
    rw [w.required "id" rfl rfl (Reader.text_str _), w.withDefault "title" rfl rfl (Reader.text_str _),
      position, w.withDefault "connections" rfl rfl (Reader.listOf_text_ofTexts _), read]
    rfl
  have body := read_body form h at_type at_config
  simp only [Step.reader, at_type]
  -- the reader looks up the kind again, and finds the same as for the body
  cases kind : bodyOfKind? s.typeName with
  | some read =>
    simp only [typeName] at kind
    rw [kind] at body
    exact field_eq_ok.mpr (read_with body)
  | none =>
    simp only [typeName] at kind
    rw [kind] at body
    exact field_eq_ok.mpr (read_with body)

/-- What is written once is written in the same way again. -/
theorem tidy_tidy (form : Form) (s : Step) :
    (s.mapUntyped form.tidy Value.finiteFields).mapUntyped Form.full.tidy Value.finiteFields =
      s.mapUntyped form.tidy Value.finiteFields := by
  have same : Value.finiteFields ∘ Value.finiteFields = Value.finiteFields :=
    funext Value.finiteFields_finiteFields
  have same' : Form.full.tidy ∘ form.tidy = form.tidy :=
    funext fun _ => Value.finiteFields_finiteFields _
  rw [mapUntyped, mapUntyped, Body.mapUntyped_mapUntyped, same, same']

end Step

end Parley
