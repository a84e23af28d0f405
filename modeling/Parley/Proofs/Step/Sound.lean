import Parley.Proofs.Reading.Written
import Parley.Step.Reader

/-!
# Steps as they are read

What a reader leaves over as fields without a meaning goes by none of the names that the reader knows, and
the kind of a step that it does not know is none of the known ones. `Parley.Step.Sound` says so of a step,
and `Parley.Step.sound_of_reader` that it holds of every step that was read from a document.
-/

namespace Parley

open Reading

/-! ### Parts of settings -/

/-- No field without a meaning goes by the name of a known one. -/
def Button.Sound (b : Button) : Prop := b.extras.Free Button.names

/-- No field without a meaning goes by the name of a known one. -/
def Attachment.Sound (a : Attachment) : Prop := a.extras.Free Attachment.names

/-- No field without a meaning goes by the name of a known one. -/
def DataField.Sound (f : DataField) : Prop := f.extras.Free DataField.names

/-- No field without a meaning goes by the name of a known one. -/
def Storage.Sound (s : Storage) : Prop := s.extras.Free ["type"]

/-- No field without a meaning goes by a name that the settings know. -/
def Settings.Sound (known : List String) (s : Settings) : Prop :=
  s.extras.Free ("trigger_keywords" :: known)

theorem Settings.sound_of_read {known : List String} {fs : Fields} {s : Settings}
    (h : Settings.read known fs = ok s) : s.Sound known := by
  obtain ⟨keywords, -, rfl⟩ := map_eq_ok.mp h
  exact Fields.free_without fs _

theorem Button.sound_of_reader {v : Value} {b : Button} (h : Button.reader v = ok b) : b.Sound := by
  obtain ⟨fs, rfl, parts⟩ := Reader.record_eq_ok.mp h
  simp only [seq_eq_ok, map_eq_ok] at parts
  obtain ⟨_, ⟨_, ⟨_, ⟨_, ⟨_, ⟨_, -, rfl⟩, _, -, rfl⟩, _, -, rfl⟩, _, -, rfl⟩, _, -, rfl⟩, _, -, rfl⟩ := parts
  exact Fields.free_without fs _

theorem Attachment.sound_of_reader {v : Value} {a : Attachment} (h : Attachment.reader v = ok a) :
    a.Sound := by
  obtain ⟨fs, rfl, parts⟩ := Reader.record_eq_ok.mp h
  simp only [seq_eq_ok, map_eq_ok] at parts
  obtain ⟨_, ⟨_, ⟨_, ⟨_, -, rfl⟩, _, -, rfl⟩, _, -, rfl⟩, _, -, rfl⟩ := parts
  exact Fields.free_without fs _

theorem DataField.sound_of_reader {v : Value} {f : DataField} (h : DataField.reader v = ok f) :
    f.Sound := by
  obtain ⟨fs, rfl, parts⟩ := Reader.record_eq_ok.mp h
  simp only [seq_eq_ok, map_eq_ok] at parts
  obtain ⟨_, ⟨_, ⟨_, ⟨_, -, rfl⟩, _, -, rfl⟩, _, -, rfl⟩, _, -, rfl⟩ := parts
  exact Fields.free_without fs _

theorem Storage.sound_of_reader {v : Value} {s : Storage} (h : Storage.reader v = ok s) : s.Sound := by
  obtain ⟨fs, rfl, parts⟩ := Reader.record_eq_ok.mp h
  obtain ⟨_, -, rfl⟩ := map_eq_ok.mp parts
  exact Fields.free_without fs _

/-! ### Settings of each kind -/

/-- The names that trigger settings of a kind know besides the common ones. -/
def TriggerRule.names : TriggerRule → List String
  | keyword _ => ["keywords"]
  | exactMatch _ => ["match_text"]
  | schedule _ => ["cron"]
  | webhook => []
  | integration .. => ["integration", "webhook_event", "webhook_variables"]

/-- No field without a meaning goes by a name that its kind of trigger knows. -/
def TriggerSettings.Sound (s : TriggerSettings) : Prop := s.toSettings.Sound ("type" :: s.rule.names)

/-- The settings and all their parts are sound. -/
structure MessageSettings.Sound (s : MessageSettings) : Prop where
  settings : s.toSettings.Sound MessageSettings.names
  buttons : ∀ b ∈ s.buttons, b.Sound
  attachments : ∀ a ∈ s.attachments, a.Sound

/-- The settings and all their parts are sound. -/
structure InputSettings.Sound (s : InputSettings) : Prop where
  settings : s.toSettings.Sound InputSettings.names
  fields : ∀ f ∈ s.fields, f.Sound
  storage : s.storage.Sound

/-- The settings of a body are sound, and a kind that is not known is none of the known ones. -/
def Body.Sound : Body → Prop
  | .trigger s => s.Sound
  | .message s => s.Sound
  | .reply s => s.toSettings.Sound ReplySettings.names
  | .condition s => s.toSettings.Sound ConditionSettings.names
  | .input s => s.Sound
  | .apiCall s => s.toSettings.Sound ["url", "method", "headers", "body"]
  | .webhook s => s.toSettings.Sound ["url", "method", "headers", "payload"]
  | .delay s => s.toSettings.Sound ["duration", "unit"]
  | .action s => s.toSettings.Sound ["description", "action", "parameters"]
  | .branch s => s.toSettings.Sound ["description"]
  | .unknown kind s => Step.bodyOfKind? kind = none ∧ s.Sound []

/-- **A step as it is read from a document.** -/
def Step.Sound (s : Step) : Prop := s.body.Sound

theorem TriggerSettings.sound_of_readRule {names : List String} {rule : Fields → Reading TriggerRule}
    {fs : Fields} {s : TriggerSettings} (h : readRule names rule fs = ok s)
    (kind : ∀ r, rule fs = ok r → r.names = names) : s.Sound := by
  simp only [readRule, seq_eq_ok, map_eq_ok] at h
  obtain ⟨_, ⟨common, read, rfl⟩, rule', of_kind, rfl⟩ := h
  unfold TriggerSettings.Sound
  rw [kind rule' of_kind]
  exact Settings.sound_of_read read

theorem TriggerSettings.sound_of_reader {v : Value} {s : TriggerSettings}
    (h : TriggerSettings.reader v = ok s) : s.Sound := by
  obtain ⟨fs, rfl, tagged⟩ := Reader.record_eq_ok.mp h
  unfold readTagged at tagged
  split at tagged
  · refine sound_of_readRule (field_eq_ok.mp tagged) fun r read => ?_
    obtain ⟨_, -, rfl⟩ := map_eq_ok.mp read
    rfl
  · refine sound_of_readRule (field_eq_ok.mp tagged) fun r read => ?_
    obtain ⟨_, -, rfl⟩ := map_eq_ok.mp read
    rfl
  · refine sound_of_readRule (field_eq_ok.mp tagged) fun r read => ?_
    obtain ⟨_, -, rfl⟩ := map_eq_ok.mp read
    rfl
  · refine sound_of_readRule (field_eq_ok.mp tagged) fun r read => ?_
    cases ok_injective read
    rfl
  · refine sound_of_readRule (field_eq_ok.mp tagged) fun r read => ?_
    simp only [seq_eq_ok, map_eq_ok] at read
    obtain ⟨_, ⟨_, ⟨_, -, rfl⟩, _, -, rfl⟩, _, -, rfl⟩ := read
    rfl
  · exact absurd tagged fail_ne_ok

theorem MessageSettings.sound_of_reader {v : Value} {s : MessageSettings}
    (h : MessageSettings.reader v = ok s) : s.Sound := by
  obtain ⟨fs, rfl, parts⟩ := Reader.record_eq_ok.mp h
  simp only [seq_eq_ok, map_eq_ok] at parts
  obtain ⟨_, ⟨_, ⟨_, ⟨_, ⟨_, ⟨_, ⟨_, read, rfl⟩, _, -, rfl⟩, _, -, rfl⟩, _, buttons, rfl⟩, _, attachments,
    rfl⟩, _, -, rfl⟩, _, -, rfl⟩ := parts
  refine ⟨Settings.sound_of_read read, fun b mem => ?_, fun a mem => ?_⟩
  · obtain ⟨v, read⟩ := Fields.exists_of_mem_withDefault buttons mem
    exact Button.sound_of_reader read
  · obtain ⟨v, read⟩ := Fields.exists_of_mem_withDefault attachments mem
    exact Attachment.sound_of_reader read

theorem ReplySettings.sound_of_reader {v : Value} {s : ReplySettings} (h : ReplySettings.reader v = ok s) :
    s.toSettings.Sound ReplySettings.names := by
  obtain ⟨fs, rfl, parts⟩ := Reader.record_eq_ok.mp h
  simp only [seq_eq_ok, map_eq_ok] at parts
  obtain ⟨_, ⟨_, ⟨_, ⟨_, ⟨_, ⟨_, ⟨_, ⟨_, ⟨_, ⟨_, read, rfl⟩, _, -, rfl⟩, _, -, rfl⟩, _, -, rfl⟩, _, -, rfl⟩,
    _, -, rfl⟩, _, -, rfl⟩, _, -, rfl⟩, _, -, rfl⟩, _, -, rfl⟩ := parts
  exact Settings.sound_of_read read

theorem ConditionSettings.sound_of_reader {v : Value} {s : ConditionSettings}
    (h : ConditionSettings.reader v = ok s) : s.toSettings.Sound ConditionSettings.names := by
  obtain ⟨fs, rfl, parts⟩ := Reader.record_eq_ok.mp h
  simp only [seq_eq_ok, map_eq_ok] at parts
  obtain ⟨_, ⟨_, ⟨_, ⟨_, ⟨_, read, rfl⟩, _, -, rfl⟩, _, -, rfl⟩, _, -, rfl⟩, _, -, rfl⟩ := parts
  exact Settings.sound_of_read read

theorem InputSettings.sound_of_reader {v : Value} {s : InputSettings} (h : InputSettings.reader v = ok s) :
    s.Sound := by
  obtain ⟨fs, rfl, parts⟩ := Reader.record_eq_ok.mp h
  simp only [seq_eq_ok, map_eq_ok] at parts
  obtain ⟨_, ⟨_, ⟨_, ⟨_, ⟨_, read, rfl⟩, _, -, rfl⟩, _, -, rfl⟩, _, fields, rfl⟩, _, storage, rfl⟩ := parts
  refine ⟨Settings.sound_of_read read, fun f mem => ?_, ?_⟩
  · obtain ⟨v, read⟩ := Fields.exists_of_mem_withDefault fields mem
    exact DataField.sound_of_reader read
  · rcases Fields.withDefault_eq_ok.mp storage with ⟨v, -, read⟩ | ⟨-, rfl⟩
    · exact Storage.sound_of_reader read
    · exact fun _ _ mem => absurd mem List.not_mem_nil

theorem CallSettings.sound_of_reader {method content : String} {v : Value} {s : CallSettings}
    (h : CallSettings.reader method content v = ok s) :
    s.toSettings.Sound ["url", "method", "headers", content] := by
  obtain ⟨fs, rfl, parts⟩ := Reader.record_eq_ok.mp h
  simp only [seq_eq_ok, map_eq_ok] at parts
  obtain ⟨_, ⟨_, ⟨_, ⟨_, ⟨_, read, rfl⟩, _, -, rfl⟩, _, -, rfl⟩, _, -, rfl⟩, _, -, rfl⟩ := parts
  exact Settings.sound_of_read read

theorem DelaySettings.sound_of_reader {v : Value} {s : DelaySettings} (h : DelaySettings.reader v = ok s) :
    s.toSettings.Sound ["duration", "unit"] := by
  obtain ⟨fs, rfl, parts⟩ := Reader.record_eq_ok.mp h
  simp only [readModern, seq_eq_ok, map_eq_ok] at parts
  obtain ⟨_, ⟨_, ⟨_, read, rfl⟩, _, -, rfl⟩, _, -, rfl⟩ := parts
  exact Settings.sound_of_read read

theorem ActionSettings.sound_of_reader {v : Value} {s : ActionSettings}
    (h : ActionSettings.reader v = ok s) : s.toSettings.Sound ["description", "action", "parameters"] := by
  obtain ⟨fs, rfl, parts⟩ := Reader.record_eq_ok.mp h
  simp only [seq_eq_ok, map_eq_ok] at parts
  obtain ⟨_, ⟨_, ⟨_, ⟨_, read, rfl⟩, _, -, rfl⟩, _, -, rfl⟩, _, -, rfl⟩ := parts
  exact Settings.sound_of_read read

theorem BranchSettings.sound_of_reader {v : Value} {s : BranchSettings}
    (h : BranchSettings.reader v = ok s) : s.toSettings.Sound ["description"] := by
  obtain ⟨fs, rfl, parts⟩ := Reader.record_eq_ok.mp h
  simp only [seq_eq_ok, map_eq_ok] at parts
  obtain ⟨_, ⟨_, read, rfl⟩, _, -, rfl⟩ := parts
  exact Settings.sound_of_read read

theorem Settings.sound_of_reader {v : Value} {s : Settings} (h : Settings.reader v = ok s) :
    s.Sound [] := by
  obtain ⟨fs, rfl, read⟩ := Reader.record_eq_ok.mp h
  exact Settings.sound_of_read read

/-! ### Steps -/

/-- Settings that were not given are sound. -/
theorem Settings.sound_default {known : List String} : Settings.Sound known {} :=
  fun _ _ mem => absurd mem List.not_mem_nil

namespace Step

/-- A body is sound if its settings are when they are read, and when there are none. -/
theorem sound_of_config {α : Type} (body : α → Body) {fs : Fields} {default a : α} {r : Reader α}
    (h : fs.withDefault "config" default r = ok a) (read : ∀ v a, r v = ok a → (body a).Sound)
    (of_default : (body default).Sound) : (body a).Sound := by
  rcases Fields.withDefault_eq_ok.mp h with ⟨v, -, eq⟩ | ⟨-, rfl⟩
  · exact read v a eq
  · exact of_default

theorem sound_of_bodyOfKind? {kind : String} {read : Fields → Reading Body} {fs : Fields} {b : Body}
    (known : bodyOfKind? kind = some read) (h : read fs = ok b) : b.Sound := by
  unfold bodyOfKind? at known
  -- one case for each known kind, in the order of their list
  split at known <;> cases known <;> obtain ⟨s, config, rfl⟩ := map_eq_ok.mp h
  · exact sound_of_config .trigger config (fun _ _ => TriggerSettings.sound_of_reader) Settings.sound_default
  · exact sound_of_config .message config (fun _ _ => MessageSettings.sound_of_reader)
      ⟨Settings.sound_default, fun _ mem => absurd mem List.not_mem_nil,
        fun _ mem => absurd mem List.not_mem_nil⟩
  · exact sound_of_config .reply config (fun _ _ => ReplySettings.sound_of_reader) Settings.sound_default
  · exact sound_of_config .condition config (fun _ _ => ConditionSettings.sound_of_reader) Settings.sound_default
  · exact sound_of_config .input config (fun _ _ => InputSettings.sound_of_reader)
      ⟨Settings.sound_default, fun _ mem => absurd mem List.not_mem_nil,
        fun _ _ mem => absurd mem List.not_mem_nil⟩
  · exact sound_of_config .apiCall config (fun _ _ => CallSettings.sound_of_reader) Settings.sound_default
  · exact sound_of_config .webhook config (fun _ _ => CallSettings.sound_of_reader) Settings.sound_default
  · exact sound_of_config .delay config (fun _ _ => DelaySettings.sound_of_reader) Settings.sound_default
  · exact sound_of_config .action config (fun _ _ => ActionSettings.sound_of_reader) Settings.sound_default
  · exact sound_of_config .branch config (fun _ _ => BranchSettings.sound_of_reader) Settings.sound_default

theorem sound_of_readWith {body : Fields → Reading Body} {fs : Fields} {s : Step}
    (h : readWith body fs = ok s) (sound : ∀ b, body fs = ok b → b.Sound) : s.Sound := by
  simp only [readWith, seq_eq_ok, map_eq_ok] at h
  obtain ⟨_, ⟨_, ⟨_, ⟨_, ⟨_, -, rfl⟩, _, -, rfl⟩, _, -, rfl⟩, _, -, rfl⟩, b, read, rfl⟩ := h
  exact sound b read

/-- The word for a kind that is not known is none of the known ones. -/
theorem sound_of_unknownBody {fs : Fields} {b : Body} (h : unknownBody fs = ok b)
    (unknown : ∀ kind, fs.get? "type" = some (.str kind) → bodyOfKind? kind = none) : b.Sound := by
  simp only [unknownBody, seq_eq_ok, map_eq_ok] at h
  obtain ⟨_, ⟨kind, named, rfl⟩, s, config, rfl⟩ := h
  obtain ⟨v, at_type, word⟩ := Fields.required_eq_ok.mp named
  have none_known : bodyOfKind? kind = none := by
    cases v with
    | str s =>
      cases ok_injective word
      exact unknown _ at_type
    | _ => exact absurd word fail_ne_ok
  exact sound_of_config (.unknown kind) config (fun _ _ read => ⟨none_known, Settings.sound_of_reader read⟩)
    ⟨none_known, Settings.sound_default⟩

/-- **What is read from a document is sound.** -/
theorem sound_of_reader {v : Value} {s : Step} (h : Step.reader v = ok s) : s.Sound := by
  unfold reader at h
  split at h
  · rename_i fs
    split at h
    · exact absurd h fail_ne_ok
    · exact absurd h fail_ne_ok
    · rename_i kind at_type
      split at h
      · rename_i read known
        exact sound_of_readWith (field_eq_ok.mp h) fun b => sound_of_bodyOfKind? known
      · rename_i unknown
        -- the type was read as a word that names no known kind
        refine sound_of_readWith (field_eq_ok.mp h) fun b read => sound_of_unknownBody read fun k same => ?_
        cases at_type.symm.trans same
        exact unknown
    · rename_i no_word
      -- the type is no word at all
      refine sound_of_readWith (field_eq_ok.mp h) fun b read => sound_of_unknownBody read fun k same => ?_
      exact absurd same (no_word k)
  · exact absurd (field_eq_ok.mp h) fail_ne_ok

/-- Whether a step is read from a document. -/
def IsRead (s : Step) : Prop := ∃ v, Step.reader v = ok s

theorem IsRead.sound {s : Step} (h : s.IsRead) : s.Sound := by
  obtain ⟨v, read⟩ := h
  exact sound_of_reader read

end Step

end Parley
