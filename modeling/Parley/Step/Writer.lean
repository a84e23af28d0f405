import Parley.Step.Basic

/-!
# Writing steps

A step is written with all its fields, or *compactly*, without those that are null. Either way the fields
without a meaning come last; a number among them that is not finite is written as null, while a field
that is a floating number keeps it.
-/

namespace Parley

/-- How records are written: in full, or without the fields that are null. -/
inductive Form where
  | full
  | compact
  deriving DecidableEq, Repr

namespace Form

/-- The fields that are written. -/
def keep (form : Form) (fs : Fields) : Fields :=
  match form with
  | full => fs
  | compact => fs.filter fun entry => !entry.2.isNull

/-- A record of known fields and fields without a meaning. -/
def record (form : Form) (known extras : Fields) : Value :=
  .dict (form.keep known ++ Value.finiteFields (form.keep extras))

end Form

/-- The field that all settings share, in front of the others. -/
def Settings.write (form : Form) (s : Settings) (known : Fields) : Value :=
  form.record (("trigger_keywords", .ofText? s.triggerKeywords) :: known) s.extras

/-- Writes trigger settings. -/
def TriggerSettings.write (form : Form) (s : TriggerSettings) : Value :=
  let kind : Value := .str s.rule.typeName
  s.toSettings.write form <| match s.rule with
    | .keyword keywords => [("type", kind), ("keywords", .ofTexts keywords)]
    | .exactMatch text => [("type", kind), ("match_text", .str text)]
    | .schedule cron => [("type", kind), ("cron", .ofText? cron)]
    | .webhook => [("type", kind)]
    | .integration name event variableNames =>
      [("type", kind), ("integration", .str name), ("webhook_event", .str event),
        ("webhook_variables", .ofTexts variableNames)]

/-- Writes a button. -/
def Button.write (form : Form) (b : Button) : Value :=
  form.record
    [("text", .str b.text), ("type", .str b.kind.word), ("automation_id", .ofText? b.automationId),
      ("url", .ofText? b.url), ("phone", .ofText? b.phone),
      ("connected_to", .ofText? b.connectedTo)]
    b.extras

/-- Writes an attachment. -/
def Attachment.write (form : Form) (a : Attachment) : Value :=
  form.record
    [("type", .str a.kind), ("url", .str a.url), ("filename", .ofText? a.filename),
      ("caption", .ofText? a.caption)]
    a.extras

/-- Writes message settings. -/
def MessageSettings.write (form : Form) (s : MessageSettings) : Value :=
  s.toSettings.write form
    [("text", .str s.text), ("message", .str s.message),
      ("buttons", .list (s.buttons.map (Button.write form))),
      ("attachments", .list (s.attachments.map (Attachment.write form))),
      ("variables", .ofTexts s.variableNames), ("variable_values", .ofTextDict s.variableValues)]

/-- Writes a rate limit. -/
def RateLimit.write (l : RateLimit) : Value :=
  .dict [("per_hour", .int l.perHour), ("per_day", .int l.perDay)]

/-- Writes what replies keep to. -/
def Scope.write (s : Scope) : Value :=
  .dict [("company_only", .bool s.companyOnly), ("no_technical_details", .bool s.noTechnicalDetails),
    ("no_sensitive_info", .bool s.noSensitiveInfo)]

/-- Writes reply settings. -/
def ReplySettings.write (form : Form) (s : ReplySettings) : Value :=
  s.toSettings.write form
    [("system_prompt", .str s.systemPrompt), ("context_data", .str s.contextData),
      ("tone", .str s.tone), ("temperature", .float s.temperature), ("max_tokens", .int s.maxTokens),
      ("fallback_response", .ofText? s.fallbackResponse), ("rate_limit", s.rateLimit.write),
      ("rate_limit_message", .ofText? s.rateLimitMessage), ("scope_restrictions", s.scope.write)]

/-- Writes a test of the message. -/
def ConditionRule.write (r : ConditionRule) : Value :=
  .dict [("field", .str r.field), ("operator", .str r.operator), ("value", .str r.value)]

/-- Writes condition settings. -/
def ConditionSettings.write (form : Form) (s : ConditionSettings) : Value :=
  s.toSettings.write form
    [("conditions", .list (s.conditions.map ConditionRule.write)), ("condition", .str s.condition),
      ("true_path", .ofTexts s.truePath), ("false_path", .ofTexts s.falsePath)]

/-- Writes an answer asked for. -/
def DataField.write (form : Form) (f : DataField) : Value :=
  form.record
    [("name", .str f.name), ("label", .str f.label), ("type", .str f.kind),
      ("required", .bool f.required)]
    f.extras

/-- Writes where answers are kept. -/
def Storage.write (form : Form) (s : Storage) : Value :=
  form.record [("type", .str s.kind)] s.extras

/-- Writes data input settings. -/
def InputSettings.write (form : Form) (s : InputSettings) : Value :=
  s.toSettings.write form
    [("prompt", .ofText? s.prompt), ("field", .ofText? s.field),
      ("fields", .list (s.fields.map (DataField.write form))), ("storage", s.storage.write form)]

/-- Writes the settings of a call, whose content has a name. -/
def CallSettings.write (form : Form) (content : String) (s : CallSettings) : Value :=
  s.toSettings.write form
    [("url", .str s.url), ("method", .str s.method), ("headers", .ofTextDict s.headers),
      (content, .dict (Value.finiteFields s.content))]

/-- Writes delay settings. -/
def DelaySettings.write (form : Form) (s : DelaySettings) : Value :=
  s.toSettings.write form [("duration", .float s.duration), ("unit", .str s.unit.word)]

/-- Writes action settings. -/
def ActionSettings.write (form : Form) (s : ActionSettings) : Value :=
  s.toSettings.write form
    [("description", .ofText? s.description), ("action", .ofText? s.action),
      ("parameters", .dict (Value.finiteFields s.parameters))]

/-- Writes branch settings. -/
def BranchSettings.write (form : Form) (s : BranchSettings) : Value :=
  s.toSettings.write form [("description", .ofText? s.description)]

/-- Writes the settings of a body. -/
def Body.write (form : Form) : Body → Value
  | .trigger s => s.write form
  | .message s => s.write form
  | .reply s => s.write form
  | .condition s => s.write form
  | .input s => s.write form
  | .apiCall s => s.write form "body"
  | .webhook s => s.write form "payload"
  | .delay s => s.write form
  | .action s => s.write form
  | .branch s => s.write form
  | .unknown _ s => s.write form []

/-- Writes a place on the canvas. -/
def Position.write (p : Position) : Value :=
  .dict [("x", .float p.x), ("y", .float p.y)]

/-- The fields of a step. -/
def Step.fields (form : Form) (s : Step) : Fields :=
  form.keep
    [("id", .str s.id), ("title", .str s.title),
      ("position", match s.position with
        | some p => p.write
        | none => .null),
      ("connections", .ofTexts s.connections), ("type", .str s.typeName),
      ("config", s.body.write form)]

/-- Writes a step. -/
def Step.write (form : Form) (s : Step) : Value := .dict (s.fields form)

end Parley
