import Parley.Reading.Basic
import Parley.Step.Basic

/-!
# Reading steps

The document of a step tells its kind by its `type`; the rest is read by that kind. A type that is not
known makes an unknown step, which keeps its settings as they are. Issues inside a step are placed under
the word for its kind, those inside a trigger's settings also under the word for the kind of trigger.

Two older forms are still read: trigger settings without a `type` are those of a keyword trigger, and a
delay given as `delay` is a duration, in seconds unless a unit is given.
-/

namespace Parley

open Reading

/-! ### Parts of settings -/

/-- The fields that all settings share. -/
def Settings.read (known : List String) (fs : Fields) : Reading Settings :=
  (fun keywords => { triggerKeywords := keywords, extras := fs.without ("trigger_keywords" :: known) })
    <$> fs.textOrNull "trigger_keywords"

/-- A member of an enumeration. -/
def ButtonKind.reader : Reader ButtonKind
  | .str s => match ButtonKind.ofWord? s with
    | some kind => ok kind
    | none => fail .unknownMember
  | _ => fail .unknownMember

/-- The known fields of a button. -/
def Button.names : List String :=
  ["text", "type", "automation_id", "url", "phone", "connected_to"]

/-- Reads a button. -/
def Button.reader : Reader Button :=
  Reader.record .notRecord fun fs =>
    (fun text kind automation url phone target =>
      { text, kind, automationId := automation, url, phone, connectedTo := target,
        extras := fs.without Button.names })
      <$> fs.required "text" Reader.text
      <*> fs.withDefault "type" .automation ButtonKind.reader
      <*> fs.textOrNull "automation_id"
      <*> fs.textOrNull "url"
      <*> fs.textOrNull "phone"
      <*> fs.textOrNull "connected_to"

/-- The known fields of an attachment. -/
def Attachment.names : List String := ["type", "url", "filename", "caption"]

/-- Reads an attachment. -/
def Attachment.reader : Reader Attachment :=
  Reader.record .notRecord fun fs =>
    (fun kind url filename caption =>
      { kind, url, filename, caption, extras := fs.without Attachment.names })
      <$> fs.withDefault "type" "image" Reader.text
      <*> fs.text "url"
      <*> fs.textOrNull "filename"
      <*> fs.textOrNull "caption"

/-- Reads a rate limit. -/
def RateLimit.reader : Reader RateLimit :=
  Reader.record .notRecord fun fs =>
    RateLimit.mk
      <$> fs.withDefault "per_hour" 20 Reader.whole
      <*> fs.withDefault "per_day" 100 Reader.whole

/-- Reads what replies keep to. -/
def Scope.reader : Reader Scope :=
  Reader.record .notRecord fun fs =>
    Scope.mk
      <$> fs.withDefault "company_only" true Reader.truth
      <*> fs.withDefault "no_technical_details" false Reader.truth
      <*> fs.withDefault "no_sensitive_info" true Reader.truth

/-- Reads a test of the message. -/
def ConditionRule.reader : Reader ConditionRule :=
  Reader.record .notRecord fun fs =>
    ConditionRule.mk
      <$> fs.withDefault "field" "message_text" Reader.text
      <*> fs.withDefault "operator" "contains" Reader.text
      <*> fs.text "value"

/-- The known fields of an answer asked for. -/
def DataField.names : List String := ["name", "label", "type", "required"]

/-- Reads an answer asked for. -/
def DataField.reader : Reader DataField :=
  Reader.record .notRecord fun fs =>
    (fun name label kind required =>
      { name, label, kind, required, extras := fs.without DataField.names })
      <$> fs.required "name" Reader.text
      <*> fs.text "label"
      <*> fs.withDefault "type" "text" Reader.text
      <*> fs.withDefault "required" true Reader.truth

/-- Reads where answers are kept. -/
def Storage.reader : Reader Storage :=
  Reader.record .notRecord fun fs =>
    (fun kind => { kind, extras := fs.without ["type"] })
      <$> fs.withDefault "type" "google_sheets" Reader.text

/-- Reads a unit of time. -/
def TimeUnit.reader : Reader TimeUnit
  | .str s => match TimeUnit.ofWord? s with
    | some unit => ok unit
    | none => fail .unknownWord
  | _ => fail .unknownWord

/-! ### Settings of each kind -/

/-- Reads the rest of trigger settings, whose kind is known. -/
def TriggerSettings.readRule (known : List String) (rule : Fields → Reading TriggerRule)
    (fs : Fields) : Reading TriggerSettings :=
  (fun common rule => { toSettings := common, rule })
    <$> Settings.read ("type" :: known) fs
    <*> rule fs

/-- Reads trigger settings by the kind that their `type` names. -/
def TriggerSettings.readTagged (fs : Fields) : Reading TriggerSettings :=
  match fs.get? "type" with
  | some (.str "keyword") =>
    field "keyword" (readRule ["keywords"] (fun fs => .keyword <$> fs.texts "keywords") fs)
  | some (.str "exact_match") =>
    field "exact_match" (readRule ["match_text"] (fun fs => .exactMatch <$> fs.text "match_text") fs)
  | some (.str "schedule") =>
    field "schedule" (readRule ["cron"] (fun fs => .schedule <$> fs.textOrNull "cron") fs)
  | some (.str "webhook") =>
    field "webhook" (readRule [] (fun _ => ok .webhook) fs)
  | some (.str "integration") =>
    field "integration" (readRule ["integration", "webhook_event", "webhook_variables"]
      (fun fs => .integration
        <$> fs.text "integration"
        <*> fs.text "webhook_event"
        <*> fs.texts "webhook_variables") fs)
  | _ => fail .unknownTag

/-- Settings that name no kind of trigger are those of a keyword trigger. -/
def TriggerSettings.withType (fs : Fields) : Fields :=
  if fs.has "type" then fs else fs ++ [("type", .str "keyword")]

/-- Reads trigger settings. -/
def TriggerSettings.reader : Reader TriggerSettings :=
  Reader.record .notTagged fun fs => readTagged (withType fs)

/-- The known fields of message settings. -/
def MessageSettings.names : List String :=
  ["text", "message", "buttons", "attachments", "variables", "variable_values"]

/-- Reads message settings. -/
def MessageSettings.reader : Reader MessageSettings :=
  Reader.record .notRecord fun fs =>
    (fun common text message buttons attachments variableNames values =>
      { toSettings := common, text, message, buttons, attachments, variableNames,
        variableValues := values })
      <$> Settings.read MessageSettings.names fs
      <*> fs.text "text"
      <*> fs.text "message"
      <*> fs.withDefault "buttons" [] (Reader.listOf Button.reader)
      <*> fs.withDefault "attachments" [] (Reader.listOf Attachment.reader)
      <*> fs.texts "variables"
      <*> fs.textDict "variable_values"

/-- The known fields of reply settings. -/
def ReplySettings.names : List String :=
  ["system_prompt", "context_data", "tone", "temperature", "max_tokens", "fallback_response",
    "rate_limit", "rate_limit_message", "scope_restrictions"]

/-- Reads reply settings. -/
def ReplySettings.reader : Reader ReplySettings :=
  Reader.record .notRecord fun fs =>
    (fun common prompt context tone temperature tokens fallback limit limitMessage scope =>
      { toSettings := common, systemPrompt := prompt, contextData := context, tone, temperature,
        maxTokens := tokens, fallbackResponse := fallback, rateLimit := limit,
        rateLimitMessage := limitMessage, scope })
      <$> Settings.read ReplySettings.names fs
      <*> fs.text "system_prompt"
      <*> fs.text "context_data"
      <*> fs.withDefault "tone" "professional" Reader.text
      <*> fs.withDefault "temperature" defaultTemperature Reader.floating
      <*> fs.withDefault "max_tokens" 300 Reader.whole
      <*> fs.textOrNull "fallback_response"
      <*> fs.withDefault "rate_limit" {} RateLimit.reader
      <*> fs.textOrNull "rate_limit_message"
      <*> fs.withDefault "scope_restrictions" {} Scope.reader

/-- The known fields of condition settings. -/
def ConditionSettings.names : List String :=
  ["conditions", "condition", "true_path", "false_path"]

/-- Reads condition settings. -/
def ConditionSettings.reader : Reader ConditionSettings :=
  Reader.record .notRecord fun fs =>
    (fun common conditions condition whenTrue whenFalse =>
      { toSettings := common, conditions, condition, truePath := whenTrue, falsePath := whenFalse })
      <$> Settings.read ConditionSettings.names fs
      <*> fs.withDefault "conditions" [] (Reader.listOf ConditionRule.reader)
      <*> fs.text "condition"
      <*> fs.texts "true_path"
      <*> fs.texts "false_path"

/-- The known fields of data input settings. -/
def InputSettings.names : List String := ["prompt", "field", "fields", "storage"]

/-- Reads data input settings. -/
def InputSettings.reader : Reader InputSettings :=
  Reader.record .notRecord fun fs =>
    (fun common prompt name list storage =>
      { toSettings := common, prompt, field := name, fields := list, storage })
      <$> Settings.read InputSettings.names fs
      <*> fs.textOrNull "prompt"
      <*> fs.textOrNull "field"
      <*> fs.withDefault "fields" [] (Reader.listOf DataField.reader)
      <*> fs.withDefault "storage" {} Storage.reader

/-- Reads the settings of a call, whose method has a default and whose content has a name. -/
def CallSettings.reader (method content : String) : Reader CallSettings :=
  Reader.record .notRecord fun fs =>
    (fun common url method headers content =>
      { toSettings := common, url, method, headers, content })
      <$> Settings.read ["url", "method", "headers", content] fs
      <*> fs.text "url"
      <*> fs.withDefault "method" method Reader.text
      <*> fs.textDict "headers"
      <*> fs.dict content

/-- A delay given as `delay` is a duration, in seconds unless a unit is given. -/
def DelaySettings.modern (fs : Fields) : Fields :=
  match fs.get? "delay" with
  | some amount =>
    if fs.has "duration" then fs
    else
      let fs := fs.erase "delay" ++ [("duration", amount)]
      if fs.has "unit" then fs else fs ++ [("unit", .str "seconds")]
  | none => fs

/-- Reads delay settings of the present form. -/
def DelaySettings.readModern (fs : Fields) : Reading DelaySettings :=
  (fun common duration unit => { toSettings := common, duration, unit })
    <$> Settings.read ["duration", "unit"] fs
    <*> fs.withDefault "duration" defaultDuration Reader.floating
    <*> fs.withDefault "unit" .minutes TimeUnit.reader

/-- Reads delay settings. -/
def DelaySettings.reader : Reader DelaySettings :=
  Reader.record .notRecord fun fs => readModern (modern fs)

/-- Reads action settings. -/
def ActionSettings.reader : Reader ActionSettings :=
  Reader.record .notRecord fun fs =>
    (fun common description action parameters =>
      { toSettings := common, description, action, parameters })
      <$> Settings.read ["description", "action", "parameters"] fs
      <*> fs.textOrNull "description"
      <*> fs.textOrNull "action"
      <*> fs.dict "parameters"

/-- Reads branch settings. -/
def BranchSettings.reader : Reader BranchSettings :=
  Reader.record .notRecord fun fs =>
    (fun common description => { toSettings := common, description })
      <$> Settings.read ["description"] fs
      <*> fs.textOrNull "description"

/-- Reads the settings of an unknown step. -/
def Settings.reader : Reader Settings :=
  Reader.record .notRecord fun fs => Settings.read [] fs

/-! ### Steps -/

/-- Reads a place on the canvas. -/
def Position.reader : Reader Position :=
  Reader.record .notRecord fun fs =>
    Position.mk
      <$> fs.withDefault "x" 0.0 Reader.floating
      <*> fs.withDefault "y" 0.0 Reader.floating

namespace Step

/-- How the settings of each known kind of step are read, and what they are when there are none. -/
def bodyOfKind? : String → Option (Fields → Reading Body)
  | "trigger" => some fun fs => .trigger <$> fs.withDefault "config" {} TriggerSettings.reader
  | "message" => some fun fs => .message <$> fs.withDefault "config" {} MessageSettings.reader
  | "ai_response" => some fun fs => .reply <$> fs.withDefault "config" {} ReplySettings.reader
  | "condition" => some fun fs => .condition <$> fs.withDefault "config" {} ConditionSettings.reader
  | "data_input" => some fun fs => .input <$> fs.withDefault "config" {} InputSettings.reader
  | "api_call" => some fun fs =>
    .apiCall <$> fs.withDefault "config" { method := "GET" } (CallSettings.reader "GET" "body")
  | "webhook" => some fun fs =>
    .webhook <$> fs.withDefault "config" { method := "POST" } (CallSettings.reader "POST" "payload")
  | "delay" => some fun fs => .delay <$> fs.withDefault "config" {} DelaySettings.reader
  | "custom_action" => some fun fs => .action <$> fs.withDefault "config" {} ActionSettings.reader
  | "branch" => some fun fs => .branch <$> fs.withDefault "config" {} BranchSettings.reader
  | _ => none

/-- Reads the body of a step of an unknown kind. -/
def unknownBody (fs : Fields) : Reading Body :=
  .unknown <$> fs.required "type" Reader.text <*> fs.withDefault "config" {} Settings.reader

/-- Reads the fields of a step whose body is read by `body`. -/
def readWith (body : Fields → Reading Body) (fs : Fields) : Reading Step :=
  Step.mk
    <$> fs.required "id" Reader.text
    <*> fs.text "title"
    <*> fs.withDefault "position" none (Reader.orNull Position.reader)
    <*> fs.texts "connections"
    <*> body fs

/-- Reads a step. -/
def reader : Reader Step
  | .dict fs =>
    match Dict.get? fs "type" with
    | some (.list _) => fail .untaggable
    | some (.dict _) => fail .untaggable
    | some (.str kind) =>
      match bodyOfKind? kind with
      | some body => field kind (readWith body fs)
      | none => field "unknown" (readWith unknownBody fs)
    | _ => field "unknown" (readWith unknownBody fs)
  | _ => field "unknown" (fail .notRecord)

end Step

/-- The issues of a document that cannot be read at all, if it is one: then nothing else is told. -/
def Issue.untaggable? (issues : List Issue) : Bool :=
  issues.any fun i => i.kind == .untaggable

end Parley
