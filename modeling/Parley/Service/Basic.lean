import Parley.Step.Reader

/-!
# The services that a run calls

Two services stand outside a run: one writes replies, the other makes calls over the network. This module
holds what is asked of them and what they answer. A service may also fail; a failure is told apart from
an answer that says no.
-/

namespace Parley

open Reading

/-! ### Replies -/

/-- What is asked of the service that writes replies. -/
structure ReplyRequest where
  message : String
  systemPrompt : String := ""
  contextData : String := ""
  tone : String := "professional"
  temperature : Float := defaultTemperature
  maxTokens : Int := 300
  recipient : String
  automation : String
  /-- How many replies the recipient may get in an hour, if the step says so. -/
  perHour : Option Int := none
  /-- How many replies the recipient may get in a day, if the step says so. -/
  perDay : Option Int := none

namespace ReplyRequest

/-- Reads a request for a reply. -/
def reader : Reader ReplyRequest :=
  Reader.record .notRecord fun fs =>
    ReplyRequest.mk
      <$> fs.required "message" Reader.text
      <*> fs.text "system_prompt"
      <*> fs.text "context_data"
      <*> fs.withDefault "tone" "professional" Reader.text
      <*> fs.withDefault "temperature" defaultTemperature Reader.floating
      <*> fs.withDefault "max_tokens" 300 Reader.whole
      <*> fs.required "recipient_id" Reader.text
      <*> fs.required "automation_id" Reader.text
      <*> fs.withDefault "rate_limit_per_hour" none (Reader.orNull Reader.whole)
      <*> fs.withDefault "rate_limit_per_day" none (Reader.orNull Reader.whole)

/-- The fields of a request for a reply. -/
def fields (r : ReplyRequest) : Fields :=
  [("message", .str r.message), ("system_prompt", .str r.systemPrompt),
    ("context_data", .str r.contextData), ("tone", .str r.tone), ("temperature", .float r.temperature),
    ("max_tokens", .int r.maxTokens), ("recipient_id", .str r.recipient),
    ("automation_id", .str r.automation), ("rate_limit_per_hour", .ofInt? r.perHour),
    ("rate_limit_per_day", .ofInt? r.perDay)]

end ReplyRequest

/-- How long a reply and what it answers are. -/
structure TokenUsage where
  promptTokens : Int := 0
  completionTokens : Int := 0
  totalTokens : Int := 0
  deriving DecidableEq, Repr

namespace TokenUsage

/-- Reads the lengths of a reply. -/
def reader : Reader TokenUsage :=
  Reader.record .notRecord fun fs =>
    TokenUsage.mk
      <$> fs.withDefault "prompt_tokens" 0 Reader.whole
      <*> fs.withDefault "completion_tokens" 0 Reader.whole
      <*> fs.withDefault "total_tokens" 0 Reader.whole

/-- Writes the lengths of a reply. -/
def write (u : TokenUsage) : Value :=
  .dict [("prompt_tokens", .int u.promptTokens), ("completion_tokens", .int u.completionTokens),
    ("total_tokens", .int u.totalTokens)]

end TokenUsage

/-- What the service that writes replies answers. -/
structure Reply where
  success : Bool
  text : Option String := none
  usage : Option TokenUsage := none
  /-- Whether the recipient has had as many replies as allowed. -/
  rateLimited : Bool := false
  error : Option String := none
  deriving DecidableEq, Repr

namespace Reply

/-- Reads a reply. -/
def reader : Reader Reply :=
  Reader.record .notRecord fun fs =>
    Reply.mk
      <$> fs.required "success" Reader.truth
      <*> fs.textOrNull "response_text"
      <*> fs.withDefault "token_usage" none (Reader.orNull TokenUsage.reader)
      <*> fs.withDefault "rate_limited" false Reader.truth
      <*> fs.textOrNull "error"

/-- The fields of a reply. -/
def fields (r : Reply) : Fields :=
  [("success", .bool r.success), ("response_text", .ofText? r.text),
    ("token_usage", match r.usage with
      | some usage => usage.write
      | none => .null),
    ("rate_limited", .bool r.rateLimited), ("error", .ofText? r.error)]

/-- Writes a reply. -/
def write (r : Reply) : Value := .dict r.fields

end Reply

/-! ### Calls -/

/-- A call over the network. -/
structure CallRequest where
  url : String
  method : String := "GET"
  headers : Dict String := []
  body : Value := .null

namespace CallRequest

/-- Reads a call. -/
def reader : Reader CallRequest :=
  Reader.record .notRecord fun fs =>
    CallRequest.mk
      <$> fs.required "url" Reader.text
      <*> fs.withDefault "method" "GET" Reader.text
      <*> fs.textDict "headers"
      <*> fs.withDefault "body" .null Reader.any

/-- The fields of a call. -/
def fields (r : CallRequest) : Fields :=
  [("url", .str r.url), ("method", .str r.method), ("headers", .ofTextDict r.headers), ("body", r.body)]

end CallRequest

/-- What comes back from a call. -/
structure CallResponse where
  status : Int
  body : Value := .null

namespace CallResponse

/-- Whether the call succeeded. -/
def ok (r : CallResponse) : Bool := 200 ≤ r.status && r.status < 300

/-- Reads what comes back from a call. -/
def reader : Reader CallResponse :=
  Reader.record .notRecord fun fs =>
    CallResponse.mk
      <$> fs.required "status" Reader.whole
      <*> fs.withDefault "body" .null Reader.any

/-- The fields of what comes back from a call. -/
def fields (r : CallResponse) : Fields := [("status", .int r.status), ("body", r.body)]

end CallResponse

/-! ### Failures -/

/-- Why a service gives no answer. -/
structure ServiceFailure where
  message : String
  kind : String := "service_error"
  deriving DecidableEq, Repr

end Parley
