import Parley.Run.Basic
import Parley.Service.Basic
import Parley.Substitution.Resolve

/-!
# What a step does

Every kind of step has its way of being performed. It yields effects and may ask for a pause or for an
answer. Steps that need a service ask the one they are given, and the service may change a world of its
own; a failing service is a notice or a fallback message, never the end of the run. What a step does has
no say in where the run goes on.
-/

namespace Parley

/-- The services that a run has, over the world that they change. -/
structure Services (σ : Type) where
  /-- The service that writes replies. -/
  reply : Option (ReplyRequest → σ → Except ServiceFailure Reply × σ) := none
  /-- The service that makes calls. Without it, a call is only acknowledged. -/
  call : Option (CallRequest → σ → Except ServiceFailure CallResponse × σ) := none

/-- What runs need: services, a clock and a limit. -/
structure Runner (σ : Type) where
  services : Services σ
  now : Moment
  /-- How many steps a run may take. -/
  maxSteps : Int := 50

/-- What a step yields. -/
structure Outcome where
  effects : List Effect := []
  /-- The seconds that the run should wait, and the same in words. -/
  pause : Option (Float × String) := none
  /-- The field that the next message answers. -/
  awaiting : Option String := none

namespace Outcome

/-- A single effect. -/
def ofEffect (e : Effect) : Outcome := { effects := [e] }

/-- A notice that something is wrong with the settings of a step. -/
def misconfigured (s : Step) (text : String) : Outcome :=
  ofEffect (.notice s ("⚠️ " ++ text) [("config_error", .bool true)])

end Outcome

namespace Step

/-! ### Messages and questions -/

/-- What is sent for a message without text. -/
def noText : String := "💬 Message step (no text configured)"

/-- A token as it is written in a text. -/
def tokenText (name : String) : String := "\x7b\x7b" ++ name ++ "\x7d\x7d"

/-- Sends a message. If one of its positional tokens stands for no variable, a notice says so instead. -/
def sendMessage (s : Step) (m : MessageSettings) (now : Moment) (context : Context) : Outcome :=
  let send (text : String) : Outcome :=
    .ofEffect { Effect.message s text [] with attachments := m.attachments, buttons := m.buttons }
  if Text.trim m.body = "" then send noText
  else
    let r := (Bindings.ofContext context now m.variableNames m.variableValues).resolve m.body
    if r.ok then send r.text
    else .misconfigured s
      ("Message references undefined variable(s): " ++
        Text.joinWith ", " (r.undefined.map tokenText))

/-- What is asked if nothing else is. -/
def defaultPrompt : String := "Please provide the required information:"

/-- Asks for an answer. -/
def askInput (s : Step) (i : InputSettings) (now : Moment) (context : Context) : Outcome :=
  let prompt := (context.resolve now (orElseText i.prompt defaultPrompt)).text
  { effects := [.message s prompt
      [("requesting_input", .bool true), ("field", .ofText? i.targetField)]]
    awaiting := i.targetField }

/-! ### Replies -/

/-- What is asked of the service that writes replies. -/
def replyRequest (r : ReplySettings) (st : RunState) : ReplyRequest :=
  { message := st.message, systemPrompt := r.systemPrompt, contextData := r.contextData, tone := r.tone,
    temperature := r.temperature, maxTokens := r.maxTokens, recipient := st.context.recipient,
    automation := st.automation, perHour := some r.rateLimit.perHour, perDay := some r.rateLimit.perDay }

/-- What is sent when the recipient has had enough replies. -/
def defaultLimitMessage : String :=
  "Our AI assistant has reached its usage limit. Please contact our support team."

/-- What is sent when there is no reply. -/
def defaultFallback : String :=
  "I apologize, but I cannot assist with that request. Please contact our support team."

/-- The answer of a service that is not there. -/
def noReplyService : Reply :=
  { success := false, error := some "AI Response Service is not configured" }

/-- The reply that a run makes of what the service said. -/
def settledReply : Except ServiceFailure Reply → Reply
  | .ok reply => reply
  | .error failure => { success := false, error := some failure.message }

/-- The message made of a reply: its text, or a text of the step that says why there is none. -/
def replyEffect (s : Step) (r : ReplySettings) (reply : Reply) : Effect :=
  let text := reply.text.getD ""
  if reply.success && text != "" then
    .message s text (match reply.usage with
      | some usage => [("token_usage", usage.write)]
      | none => [])
  else if reply.rateLimited then
    .message s (orElseText reply.text (orElseText r.rateLimitMessage defaultLimitMessage))
      [("rate_limited", .bool true)]
  else
    .message s (orElseText reply.text (orElseText r.fallbackResponse defaultFallback))
      [("error", .ofText? reply.error)]

/-- Sends a reply of the service. -/
def sendReply {σ : Type} (s : Step) (r : ReplySettings) (services : Services σ) (st : RunState) (w : σ) :
    Outcome × σ :=
  match services.reply with
  | none => (.ofEffect (s.replyEffect r noReplyService), w)
  | some generate =>
    let (answer, w) := generate (replyRequest r st) w
    (.ofEffect (s.replyEffect r (settledReply answer)), w)

/-! ### Conditions -/

/-- The test that an operator stands for. -/
def operator? : String → Option (String → String → Bool)
  | "contains" => some Text.contains
  | "equals" => some fun text wanted => text == wanted
  | "starts_with" => some Text.startsWith
  | _ => none

/-- The notice of the first rule that a message in lower case meets, or that cannot be tested. -/
def testRules (s : Step) (text : String) : List ConditionRule → Outcome
  | [] => .ofEffect (.notice s "❌ No conditions matched" [("condition_matched", .bool false)])
  | rule :: rest =>
    match (if rule.field = "message_text" then operator? rule.operator else none) with
    | none => .misconfigured s ("Unsupported condition: " ++ rule.field ++ " " ++ rule.operator)
    | some test =>
      if test text (Text.lower rule.value) then
        .ofEffect (.notice s ("✅ Condition matched: \"" ++ rule.value ++ "\"")
          [("condition_matched", .bool true), ("matched_condition", rule.write)])
      else testRules s text rest

/-- Tests the message. -/
def testMessage (s : Step) (c : ConditionSettings) (message : String) : Outcome :=
  if c.conditions.isEmpty then .misconfigured s "Condition step has no conditions configured"
  else s.testRules (Text.lower message) c.conditions

/-! ### Calls -/

/-- How calls are spoken of. -/
structure CallWords where
  /-- What a call is named. -/
  name : String
  /-- The acknowledgement of a call to an address. -/
  acknowledge : String → String
  /-- How the other end is named when there is no address. -/
  nowhere : String

/-- How calls of another service are spoken of. -/
def apiCallWords : CallWords :=
  { name := "API call"
    acknowledge := fun url => "🔄 API call to " ++ url ++ " executed"
    nowhere := "external service" }

/-- How reports to another service are spoken of. -/
def webhookWords : CallWords :=
  { name := "Webhook"
    acknowledge := fun url => "📡 Webhook sent to " ++ url
    nowhere := "external endpoint" }

/-- The call that a step makes. An empty content is not sent. -/
def callRequest (c : CallSettings) (url : String) (now : Moment) (context : Context) : CallRequest :=
  { url
    method := Text.upper c.method
    headers := c.headers.map fun (key, value) => (key, (context.resolve now value).text)
    body :=
      if c.content.isEmpty then .null else .dict (context.resolveFields now c.content) }

/-- The notice of what came of a call. -/
def callEffect (s : Step) (words : CallWords) (url : String) :
    Except ServiceFailure CallResponse → Effect
  | .ok r =>
    if r.ok then
      .notice s ("✅ " ++ words.name ++ " to " ++ url ++ " succeeded (" ++ toString r.status ++ ")")
        [("url", .str url), ("http_status", .int r.status)]
    else failed ("HTTP " ++ toString r.status)
  | .error failure => failed failure.message
where
  /-- The notice of a call that failed. -/
  failed (error : String) : Effect :=
    .notice s ("⚠️ " ++ words.name ++ " to " ++ url ++ " failed: " ++ error)
      [("url", .str url), ("error", .str error)]

/-- Makes a call, if there is a service for it. -/
def makeCall {σ : Type} (s : Step) (c : CallSettings) (words : CallWords) (services : Services σ)
    (now : Moment) (context : Context) (w : σ) : Outcome × σ :=
  let url := if c.url = "" then "" else (context.resolve now c.url).text
  match services.call with
  | none =>
    (.ofEffect (.notice s (words.acknowledge (if url = "" then words.nowhere else url))
      [("simulated", .bool true), ("url", .str url)]), w)
  | some call =>
    if url = "" then (.misconfigured s "No URL configured for this step", w)
    else
      let (answer, w) := call (callRequest c url now context) w
      (.ofEffect (s.callEffect words url answer), w)

/-! ### All kinds of steps -/

/-- Pauses the run. -/
def wait (s : Step) (d : DelaySettings) : Outcome :=
  { effects := [.notice s ("⏱️ Waiting " ++ d.describe ++ "...") [("delay_seconds", .float d.seconds)]]
    pause := some (d.seconds, d.describe) }

/-- Performs a step. -/
def perform {σ : Type} (s : Step) (r : Runner σ) (st : RunState) (w : σ) : Outcome × σ :=
  match s.body with
  | .trigger _ => ({}, w)
  | .message m => (s.sendMessage m r.now st.context, w)
  | .reply c => s.sendReply c r.services st w
  | .condition c => (s.testMessage c st.message, w)
  | .delay d => (s.wait d, w)
  | .input i => (s.askInput i r.now st.context, w)
  | .apiCall c => s.makeCall c apiCallWords r.services r.now st.context w
  | .webhook c => s.makeCall c webhookWords r.services r.now st.context w
  | .action a =>
    (.ofEffect (.notice s (orElseText a.description "⚡ Custom action executed")
      [("custom_action", .bool true)]), w)
  | .branch _ =>
    (.ofEffect (.notice s "🔀 Flow branched based on conditions" [("branched", .bool true)]), w)
  | .unknown kind _ => (.ofEffect (.notice s ("📝 " ++ kind ++ " step executed") []), w)

end Step

end Parley
