import Parley.Value
import Parley.Text.Blank
import Parley.Text.Case
import Parley.Text.Search
import Parley.Decimal.Notation

/-!
# Steps

An automation is a graph of *steps*. A step has an id, a title, a place on the builder's canvas and a
body, which says what the step does when a run reaches it and holds the settings for doing it.

Every group of settings may carry the keyword list by which a message enters the automation at that
step, and keys that nobody here knows: the builder wrote them and gets them back. The *connections* of a
step are the plain successors that a stored step carries with it; a graph keeps its own edges and has
steps without connections.
-/

namespace Parley

/-- What all groups of settings of a step have in common. -/
structure Settings where
  /-- Keywords between commas. -/
  triggerKeywords : Option String := none
  /-- The fields of the settings that have no meaning here. -/
  extras : Fields := []

/-- The keywords of the list: trimmed, in lower case, without the empty ones. -/
def Settings.keywordTokens (s : Settings) : List String :=
  match s.triggerKeywords with
  | none => []
  | some list =>
    ((Text.commaPieces list).map Text.trim).filter (· != "") |>.map Text.lower

/-! ### Triggers -/

/-- What starts a run. -/
inductive TriggerRule where
  /-- A message that holds one of the keywords, or any message when there are none. -/
  | keyword (keywords : List String)
  /-- A message that is the text. -/
  | exactMatch (text : String)
  /-- The clock, by a schedule. -/
  | schedule (cron : Option String)
  /-- Any call of the automation's webhook. -/
  | webhook
  /-- An event of an integration. -/
  | integration (name event : String) (variableNames : List String)

/-- The word for a kind of trigger. -/
def TriggerRule.typeName : TriggerRule → String
  | keyword _ => "keyword"
  | exactMatch _ => "exact_match"
  | schedule _ => "schedule"
  | webhook => "webhook"
  | integration .. => "integration"

/-- The settings of a trigger step. -/
structure TriggerSettings extends Settings where
  rule : TriggerRule := .keyword []

/-! ### Messages -/

/-- What a button does when it is pressed. -/
inductive ButtonKind where
  /-- It goes on in the automation. -/
  | automation
  /-- It opens a page. -/
  | link
  /-- It calls a number. -/
  | phone
  deriving DecidableEq, Repr

/-- The word for a kind of button. -/
def ButtonKind.word : ButtonKind → String
  | automation => "automation"
  | link => "link"
  | phone => "phone"

/-- The kind of button that a word names. -/
def ButtonKind.ofWord? : String → Option ButtonKind
  | "automation" => some .automation
  | "link" => some .link
  | "phone" => some .phone
  | _ => none

/-- A button under a message. -/
structure Button where
  text : String
  kind : ButtonKind := .automation
  automationId : Option String := none
  url : Option String := none
  phone : Option String := none
  /-- The step at the other end of the button's edge. -/
  connectedTo : Option String := none
  extras : Fields := []

/-- A file under a message. -/
structure Attachment where
  kind : String := "image"
  url : String := ""
  filename : Option String := none
  caption : Option String := none
  extras : Fields := []

/-- The settings of a message step. -/
structure MessageSettings extends Settings where
  text : String := ""
  /-- Where older automations keep the text. -/
  message : String := ""
  buttons : List Button := []
  attachments : List Attachment := []
  /-- The names of the positional tokens: the first is that of token 1. -/
  variableNames : List String := []
  variableValues : Dict String := []

/-- The text of the message. -/
def MessageSettings.body (s : MessageSettings) : String :=
  if s.text != "" then s.text else s.message

/-! ### Replies by the AI service -/

/-- How many replies a recipient may get. -/
structure RateLimit where
  perHour : Int := 20
  perDay : Int := 100
  deriving DecidableEq, Repr

/-- What replies have to keep to. -/
structure Scope where
  companyOnly : Bool := true
  noTechnicalDetails : Bool := false
  noSensitiveInfo : Bool := true

/-- The default temperature. -/
def defaultTemperature : Float := 0.7

/-- The settings of a step that replies through the AI service. -/
structure ReplySettings extends Settings where
  systemPrompt : String := ""
  contextData : String := ""
  tone : String := "professional"
  temperature : Float := defaultTemperature
  maxTokens : Int := 300
  fallbackResponse : Option String := none
  rateLimit : RateLimit := {}
  rateLimitMessage : Option String := none
  scope : Scope := {}

/-! ### Conditions, questions, calls, delays and actions -/

/-- A test of the message. -/
structure ConditionRule where
  field : String := "message_text"
  operator : String := "contains"
  value : String := ""

/-- The settings of a condition step. -/
structure ConditionSettings extends Settings where
  conditions : List ConditionRule := []
  condition : String := ""
  truePath : List String := []
  falsePath : List String := []

/-- One answer that a data input step asks for. -/
structure DataField where
  name : String
  label : String := ""
  kind : String := "text"
  required : Bool := true
  extras : Fields := []

/-- Where answers are kept. -/
structure Storage where
  kind : String := "google_sheets"
  extras : Fields := []

/-- The settings of a data input step. -/
structure InputSettings extends Settings where
  prompt : Option String := none
  field : Option String := none
  fields : List DataField := []
  storage : Storage := {}

/-- The field that the next message answers: the one named, or else the first of the list. -/
def InputSettings.targetField (s : InputSettings) : Option String :=
  match s.field with
  | some name => if name != "" then some name else s.fields.head?.map (·.name)
  | none => s.fields.head?.map (·.name)

/-- The settings of a step that calls another service. -/
structure CallSettings extends Settings where
  url : String := ""
  method : String
  headers : Dict String := []
  /-- What is sent along. -/
  content : Fields := []

/-- A unit of time. -/
inductive TimeUnit where
  | seconds
  | minutes
  | hours
  | days
  deriving DecidableEq, Repr

namespace TimeUnit

/-- The word for a unit of time. -/
def word : TimeUnit → String
  | seconds => "seconds"
  | minutes => "minutes"
  | hours => "hours"
  | days => "days"

/-- The word for one unit of time. -/
def singular : TimeUnit → String
  | seconds => "second"
  | minutes => "minute"
  | hours => "hour"
  | days => "day"

/-- The unit of time that a word names. -/
def ofWord? : String → Option TimeUnit
  | "seconds" => some .seconds
  | "minutes" => some .minutes
  | "hours" => some .hours
  | "days" => some .days
  | _ => none

/-- The length of a unit of time in seconds. -/
def length : TimeUnit → Float
  | seconds => 1.0
  | minutes => 60.0
  | hours => 3600.0
  | days => 86400.0

end TimeUnit

/-- The default duration of a delay. -/
def defaultDuration : Float := 5.0

/-- The settings of a delay step. -/
structure DelaySettings extends Settings where
  duration : Float := defaultDuration
  unit : TimeUnit := .minutes

namespace DelaySettings

/-- The delay in seconds. -/
def seconds (s : DelaySettings) : Float := s.duration * s.unit.length

/-- The delay in words: a whole duration is written without a fraction, however large it is. -/
def describe (s : DelaySettings) : String :=
  let amount := match Decimal.whole? s.duration with
    | some n => toString n
    | none => Decimal.plain.write s.duration
  amount ++ " " ++ s.unit.singular ++ "(s)"

end DelaySettings

/-- The settings of a step that does something of its own. -/
structure ActionSettings extends Settings where
  description : Option String := none
  action : Option String := none
  parameters : Fields := []

/-- The settings of a branch step. -/
structure BranchSettings extends Settings where
  description : Option String := none

/-! ### Steps -/

/-- What a step does. -/
inductive Body where
  | trigger (s : TriggerSettings)
  | message (s : MessageSettings)
  | reply (s : ReplySettings)
  | condition (s : ConditionSettings)
  | input (s : InputSettings)
  | apiCall (s : CallSettings)
  | webhook (s : CallSettings)
  | delay (s : DelaySettings)
  | action (s : ActionSettings)
  | branch (s : BranchSettings)
  /-- A kind of step that is not known here: it is kept, and a run passes over it. -/
  | unknown (kind : String) (s : Settings)

namespace Body

/-- The word for a kind of step. -/
def typeName : Body → String
  | trigger _ => "trigger"
  | message _ => "message"
  | reply _ => "ai_response"
  | condition _ => "condition"
  | input _ => "data_input"
  | apiCall _ => "api_call"
  | webhook _ => "webhook"
  | delay _ => "delay"
  | action _ => "custom_action"
  | branch _ => "branch"
  | unknown kind _ => kind

/-- The settings that all kinds of steps have. -/
def settings : Body → Settings
  | trigger s => s.toSettings
  | message s => s.toSettings
  | reply s => s.toSettings
  | condition s => s.toSettings
  | input s => s.toSettings
  | apiCall s => s.toSettings
  | webhook s => s.toSettings
  | delay s => s.toSettings
  | action s => s.toSettings
  | branch s => s.toSettings
  | unknown _ s => s

end Body

/-- A place on the builder's canvas. -/
structure Position where
  x : Float := 0.0
  y : Float := 0.0

/-- A step of an automation. -/
structure Step where
  id : String
  title : String := ""
  position : Option Position := none
  connections : List String := []
  body : Body

namespace Step

/-- The word for the step's kind. -/
def typeName (s : Step) : String := s.body.typeName

/-- The keywords by which a message enters at the step. -/
def keywordTokens (s : Step) : List String := s.body.settings.keywordTokens

/-- Whether the step is a trigger. -/
def isTrigger (s : Step) : Bool :=
  match s.body with
  | .trigger _ => true
  | _ => false

/-- The settings of a trigger step. -/
def trigger? (s : Step) : Option TriggerSettings :=
  match s.body with
  | .trigger t => some t
  | _ => none

/-- The buttons of a message step; other steps have none. -/
def buttons (s : Step) : List Button :=
  match s.body with
  | .message m => m.buttons
  | _ => []

/-- Whether the step is a message, the only kind that has buttons. -/
def isMessage (s : Step) : Bool :=
  match s.body with
  | .message _ => true
  | _ => false

/-- The step with its buttons changed. -/
def mapButtons (s : Step) (f : List Button → List Button) : Step :=
  match s.body with
  | .message m => { s with body := .message { m with buttons := f m.buttons } }
  | _ => s

/-- The step without any word on where it leads: no connections, and buttons that lead nowhere. -/
def detached (s : Step) : Step :=
  { s.mapButtons (List.map fun b => { b with connectedTo := none }) with connections := [] }

end Step

end Parley
