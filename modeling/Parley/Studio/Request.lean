import Parley.Record.Basic
import Parley.Substitution.Context
import Parley.Text.Case
import Parley.Text.Percent

/-!
# Requests to the studio

The *studio* is where automations are built, tried out and put to use. What is asked of it comes as a
request: a method, an address and perhaps a document. A request is first understood as an *action*, whose
parts are typed, and only then carried out. Whether it can be understood does not depend on what the studio
holds: an address leads somewhere or not, a method fits the address or not, and a document can be read or
not – in this order.
-/

namespace Parley

open Reading

/-! ### What a request sends along -/

/-- An automation as its builder sends it: steps as documents, and edges. -/
structure Draft where
  name : String := "New Automation"
  description : String := ""
  status : Status := .draft
  workflow : List Fields := []
  connections : List Edge := []

/-- Reads a draft. The steps need only be dictionaries. -/
def Draft.reader : Reader Draft :=
  Reader.record .notTagged fun fs =>
    Draft.mk
      <$> fs.withDefault "name" "New Automation" Reader.text
      <*> fs.text "description"
      <*> fs.withDefault "status" .draft Status.reader
      <*> fs.withDefault "workflow" [] (Reader.listOf (Reader.dictOf Reader.any))
      <*> fs.withDefault "connections" [] (Reader.listOf (Edge.readerAs .notTagged))

/-- Whom a preview pretends to talk to. -/
structure Audience where
  recipient : String := "preview_user"
  contact : Option Contact := none
  /-- Whether there is a pause before each line, as if someone typed it. -/
  typing : Bool := false

/-- Reads a contact, or null. -/
def contactReader : Reader (Option Contact) := Reader.orNull (Contact.readerAs .notTagged)

/-- Reads an audience. -/
def Audience.reader : Reader Audience :=
  Reader.record .notTagged fun fs =>
    Audience.mk
      <$> fs.withDefault "recipient" "preview_user" Reader.text
      <*> fs.withDefault "contact" none contactReader
      <*> fs.withDefault "typing_delay" false Reader.truth

/-- A message of a live conversation. -/
structure Inbound where
  recipient : String
  contact : Option Contact := none
  text : String

/-- Reads a message of a live conversation. -/
def Inbound.reader : Reader Inbound :=
  Reader.record .notTagged fun fs =>
    Inbound.mk
      <$> fs.required "recipient" Reader.text
      <*> fs.withDefault "contact" none contactReader
      <*> fs.required "text" Reader.text

/-- What a user does in a preview. -/
inductive Gesture where
  | send (text : String)
  | click (entry : String) (index : Nat)
  | fire (integration event : String) (payload : Fields)

namespace Gesture

/-- Reads a message. -/
def sendReader : Reader Gesture :=
  Reader.record .notTagged fun fs => send <$> fs.required "text" Reader.text

/-- Reads the press of a button. -/
def clickReader : Reader Gesture :=
  Reader.record .notTagged fun fs =>
    click
      <$> fs.required "entry_id" Reader.text
      <*> fs.required "index" Edge.indexReader

/-- Reads an event. -/
def fireReader : Reader Gesture :=
  Reader.record .notTagged fun fs =>
    fire
      <$> fs.required "integration" Reader.text
      <*> fs.required "event" Reader.text
      <*> fs.dict "payload"

end Gesture

/-! ### Actions -/

/-- What the studio can be asked to do. -/
inductive Action where
  | greet
  | listAutomations
  | create (draft : Draft)
  | fetch (id : String)
  | replace (id : String) (draft : Draft)
  | delete (id : String)
  | inspect (id : String)
  | receive (id : String) (message : Inbound)
  | openPreview (id : String) (audience : Audience)
  | fetchPreview (id : String)
  | gesture (id : String) (g : Gesture)
  | listIntegrations (category : Option String)

/-! ### Addresses -/

/-- A place that a request can be sent to. -/
inductive Endpoint where
  | health
  | automations
  | automation (id : String)
  | findings (id : String)
  | inbound (id : String)
  | previews (id : String)
  | preview (id : String)
  | messages (id : String)
  | buttons (id : String)
  | events (id : String)
  | integrations
  deriving DecidableEq, Repr

/-- The place at the end of a path. -/
def Endpoint.ofPath? : List String → Option Endpoint
  | ["api", "health"] => some .health
  | ["api", "automations"] => some .automations
  | ["api", "automations", id] => some (.automation id)
  | ["api", "automations", id, "validate"] => some (.findings id)
  | ["api", "automations", id, "inbound"] => some (.inbound id)
  | ["api", "automations", id, "preview"] => some (.previews id)
  | ["api", "preview", id] => some (.preview id)
  | ["api", "preview", id, "messages"] => some (.messages id)
  | ["api", "preview", id, "buttons"] => some (.buttons id)
  | ["api", "preview", id, "events"] => some (.events id)
  | ["api", "integrations"] => some .integrations
  | _ => none

/-- What is asked of the studio, as it arrives. -/
structure Request where
  method : String
  path : List String
  query : List (String × String) := []
  /-- The document that is sent along; null if there is none. -/
  body : Value := .null

namespace Request

/-- The steps of a path, where slashes at its end do not count. -/
def pathOf (address : String) : List String :=
  let decoded := (Text.percentDecoded (Text.dotless address)).toList
  let trimmed := (decoded.reverse.dropWhile (· == '/')).reverse
  match (Text.pieces '/' trimmed).map String.ofList with
  | "" :: steps => steps
  | steps => steps

/-- The request for an address, whose query gives way to one that is given on its own. -/
def ofAddress (method address : String) (query : Option (List (String × String))) (body : Value) :
    Request :=
  let (place, ownQuery) := Text.splitAddress (String.ofList (address.toList.takeWhile (· != '#')))
  { method := Text.upper method, path := pathOf place, query := query.getD (Text.queryPairs ownQuery), body }

/-- The last value of a name in the query. -/
def parameter? (r : Request) (name : String) : Option String :=
  (r.query.reverse.find? fun pair => pair.1 == name).map (·.2)

end Request

/-! ### Understanding a request -/

/-- Why a request is not understood. -/
inductive Misunderstanding where
  | unknownPath
  | unknownMethod
  /-- What is sent along cannot be read. -/
  | unreadable (issues : List Issue)
  deriving DecidableEq, Repr

namespace Request

/-- What is sent along with a request, which must be there. -/
def read {α : Type} (r : Request) (reader : Reader α) : Except Misunderstanding α :=
  match ((if r.body.isNull then fail .missing else reader r.body).field "body").toExcept with
  | .ok a => .ok a
  | .error issues => .error (.unreadable issues)

/-- The audience of a preview, which need not be sent along. -/
def readAudience (r : Request) : Except Misunderstanding Audience :=
  if r.body.isNull then .ok {} else r.read Audience.reader

/-- The action that a request asks for. No step of its path may be empty. -/
def action (r : Request) : Except Misunderstanding Action :=
  match (if r.path.contains "" then none else Endpoint.ofPath? r.path) with
  | none => .error .unknownPath
  | some place =>
    match place, r.method with
    | .health, "GET" => .ok .greet
    | .automations, "GET" => .ok .listAutomations
    | .automations, "POST" => .create <$> r.read Draft.reader
    | .automation id, "GET" => .ok (.fetch id)
    | .automation id, "PUT" => .replace id <$> r.read Draft.reader
    | .automation id, "DELETE" => .ok (.delete id)
    | .findings id, "POST" => .ok (.inspect id)
    | .inbound id, "POST" => .receive id <$> r.read Inbound.reader
    | .previews id, "POST" => .openPreview id <$> r.readAudience
    | .preview id, "GET" => .ok (.fetchPreview id)
    | .messages id, "POST" => .gesture id <$> r.read Gesture.sendReader
    | .buttons id, "POST" => .gesture id <$> r.read Gesture.clickReader
    | .events id, "POST" => .gesture id <$> r.read Gesture.fireReader
    | .integrations, "GET" => .ok (.listIntegrations (r.parameter? "category"))
    | _, _ => .error .unknownMethod

end Request

end Parley
