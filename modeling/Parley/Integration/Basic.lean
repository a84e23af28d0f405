import Parley.Value
import Parley.Text.Display

/-!
# Integrations

An *integration* is another service that reports *events*. An event carries a payload, of which the
event declares some fields as *variables*; when it starts a run, their values can be used in texts.
-/

namespace Parley

/-- A field of an event's payload. -/
structure EventVariable where
  name : String
  description : String
  sample : String
  type : String := "string"

/-- An event that an integration reports. -/
structure IntegrationEvent where
  id : String
  name : String
  description : String
  /-- What the integration calls the event. -/
  eventType : String
  triggerDescription : String
  /-- The fields of the payload that are variables. -/
  declared : List EventVariable

/-- A service that reports events. -/
structure Integration where
  id : String
  name : String
  description : String
  category : String
  /-- Where the events are reported to. -/
  address : String
  authRequired : Bool := true
  events : List IntegrationEvent

/-- Writes a variable. -/
def EventVariable.write (v : EventVariable) : Value :=
  .dict [("name", .str v.name), ("description", .str v.description), ("type", .str v.type),
    ("example", .str v.sample)]

/-- Writes an event. -/
def IntegrationEvent.write (e : IntegrationEvent) : Value :=
  .dict [("id", .str e.id), ("name", .str e.name), ("description", .str e.description),
    ("event_type", .str e.eventType), ("trigger_description", .str e.triggerDescription),
    ("variables", .list (e.declared.map EventVariable.write))]

namespace Integration

/-- Writes an integration. -/
def write (i : Integration) : Value :=
  .dict [("id", .str i.id), ("name", .str i.name), ("description", .str i.description),
    ("category", .str i.category), ("webhook_url_pattern", .str i.address),
    ("auth_required", .bool i.authRequired), ("webhooks", .list (i.events.map IntegrationEvent.write))]

/-- The event of an id. -/
def event? (i : Integration) (id : String) : Option IntegrationEvent :=
  i.events.find? fun e => e.id == id

end Integration

/-- The text of a payload's field, unless the field is null or empty. -/
def Fields.filled? (payload : Fields) (name : String) : Option String :=
  match payload.get? name with
  | none => none
  | some .null => none
  | some v =>
    let text := Text.display v
    if text = "" then none else some text

/-- The values of an event's variables in a payload. Other fields of the payload are left out, and so are
variables without a value. -/
def IntegrationEvent.valuesIn (e : IntegrationEvent) (payload : Fields) : Dict String :=
  .ofPairs (e.declared.filterMap fun v => (payload.filled? v.name).map (v.name, ·))

end Parley
