import Parley.Run.Basic
import Parley.Service.Basic

/-!
# The journal of service calls

What services are asked and what comes of it is written down in a *journal*, in the order in which it
happens. The journal also holds when each recipient got replies, which is what limits further ones,
what was delivered to whom, and how far a script has been read.
-/

namespace Parley

/-- How a call of a service ended. -/
inductive CallStatus where
  | success
  | failed
  | rateLimited
  deriving DecidableEq, Repr

/-- The word for the end of a call. -/
def CallStatus.word : CallStatus → String
  | success => "success"
  | failed => "failed"
  | rateLimited => "rate_limited"

/-- One call of a service. -/
structure CallEntry where
  service : String
  action : String
  parameters : Fields
  result : Option Fields := none
  status : CallStatus := .success
  error : Option String := none

/-- Writes a call. -/
def CallEntry.write (c : CallEntry) : Value :=
  .dict [("service", .str c.service), ("action", .str c.action),
    ("parameters", .dict (Value.finiteFields c.parameters)),
    ("result", match c.result with
      | some fields => .dict (Value.finiteFields fields)
      | none => .null),
    ("status", .str c.status.word), ("error", .ofText? c.error)]

/-- The record of a request for a reply. -/
def ReplyRequest.entry (r : ReplyRequest) (status : CallStatus) (error : Option String) (result : Option Fields) :
    CallEntry :=
  { service := "ai", action := "generate", parameters := r.fields, result, status, error }

/-- The record of a call. -/
def CallRequest.entry (r : CallRequest) (status : CallStatus) (error : Option String) (result : Option Fields) :
    CallEntry :=
  { service := "http", action := r.method, parameters := r.fields, result, status, error }

/-- Something sent to a recipient: an effect of a run. -/
structure Delivery where
  automation : String
  recipient : String
  effect : Effect

namespace Delivery

/-- The text that is sent. -/
def text (d : Delivery) : String := d.effect.text

/-- The fields of a delivery that are written down. -/
def fields (d : Delivery) : Fields :=
  [("automation_id", .str d.automation), ("recipient", .str d.recipient),
    ("kind", .str d.effect.kind.word), ("text", .str d.text), ("step_id", .ofText? d.effect.step)]

/-- Writes a delivery. -/
def write (d : Delivery) : Value := .dict d.fields

end Delivery

/-- What has happened at the services. -/
structure Journal where
  calls : List CallEntry := []
  /-- When replies were given, by recipient and automation. -/
  usage : Dict (List Moment) := []
  delivered : List Delivery := []
  /-- The requests that were answered from a script. -/
  scripted : List ReplyRequest := []

namespace Journal

/-- When replies were given under a key. -/
def granted (j : Journal) (key : String) : List Moment := (j.usage.get? key).getD []

/-- Writes down a call. -/
def log (j : Journal) (c : CallEntry) : Journal := { j with calls := j.calls ++ [c] }

/-- Writes down a delivery. -/
def deliver (j : Journal) (d : Delivery) : Journal :=
  { j.log { service := "transport", action := "deliver", parameters := d.fields } with
    delivered := j.delivered ++ [d] }

end Journal

end Parley
