import Parley.Json.Reader
import Parley.Service.Journal
import Parley.Text.Case
import Parley.Text.Percent

/-!
# Peers on the network

What goes over the network to a peer and what comes back. A peer answers with a status and a body, or
cannot be reached.
-/

namespace Parley

/-- A request as it arrives. -/
structure SentRequest where
  method : String
  /-- The address without its query. -/
  url : String
  query : List (String × String) := []
  /-- The document that is sent along; null if there is none. -/
  json : Value := .null
  headers : Dict String := []

/-- The value of a header, whose name may be written in any case. -/
def SentRequest.header? (r : SentRequest) (name : String) : Option String :=
  match r.headers.filter fun entry => Text.lower entry.1 == Text.lower name with
  | [] => none
  | found => some (Text.joinWith ", " (found.map (·.2)))

/-- What comes back in the body of an answer. -/
inductive PeerBody where
  | document (v : Value)
  | text (s : String)

namespace PeerBody

/-- A text that may be that of a document. -/
def ofText (s : String) : PeerBody :=
  match Json.read? s with
  | some v => document v
  | none => text s

/-- The body as a document. -/
def toValue : PeerBody → Value
  | document v => v
  | text s => .str s

/-- The fields of a body that is a dictionary; any other body has none. -/
def fields : PeerBody → Fields
  | document (.dict fs) => fs
  | _ => []

end PeerBody

/-- What a peer does with a request. -/
inductive PeerAnswer where
  | response (status : Int) (body : PeerBody)
  /-- It could not be reached, or did not answer in time. -/
  | unreachable (reason : String)

/-- Why a service on the network gives no answer. -/
inductive LiveError where
  | failed (failure : ServiceFailure)
  /-- The peer's answer cannot be read. -/
  | unreadable (issues : List Issue)
  /-- A number that is not finite cannot be sent. -/
  | unwritable (x : Float)

namespace Value

mutual

/-- The first number in a document that is not finite. -/
def infinite? : Value → Option Float
  | float x => if x.isFinite then none else some x
  | list items => infiniteItem? items
  | dict fields => infiniteField? fields
  | _ => none

/-- The first such number among the members of a list. -/
def infiniteItem? : List Value → Option Float
  | [] => none
  | v :: rest => (infinite? v).or (infiniteItem? rest)

/-- The first such number among the fields of a dictionary. -/
def infiniteField? : List (String × Value) → Option Float
  | [] => none
  | (_, v) :: rest => (infinite? v).or (infiniteField? rest)

end

end Value

end Parley
