import Parley.Service.Peer
import Parley.Text.Display

/-!
# Services on the network

The services that runs call, as they are when they are not simulated: each sends a request to a peer and
makes an answer of what comes back. They write the same kind of journal as the simulated ones, if they
keep one at all.

A peer that says that the limit is reached gives an answer, not a failure; so does a peer that refuses. A
peer that cannot be reached is a failure.
-/

namespace Parley

/-- Writes down a call, if a journal is kept. -/
def Journal.logIf (j : Journal) (keeps : Bool) (c : CallEntry) : Journal :=
  if keeps then j.log c else j

/-- Refuses to send a document that holds a number that is not finite. -/
def requireFinite (v : Value) : Except LiveError Unit :=
  match v.infinite? with
  | some x => .error (.unwritable x)
  | none => .ok ()

/-! ### Replies -/

/-- The service on the network that writes replies. -/
structure LiveReplies where
  url : String
  /-- The key by which the peer knows its caller. -/
  apiKey : Option String := none
  keepsJournal : Bool := true

namespace LiveReplies

/-- The headers that are sent. -/
def headers (s : LiveReplies) : Dict String :=
  ("Content-Type", "application/json") ::
    match s.apiKey with
    | some key => if key = "" then [] else [("Authorization", "Bearer " ++ key)]
    | none => []

/-- What is sent for a request. -/
def sent (s : LiveReplies) (r : ReplyRequest) : Except LiveError SentRequest := do
  requireFinite (.dict r.fields)
  let (url, query) := Text.splitAddress s.url
  pure { method := "POST", url, query := Text.queryPairs query, json := .dict r.fields,
         headers := s.headers }

/-- A reading as an answer. -/
def readable {α : Type} (r : Reading α) : Except LiveError α := r.toExcept.mapError .unreadable

/-- The text that a peer sends along when the limit is reached. -/
def limitText (body : PeerBody) : Except LiveError (Option String) :=
  readable (Fields.textOrNull body.fields "response_text")

/-- The answer made of what comes back. -/
def receive (s : LiveReplies) (r : ReplyRequest) (answer : PeerAnswer) (j : Journal) :
    Except LiveError Reply × Journal :=
  let log (status : CallStatus) (error : Option String) (result : Option Fields) : Journal :=
    j.logIf s.keepsJournal (r.entry status error result)
  match answer with
  | .unreachable reason =>
    (.error (.failed ⟨"AI service unreachable: " ++ reason, "unreachable"⟩),
      log .failed (some reason) none)
  | .response status body =>
    if status = 429 then
      ((limitText body).map fun text =>
        { success := false, text, rateLimited := true, error := some "rate limit exceeded" },
        log .rateLimited none none)
    else if 400 ≤ status then
      (.ok { success := false, error := some ("AI service returned HTTP " ++ toString status) },
        log .failed (some ("HTTP " ++ toString status)) none)
    else
      match readable (Reply.reader (.dict body.fields)) with
      | .ok reply => (.ok reply, log .success none (some reply.fields))
      | .error e => (.error e, j)

/-- Asks the peer for a reply. -/
def generate (s : LiveReplies) (peer : SentRequest → PeerAnswer) (r : ReplyRequest) (j : Journal) :
    Except LiveError Reply × Journal :=
  match s.sent r with
  | .error e => (.error e, j)
  | .ok sent => s.receive r (peer sent) j

end LiveReplies

/-! ### Calls -/

/-- The service on the network that makes calls. -/
structure LiveCalls where
  keepsJournal : Bool := true

namespace LiveCalls

/-- A value as it is written in a query. -/
def queryText : Value → String
  | .bool true => "true"
  | .bool false => "false"
  | .null => ""
  | v => Text.display v

/-- The pairs of a query that a field of the body makes: one for each member of a list. -/
def fieldPairs (name : String) : Value → List (String × String)
  | .list items => items.map fun v => (name, queryText v)
  | v => [(name, queryText v)]

/-- Whether a request of this method has a query for a body. -/
def isPlainMethod (method : String) : Bool := method == "GET" || method == "HEAD"

/-- What is sent for a call: a body that is a dictionary takes the place of the query where there is no
place for a body. -/
def sent (r : CallRequest) : Except LiveError SentRequest := do
  let (url, query) := Text.splitAddress r.url
  let method := Text.upper r.method
  if isPlainMethod r.method || r.body.isNull then
    let query := match r.body with
      | .dict fs => fs.flatMap fun entry => fieldPairs entry.1 entry.2
      | _ => Text.queryPairs query
    pure { method, url, query, headers := r.headers }
  else
    requireFinite r.body
    pure { method, url, query := Text.queryPairs query, json := r.body, headers := r.headers }

/-- The answer made of what comes back. -/
def receive (s : LiveCalls) (r : CallRequest) (answer : PeerAnswer) (j : Journal) :
    Except LiveError CallResponse × Journal :=
  match answer with
  | .unreachable reason =>
    (.error (.failed
      ⟨r.method ++ " " ++ r.url ++ " failed: " ++ reason, "unreachable"⟩),
      j.logIf s.keepsJournal (r.entry .failed (some reason) none))
  | .response status body =>
    let response : CallResponse := { status, body := body.toValue }
    (.ok response, j.logIf s.keepsJournal
      (r.entry (if response.ok then .success else .failed) none (some [("status", .int status)])))

/-- Makes a call. -/
def call (s : LiveCalls) (peer : SentRequest → PeerAnswer) (r : CallRequest) (j : Journal) :
    Except LiveError CallResponse × Journal :=
  match sent r with
  | .error e => (.error e, j)
  | .ok sent => s.receive r (peer sent) j

end LiveCalls

end Parley
