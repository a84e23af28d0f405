import Parley.Graph.Lint
import Parley.Store
import Parley.Preview.Session
import Parley.Reading.Report
import Parley.Service.Peer
import Parley.Studio.Request

/-!
# Answers of the studio

What a request gets is an answer: a status and a document. A request that is refused gets an answer too,
which says why. Only when something goes wrong inside the studio is there no answer at all.
-/

namespace Parley

/-- What a request gets. -/
structure Answer where
  status : Nat
  body : Value

/-- Why a request is refused. -/
inductive Refusal where
  | misunderstood (reason : Misunderstanding)
  | noAutomation
  | noPreview
  /-- The steps and edges of a draft make no graph. -/
  | broken (error : GraphError)
  /-- A step of a draft cannot be read. -/
  | unreadableStep
  | preview (error : PreviewError)

namespace Refusal

/-- What the answer says. -/
def detail : Refusal → Value
  | misunderstood .unknownPath => .str "Not Found"
  | misunderstood .unknownMethod => .str "Method Not Allowed"
  | misunderstood (.unreadable issues) => .list (issues.map Issue.write)
  | noAutomation => .str "Automation not found"
  | noPreview => .str "Preview session not found"
  | broken error => .str error.message
  | unreadableStep => .str "<validation error>"
  | preview error => .str error.message

/-- The status of the answer. -/
def status : Refusal → Nat
  | misunderstood .unknownPath => 404
  | misunderstood .unknownMethod => 405
  | noAutomation => 404
  | noPreview => 404
  | _ => 422

/-- The answer to a request that is refused. -/
def answer (r : Refusal) : Answer := ⟨r.status, .dict [("detail", r.detail)]⟩

end Refusal

/-- What can go wrong inside the studio. -/
inductive Fault where
  /-- A draft holds a step of no kind at all. -/
  | untaggable
  | store (error : StoreError)
  | delivery (message : String)
  /-- An answer would hold a number that is not finite. -/
  | unwritable (x : Float)

/-- Why an action does not give what it should. -/
inductive Trouble where
  | refused (reason : Refusal)
  | failed (fault : Fault)

/-- The answer to a request that does not get what it asks for, if there is one. -/
def Trouble.answer : Trouble → Except Fault Answer
  | refused reason => .ok reason.answer
  | failed fault => .error fault

/-- An answer, if it can be written. -/
def Answer.written (a : Answer) : Except Fault Answer :=
  match a.body.infinite? with
  | none => .ok a
  | some x => .error (.unwritable x)

/-! ### What answers show -/

/-- Writes a preview with its whole transcript. -/
def Session.write (s : Session) (id : String) : Value :=
  .dict [("id", .str id), ("automation_id", .str s.automation),
    ("awaiting_field", .ofText? s.awaiting), ("collected", .ofTextDict s.collected),
    ("transcript", s.transcript.write)]

/-- Writes what was added to a preview. -/
def Session.writeSince (before after : Session) (id : String) : Value :=
  .dict [("session_id", .str id),
    ("entries", .list ((after.transcript.drop before.transcript.length).map Entry.write)),
    ("awaiting_field", .ofText? after.awaiting)]

/-- Writes the findings about a graph. -/
def Graph.writeFindings (g : Graph) : Value :=
  .dict [("valid", .bool (!g.findings.any Finding.isError)),
    ("issues", .list (g.findings.map Finding.write))]

end Parley
