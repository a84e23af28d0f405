import Parley.Reading.Report
import Parley.Run.Perform
import Parley.Service.Live

/-!
# Runs that call the network

A run takes whatever keeps a service from answering for a failure of the service, and only asks for it in words.
Here a service on the network is given to runs: a failure has its message, an answer that cannot be read is told by
the report on its issues, with a manual that says more about them, and a number that cannot be sent by the complaint
of the writer.
-/

namespace Parley

/-- What a peer says, as a document to be read: the fields of the body. -/
def PeerAnswer.document : PeerAnswer → Value
  | .response _ body => .dict body.fields
  | .unreachable _ => .dict []

/-- Why there is no reply, in words, where the peer said what is given. -/
def LiveError.failure (manual : String) (said : Value) : LiveError → ServiceFailure
  | .failed failure => failure
  | .unreadable issues => { message := Report.onIssues manual "AIResponse" "TokenUsage" said issues }
  | .unwritable x =>
    { message := "Out of range float values are not JSON compliant: " ++ Text.display (.float x) }

namespace LiveReplies

/-- What the peer says to a request, if it can be sent. -/
def said (s : LiveReplies) (peer : SentRequest → PeerAnswer) (r : ReplyRequest) : Value :=
  match s.sent r with
  | .ok sent => (peer sent).document
  | .error _ => .dict []

/-- Asks the peer for a reply in the name of a run. -/
def serve (s : LiveReplies) (manual : String) (peer : SentRequest → PeerAnswer) (r : ReplyRequest) (j : Journal) :
    Except ServiceFailure Reply × Journal :=
  let (answer, j) := s.generate peer r j
  (answer.mapError (·.failure manual (s.said peer r)), j)

/-- The services of a run whose replies come from the network. -/
def services (s : LiveReplies) (manual : String) (peer : SentRequest → PeerAnswer) : Services Journal :=
  { reply := some (s.serve manual peer) }

end LiveReplies

end Parley
