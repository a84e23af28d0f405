import Parley.Configuration
import Parley.Service.Live
import Parley.Service.Simulated

/-!
# The services in use

The configuration decides which services a program uses. Replies always come from somewhere: from the
network where that is asked for and configured, and from the simulation otherwise. Calls are only made
where they are enabled; without a service for them they are just acknowledged.
-/

namespace Parley

/-- The kinds of services on the network. -/
inductive LiveService where
  | replies (service : LiveReplies)
  | calls (service : LiveCalls)

/-- The service on the network that a name stands for, if it is configured. -/
def Configuration.live? (c : Configuration) : String → Option LiveService
  | "ai" =>
    match c.replyUrl with
    | some url => if url = "" then none else some (.replies { url, apiKey := c.replyKey })
    | none => none
  | "http" => if c.callsEnabled then some (.calls {}) else none
  | _ => none

/-- The services in use. -/
structure ServiceLayer where
  /-- The service on the network that writes replies; without it they are simulated. -/
  replies : Option LiveReplies := none
  calls : Option LiveCalls := none
  /-- Whether connections to the network are kept. -/
  connected : Bool := false
  /-- What the operator should know. -/
  warnings : List String := []

namespace ServiceLayer

/-- The warning that replies are simulated. -/
def simulatedReplies : String :=
  "connector_mode=real but AI service is not configured; using simulator"

/-- The warning that no calls are made. -/
def noCalls : String := "connector_mode=real but outbound HTTP calls are disabled"

/-- The services that a configuration asks for. -/
def ofConfiguration (c : Configuration) : ServiceLayer :=
  match c.mode with
  | .simulator => {}
  | mode =>
    let replies := match c.live? "ai" with
      | some (.replies s) => some s
      | _ => none
    let calls := match c.live? "http" with
      | some (.calls s) => some s
      | _ => none
    let warn (missing : Bool) (text : String) : List String :=
      if mode = .real && missing then [text] else []
    { replies, calls, connected := true
      warnings := warn replies.isNone simulatedReplies ++ warn calls.isNone noCalls }

end ServiceLayer

end Parley
