import Parley.Graph.Reach

/-!
# What a builder should know

A graph may be whole and still not do what its builder had in mind: nothing starts it, a step is never
reached, a message is empty, a reply is badly configured, a call has no address. A *finding* tells the
builder so. Findings never stop a graph from being stored or run.
-/

namespace Parley

/-- What is wrong with the settings of a reply. -/
inductive ReplyFault where
  | noPrompt
  | temperature
  | tokens
  | hourlyLimit
  | dailyLimit
  deriving DecidableEq, Repr

/-- The fault in words. -/
def ReplyFault.message : ReplyFault → String
  | noPrompt => "System prompt is required"
  | temperature => "Temperature must be between 0 and 1"
  | tokens => "Max tokens must be between 10 and 1000"
  | hourlyLimit => "Hourly rate limit must be at least 1"
  | dailyLimit => "Daily rate limit must be at least 1"

/-- What is wrong with the settings of a reply. -/
def ReplySettings.faults (s : ReplySettings) : List ReplyFault :=
  (if Text.trim s.systemPrompt = "" then [.noPrompt] else []) ++
  (if 0.0 ≤ s.temperature ∧ s.temperature ≤ 1.0 then [] else [.temperature]) ++
  (if 10 ≤ s.maxTokens ∧ s.maxTokens ≤ 1000 then [] else [.tokens]) ++
  (if s.rateLimit.perHour < 1 then [.hourlyLimit] else []) ++
  (if s.rateLimit.perDay < 1 then [.dailyLimit] else [])

/-- What a builder should know about a graph. -/
inductive Finding where
  /-- No message starts the automation. -/
  | noTrigger
  | unreachable (step : String)
  | emptyMessage (step : String)
  | reply (step : String) (fault : ReplyFault)
  | noUrl (step : String)
  deriving DecidableEq, Repr

namespace Finding

/-- The step that the finding is about. -/
def step? : Finding → Option String
  | noTrigger => none
  | unreachable step => some step
  | emptyMessage step => some step
  | reply step _ => some step
  | noUrl step => some step

/-- Whether the finding is an error, and not only a warning. -/
def isError : Finding → Bool
  | noTrigger => true
  | reply _ _ => true
  | _ => false

/-- The word for the weight of the finding. -/
def severity (f : Finding) : String := if f.isError then "error" else "warning"

/-- The finding in words. -/
def message : Finding → String
  | noTrigger => "Automation has no trigger step"
  | unreachable _ => "Step is not reachable from the trigger"
  | emptyMessage _ => "Message text is empty"
  | reply _ fault => fault.message
  | noUrl _ => "No URL configured"

/-- Writes a finding. -/
def write (f : Finding) : Value :=
  .dict [("step_id", .ofText? f.step?), ("severity", .str f.severity), ("message", .str f.message)]

end Finding

/-- The findings about the settings of a step. -/
def Step.findings (s : Step) : List Finding :=
  match s.body with
  | .message m => if Text.trim m.body = "" then [.emptyMessage s.id] else []
  | .reply r => r.faults.map (.reply s.id)
  | .apiCall c => if c.url = "" then [.noUrl s.id] else []
  | .webhook c => if c.url = "" then [.noUrl s.id] else []
  | _ => []

namespace Graph

/-- Whether a step is one that a message may enter at by a keyword. -/
def isEntry (s : Step) : Bool := !s.keywordTokens.isEmpty

/-- The findings about how the graph hangs together: it should have a trigger step or a step with
keywords, and a trigger step should lead to all steps without keywords. -/
def structureFindings (g : Graph) : List Finding :=
  match g.trigger? with
  | none => if g.steps.any isEntry then [] else [.noTrigger]
  | some (trigger, _) =>
    let reached := g.reach trigger.id
    (g.steps.filter fun s => !reached.contains s.id && !isEntry s).map (.unreachable ·.id)

/-- All findings about a graph. -/
def findings (g : Graph) : List Finding :=
  g.structureFindings ++ g.steps.flatMap Step.findings

end Graph

end Parley
