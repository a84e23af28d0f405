import Parley.Graph.Basic

/-!
# Which messages start a run

A message or an event of an integration is matched against a graph. A *match* tells whether a run starts
and at which steps it enters the graph.

Steps with keywords of their own go first: if a graph has any, a message starts a run exactly if it holds
one of these keywords, and the run enters at each step whose keyword it holds. Otherwise the first
trigger step decides. A graph with neither starts a run only if that is asked for, and then at all of
its steps. Everything is compared in lower case, and a run that enters at a trigger step enters after it.
-/

namespace Parley

/-- Why a message or an event does or does not start a run. -/
inductive MatchReason where
  /-- It holds keywords of steps. -/
  | keywords
  /-- It fits the trigger step. -/
  | trigger
  /-- The graph has no trigger step, and all of its steps were entered. -/
  | everyStep
  /-- It is the event of the trigger step. -/
  | event
  | noMatch
  deriving DecidableEq, Repr

/-- The word for a reason. -/
def MatchReason.word : MatchReason → String
  | keywords => "keywords"
  | trigger => "trigger"
  | everyStep => "legacy_fallback"
  | event => "event"
  | noMatch => "no_match"

/-- Whether a run starts, and where. -/
structure Match where
  triggered : Bool
  /-- The ids of the steps at which the run enters, one after the other. -/
  entries : List String := []
  /-- The trigger step that had a say. -/
  trigger : Option String := none
  reason : MatchReason
  deriving DecidableEq, Repr

namespace Match

/-- No run starts. -/
def none (trigger : Option String) : Match := { triggered := false, trigger, reason := .noMatch }

/-- Writes a match. -/
def write (m : Match) : Value :=
  .dict [("triggered", .bool m.triggered), ("entry_step_ids", .ofTexts m.entries),
    ("trigger_step_id", .ofText? m.trigger), ("reason", .str m.reason.word)]

end Match

/-- Whether a message in lower case fits the rule of a trigger: it holds one of the keywords, or it is the
text. A rule without keywords fits every message, and so do rules that messages have nothing to do with. -/
def TriggerRule.fits (text : String) : TriggerRule → Bool
  | .keyword keywords =>
    let wanted := (keywords.map Text.trim).filter (· != "") |>.map Text.lower
    wanted.isEmpty || wanted.any fun k => Text.contains text k
  | .exactMatch wanted => Text.trim text == Text.lower (Text.trim wanted)
  | .schedule _ => true
  | .webhook => true
  | .integration .. => true

/-- Whether an event fits the rule of a trigger: a webhook takes every event. -/
def TriggerRule.fitsEvent (integration event : String) : TriggerRule → Bool
  | .integration name wanted _ => name == integration && wanted == event
  | .webhook => true
  | _ => false

namespace Graph

/-- Where a run enters at a trigger step: at the step that follows it, or at the first step that is no
trigger. -/
def entriesAfter (g : Graph) (trigger : String) : List String :=
  match g.next? trigger none with
  | some id => [id]
  | none => ((g.steps.find? fun s => !s.isTrigger).map (·.id)).toList

/-- Where a run enters at a step whose keyword the message holds. -/
def entriesAt (g : Graph) (s : Step) : List String :=
  if s.isTrigger then g.entriesAfter s.id else [s.id]

/-- Whether a message in lower case holds a keyword of the step. -/
def calledBy (text : String) (s : Step) : Bool :=
  s.keywordTokens.any fun k => Text.contains text k

/-- The id of the first trigger step. -/
def triggerId? (g : Graph) : Option String := g.trigger?.map (·.1.id)

/-- The match of a message in lower case with the trigger step. -/
def matchTrigger (g : Graph) (everyStep : Bool) (text : String) : Match :=
  match g.trigger? with
  | some (step, t) =>
    if t.rule.fits text then
      { triggered := true, entries := g.entriesAfter step.id, trigger := some step.id, reason := .trigger }
    else .none (some step.id)
  | none =>
    let entries := (g.steps.filter fun s => !s.isTrigger).map (·.id)
    if everyStep && !entries.isEmpty then { triggered := true, entries, reason := .everyStep }
    else .none none

/-- The match of a message. `everyStep` says what becomes of a graph that nothing starts. -/
def matchMessage (g : Graph) (everyStep : Bool) (message : String) : Match :=
  let text := Text.lower message
  if g.steps.any fun s => !s.keywordTokens.isEmpty then
    match g.steps.filter (calledBy text) with
    | [] => .none none
    | called =>
      { triggered := true
        entries := Text.distinct (called.flatMap g.entriesAt)
        trigger := g.triggerId?
        reason := .keywords }
  else g.matchTrigger everyStep text

/-- The match of an event. -/
def matchEvent (g : Graph) (integration event : String) : Match :=
  match g.trigger? with
  | some (step, t) =>
    if t.rule.fitsEvent integration event then
      { triggered := true, entries := g.entriesAfter step.id, trigger := some step.id, reason := .event }
    else .none (some step.id)
  | none => .none none

end Graph

end Parley
