import Parley.Graph.Basic
import Parley.Substitution.Context

/-!
# Runs

A *run* walks through a graph for one message. What it does for the recipient comes out as *effects*:
messages, and status notices that only a builder sees. A run may be *suspended* at a delay; its state is
then all that is needed to go on with it later.
-/

namespace Parley

/-! ### Effects -/

/-- Whether an effect is sent to the recipient as a message or is a notice. -/
inductive EffectKind where
  | message
  | status
  deriving DecidableEq, Repr

/-- The word for a kind of effect. -/
def EffectKind.word : EffectKind → String
  | message => "message"
  | status => "status"

/-- One thing that a run does. -/
structure Effect where
  kind : EffectKind
  text : String
  /-- The step that did it. -/
  step : Option String := none
  stepType : Option String := none
  attachments : List Attachment := []
  buttons : List Button := []
  metadata : Fields := []

namespace Effect

/-- A notice of a step. -/
def notice (s : Step) (text : String) (metadata : Fields) : Effect :=
  { kind := .status, text, step := some s.id, stepType := some s.typeName, metadata }

/-- A message of a step. -/
def message (s : Step) (text : String) (metadata : Fields) : Effect :=
  { kind := .message, text, step := some s.id, stepType := some s.typeName, metadata }

/-- Writes an effect. -/
def write (e : Effect) : Value :=
  .dict [("kind", .str e.kind.word), ("text", .str e.text), ("step_id", .ofText? e.step),
    ("step_type", .ofText? e.stepType), ("attachments", .list (e.attachments.map (Attachment.write .full))),
    ("buttons", .list (e.buttons.map (Button.write .full))),
    ("metadata", .dict (Value.finiteFields e.metadata))]

end Effect

/-! ### Suspended runs -/

/-- Where and for how long a run waits. -/
structure Suspension where
  step : String
  /-- The step at which the run goes on; none if it goes on at the next entry. -/
  resumeStep : Option String
  seconds : Float
  /-- The delay in words. -/
  label : String

/-- Writes a suspension. -/
def Suspension.write (s : Suspension) : Value :=
  .dict [("step_id", .str s.step), ("resume_step_id", .ofText? s.resumeStep),
    ("seconds", .float s.seconds), ("label", .str s.label)]

/-- The state of a run between two steps. -/
structure RunState where
  automation : String
  message : String
  context : Context
  /-- The step to come; none at the end of the walk from an entry. -/
  current : Option String := none
  /-- The entries still to come. -/
  pending : List String := []
  /-- The steps passed since the last entry. -/
  visited : List String := []
  /-- How many steps were executed so far. -/
  executed : Nat := 0
  /-- The field that the next message answers. -/
  awaiting : Option String := none

/-- Writes the state of a run. -/
def RunState.write (s : RunState) : Value :=
  .dict [("automation_id", .str s.automation), ("message", .str s.message), ("context", s.context.write),
    ("current", .ofText? s.current), ("pending", .ofTexts s.pending), ("visited", .ofTexts s.visited),
    ("steps_executed", .int s.executed), ("awaiting_field", .ofText? s.awaiting)]

/-! ### How a run ends -/

/-- Why a run stops before its end. -/
inductive RunFault where
  /-- The graph has no such step. -/
  | missingStep (id : String)
  /-- The run came to a step for the second time. -/
  | loop (id : String)
  /-- The run would take more steps than it may. -/
  | tooLong (limit : Int)
  deriving DecidableEq, Repr

namespace RunFault

/-- The fault in words. -/
def message : RunFault → String
  | missingStep id => "Step " ++ Text.quoted id ++ " referenced by the graph does not exist"
  | loop id => "Automation loop detected at step " ++ Text.quoted id
  | tooLong limit => "Automation loop detected: more than " ++ toString limit ++ " steps in one run"

/-- The notice of a fault. -/
def effect (f : RunFault) : Effect :=
  match f with
  | missingStep _ =>
    { kind := .status, text := "⚠️ " ++ f.message, metadata := [("failed", .bool true)] }
  | _ => { kind := .status, text := "🔁 " ++ f.message, metadata := [("aborted", .bool true)] }

end RunFault

/-- How a run, or a stretch of it, ends. -/
inductive Ending where
  | completed
  | suspended (pause : Suspension) (state : RunState)
  | stopped (fault : RunFault)

/-- The word for an ending. -/
def Ending.word : Ending → String
  | completed => "completed"
  | suspended _ _ => "suspended"
  | stopped (.missingStep _) => "failed"
  | stopped _ => "aborted"

/-- What comes of a run, or of a stretch of it. -/
structure RunResult where
  effects : List Effect
  ending : Ending
  /-- The field that the next message answers. -/
  awaiting : Option String := none

namespace RunResult

/-- Where the run waits, if it does. -/
def suspension? (r : RunResult) : Option (Suspension × RunState) :=
  match r.ending with
  | .suspended s state => some (s, state)
  | _ => none

/-- Why the run stopped, if it did. -/
def fault? (r : RunResult) : Option RunFault :=
  match r.ending with
  | .stopped fault => some fault
  | _ => none

/-- Writes the result of a run. -/
def write (r : RunResult) : Value :=
  .dict [("status", .str r.ending.word), ("effects", .list (r.effects.map Effect.write)),
    ("suspension", match r.suspension? with
      | some (s, _) => s.write
      | none => .null),
    ("awaiting_field", .ofText? r.awaiting), ("error", .ofText? (r.fault?.map (·.message))),
    ("state", match r.suspension? with
      | some (_, state) => state.write
      | none => .null)]

end RunResult

end Parley
