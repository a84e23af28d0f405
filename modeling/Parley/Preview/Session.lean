import Parley.Preview.Transcript
import Parley.Integration.Catalogue
import Parley.Run.Stretches
import Parley.Trigger.Match

/-!
# Preview sessions

A preview is a chat with an automation that is still being built. Messages, presses of buttons and events
of integrations are matched and run as in a live conversation, and all that comes of them is written down
in a transcript. Delays are waited for at once, but not longer than a cap allows. When a step asks for an
answer, the next message is that answer, and it can be used in later texts.

The pauses that a preview makes are listed, and nobody is kept waiting for them. A clock tells when each step
of a run is executed and when each line is written (`Parley.Clock`); it need not stand still while a preview
is worked on.
-/

namespace Parley

/-- Why an operation on a preview is refused. -/
inductive PreviewError where
  | emptyMessage
  | noEntry (id : String)
  | noButton (entry : String) (index : Int)
  | unknownEvent (integration event : String)
  deriving DecidableEq, Repr

/-- The error in words. -/
def PreviewError.message : PreviewError → String
  | emptyMessage => "Message is empty"
  | noEntry id => "No transcript entry " ++ Text.quoted id
  | noButton entry index => "Entry " ++ Text.quoted entry ++ " has no button " ++ toString index
  | unknownEvent integration event => "Unknown event " ++ integration ++ "/" ++ event

/-- What a clock shows while a preview is worked on. -/
structure Clock where
  /-- The time at each step of a run, by its number; the first one has the number one. -/
  step : Nat → Moment
  /-- The time at which the line at a place of the transcript is written. -/
  line : Nat → Moment

/-- The clock that stands still. -/
def Clock.still (now : Moment) : Clock := { step := fun _ => now, line := fun _ => now }

/-- What a preview needs: services, a clock and a limit for its runs. -/
structure Stage (σ : Type) where
  services : Services σ
  clock : Clock
  /-- How many steps a run may take. -/
  maxSteps : Int := 50

/-- The walker of the runs of a preview. -/
def Stage.walker {σ : Type} (k : Stage σ) : Walker σ := k.services.walker k.clock.step k.maxSteps

/-- The stage on which the clock stands still as it does for a runner. -/
def Runner.stage {σ : Type} (r : Runner σ) : Stage σ :=
  { services := r.services, clock := .still r.now, maxSteps := r.maxSteps }

/-- A preview under way. -/
structure Session where
  graph : Graph
  context : Context := { recipient := "preview_user" }
  automation : String := "preview_automation"
  /-- The pause before each line of the automation. -/
  latency : Float := 0.0
  /-- No delay is waited for longer than this many seconds. -/
  longestDelay : Float := 5.0
  /-- What the ids of entries begin with. -/
  stem : String := ""
  transcript : Transcript := []
  /-- The answers given so far. -/
  collected : Dict String := []
  /-- The field that the next message answers. -/
  awaiting : Option String := none
  /-- What came of the runs so far. -/
  results : List RunResult := []
  /-- The pauses made so far, in seconds. -/
  pauses : List Float := []

/-- The time at which the next line of a preview is written. -/
def Stage.now {σ : Type} (k : Stage σ) (s : Session) : Moment := k.clock.line s.transcript.length

namespace Session

/-! ### Lines -/

/-- The id of an entry by its place. -/
def entryId (s : Session) (place : Nat) : String := s.stem ++ "e" ++ toString place

/-- Adds a line, whose id is given by its place. -/
def append (s : Session) (line : Entry) : Session :=
  { s with transcript := s.transcript ++ [{ line with id := s.entryId s.transcript.length }] }

/-- Makes a pause. -/
def pause (s : Session) (seconds : Float) : Session := { s with pauses := s.pauses ++ [seconds] }

/-- The line of an effect. -/
def lineOf (now : Moment) (e : Effect) : Entry :=
  { id := "", text := e.text, kind := e.kind.word, step := e.step, attachments := e.attachments,
    buttons := e.buttons, metadata := e.metadata, time := now }

/-- Shows an effect, after the pause that comes before each line. -/
def emit (s : Session) (times : Nat → Moment) (e : Effect) : Session :=
  (if 0.0 < s.latency then s.pause s.latency else s).append (lineOf (times s.transcript.length) e)

/-- Shows a notice that no step has given. -/
def tell (s : Session) (times : Nat → Moment) (text : String) : Session :=
  s.emit times { kind := .status, text }

/-! ### Beginning -/

/-- What a preview says first. -/
def welcome : String :=
  "👋 Welcome! This is a live preview of your automation. " ++
    "Type a message to test how your AI assistant will respond."

/-- Begins a preview with a word of welcome. -/
def greet (s : Session) (now : Moment) : Session :=
  s.append { id := "", text := welcome, time := now }

/-! ### Runs -/

/-- What runs of the session know of the recipient. -/
def knownContext (s : Session) : Context := s.context.withValues s.collected

/-- The seconds for which a delay is waited for. -/
def capped (s : Session) (seconds : Float) : Float :=
  if s.longestDelay < seconds then s.longestDelay else seconds

/-- Waits for a delay and says so. -/
def waitOut (s : Session) (times : Nat → Moment) (delay : Suspension) : Session :=
  (s.pause (s.capped delay.seconds)).emit times
    { kind := .status, text := "⏱️ Waited " ++ delay.label, step := some delay.step,
      stepType := some "delay" }

/-- Shows a stretch of a run. -/
def showStretch (s : Session) (times : Nat → Moment) (result : RunResult) : Session :=
  let s := result.effects.foldl (fun s e => s.emit times e) { s with results := s.results ++ [result] }
  let s := match result.awaiting with
    | some field => if field = "" then s else { s with awaiting := some field }
    | none => s
  match result.suspension? with
  | some (delay, _) => s.waitOut times delay
  | none => s

/-- Runs the graph from some entries and shows all of it. -/
def play {σ : Type} (s : Session) (k : Stage σ) (entries : List String) (message : String)
    (context : Context) (w : σ) : Session × σ :=
  let (results, w) := k.walker.executeAll s.graph.snapshot entries message context s.automation w
  (results.foldl (fun s result => s.showStretch k.clock.line result) s, w)

/-- What is said when the trigger step does not take a message. -/
def noTriggerText : String := "🤖 Message did not match trigger conditions."

/-- What is said when there is nothing that could take a message. -/
def noAutomationText : String :=
  "🤖 No automation triggered by your message. " ++
    "Try using different keywords or check your automation configuration."

/-- What is said when the trigger step does not take an event. -/
def noEventText : String := "🤖 Event did not match trigger conditions."

/-- Matches a message and runs what it starts. -/
def receive {σ : Type} (s : Session) (k : Stage σ) (everyStep : Bool) (text : String) (w : σ) :
    Session × σ :=
  let m := s.graph.matchMessage everyStep text
  if m.triggered then s.play k m.entries text s.knownContext w
  else
    let notice := match m.trigger with
      | some id => if id = "" then noAutomationText else noTriggerText
      | none => noAutomationText
    (s.tell k.clock.line notice, w)

/-! ### What a user does -/

/-- A line of the user. -/
def userLine (now : Moment) (text : String) (metadata : Fields) : Entry :=
  { id := "", text, fromUser := true, kind := "inbound", metadata, time := now }

/-- Takes a message: the answer to a question if one is open, and else a message like any other. -/
def send {σ : Type} (s : Session) (k : Stage σ) (everyStep : Bool) (text : String) (w : σ) :
    Except PreviewError (Session × σ) :=
  let text := Text.trim text
  if text = "" then .error .emptyMessage
  else
    let s := s.append (userLine (k.now s) text [])
    match s.awaiting with
    | some field =>
      let s := { s with collected := s.collected.put field text, awaiting := none }
      .ok (s.tell k.clock.line ("📝 Saved answer for " ++ field), w)
    | none => .ok (s.receive k everyStep text w)

/-- Where a button of an entry leads in the graph as it is now. -/
def target? (s : Session) (e : Entry) (index : Nat) : Option String :=
  match e.step with
  | some id => if id != "" && s.graph.has id then s.graph.next? id (some index) else none
  | none => none

/-- The button of an entry. -/
def button? (s : Session) (entry : String) (index : Int) :
    Except PreviewError (Entry × Nat × Button) :=
  match s.transcript.entry? entry with
  | none => .error (.noEntry entry)
  | some e =>
    match (if 0 ≤ index then e.buttons[index.toNat]? else none) with
    | none => .error (.noButton entry index)
    | some b => .ok (e, index.toNat, b)

/-- Presses a button. One that goes on in the automation runs what it leads to, or counts as a message
with its text if it leads nowhere; the others do nothing here. -/
def click {σ : Type} (s : Session) (k : Stage σ) (everyStep : Bool) (entry : String) (index : Int)
    (w : σ) : Except PreviewError (Session × σ) :=
  match s.button? entry index with
  | .error e => .error e
  | .ok (e, index, b) =>
    match b.kind with
    | .automation =>
      let s := s.append (userLine (k.now s) b.text
        [("button", .int index), ("source_entry", .str entry)])
      match s.target? e index with
      | some target => .ok (s.play k [target] b.text s.knownContext w)
      | none => .ok (s.receive k everyStep b.text w)
    | _ => .ok (s, w)

/-- Lets an event of an integration happen. -/
def fire {σ : Type} (s : Session) (k : Stage σ) (integration event : String) (payload : Fields) (w : σ) :
    Except PreviewError (Session × σ) :=
  match Integration.eventValues? integration event payload with
  | none => .error (.unknownEvent integration event)
  | some values =>
    let s := s.append
      { id := "", text := "⚡ " ++ integration ++ " event " ++ event ++ " received", kind := "status",
        metadata := [("event_variables", .ofTextDict values)], time := k.now s }
    let m := s.graph.matchEvent integration event
    if m.triggered then .ok (s.play k m.entries "" (s.knownContext.withValues values) w)
    else .ok (s.tell k.clock.line noEventText, w)

end Session

end Parley
