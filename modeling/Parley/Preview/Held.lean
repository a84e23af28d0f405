import Parley.Preview.Session

/-!
# Working on a preview that is held

`Parley.Session.send` and its like make a new preview of an old one, and where they refuse there is no new
preview to speak of. One who holds a preview and works on it where it stands has no old one to go back to.
Every line is there as soon as it is written, work that is refused on its way leaves behind what it has written
by then, and what is handed back is not the preview but the lines that have come to its end meanwhile.

What a user does is told here in that way, as a row of tests and writes on the one preview.
-/

namespace Parley

/-- Work on a preview that is held, beside the world of the services that its runs call. If it is refused, both
stay as they are by then. -/
abbrev OnPreview (σ α : Type) := EStateM PreviewError (Session × σ) α

namespace OnPreview

variable {σ α : Type}

/-! ### Tests and writes -/

/-- The preview as it stands. -/
def preview : OnPreview σ Session := fun held => .ok held.1 held

/-- Goes on with the result of a test. -/
def test (check : Session → Except PreviewError α) : OnPreview σ α := fun held =>
  match check held.1 with
  | .ok a => .ok a held
  | .error e => .error e held

/-- Writes to the preview. -/
def write (f : Session → Session) : OnPreview σ Unit := fun held => .ok () (f held.1, held.2)

/-- Writes to the preview what comes of calling the services. -/
def serve (f : Session → σ → Session × σ) : OnPreview σ Unit := fun held => .ok () (f held.1 held.2)

/-- Does some work, and hands back the lines that have come to the end of the transcript meanwhile. -/
def lines (work : OnPreview σ Unit) : OnPreview σ (List Entry) := do
  let start := (← preview).transcript.length
  work
  return (← preview).transcript.drop start

/-! ### What a user does -/

variable (k : Stage σ) (everyStep : Bool)

/-- Takes a message. -/
def send (text : String) : OnPreview σ (List Entry) := do
  let text ← test fun _ =>
    if Text.trim text = "" then .error .emptyMessage else .ok (Text.trim text)
  lines do
    write fun s => s.append (Session.userLine (k.now s) text [])
    match (← preview).awaiting with
    | some field =>
      write fun s => { s with collected := s.collected.put field text }
      write fun s => { s with awaiting := none }
      write (·.tell k.clock.line ("📝 Saved answer for " ++ field))
    | none => serve fun s w => s.receive k everyStep text w

/-- Presses a button. -/
def click (entry : String) (index : Int) : OnPreview σ (List Entry) := do
  let (e, place, b) ← test (·.button? entry index)
  match b.kind with
  | .automation => lines do
    write fun s => s.append (Session.userLine (k.now s) b.text
      [("button", .int place), ("source_entry", .str entry)])
    match (← preview).target? e place with
    | some target => serve fun s w => s.play k [target] b.text s.knownContext w
    | none => serve fun s w => s.receive k everyStep b.text w
  | _ => return []

/-- Lets an event of an integration happen. -/
def fire (integration event : String) (payload : Fields) : OnPreview σ (List Entry) := do
  let values ← test fun _ =>
    match Integration.eventValues? integration event payload with
    | some values => .ok values
    | none => .error (.unknownEvent integration event)
  lines do
    write fun s => s.append
      { id := "", text := "⚡ " ++ integration ++ " event " ++ event ++ " received", kind := "status",
        metadata := [("event_variables", .ofTextDict values)], time := k.now s }
    let m := (← preview).graph.matchEvent integration event
    if m.triggered then serve fun s w => s.play k m.entries "" (s.knownContext.withValues values) w
    else write (·.tell k.clock.line Session.noEventText)

end OnPreview

end Parley
