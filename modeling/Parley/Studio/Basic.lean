import Parley.Live.Conversations
import Parley.Studio.Answer

/-!
# The studio

The studio holds the stored automations, the previews that are open and the live conversations. Each of its
actions either does all that it is asked to, or nothing: an automation whose steps make no graph is not
stored, and a message in a preview that is refused leaves the preview as it was.

Three things tie its parts together. An open preview belongs to a stored automation and shows it as it is
stored, so that a change of the automation reaches the preview. When an automation is deleted its previews
are closed, and the runs of it that wait are cancelled.
-/

namespace Parley

/-- What the studio holds. -/
structure Studio where
  store : Store := {}
  conversations : Conversations := {}
  /-- The previews that are open, by their ids. -/
  previews : Dict Session := []

/-- What the studio works with. -/
structure Workshop (σ : Type) where
  runner : Runner σ
  transport : Transport σ
  /-- Whether a graph that nothing starts is entered at all of its steps. -/
  everyStep : Bool := false
  /-- No delay is waited for longer than this many seconds in a preview. -/
  longestDelay : Float := 5.0
  /-- The pause before each line of a preview that types. -/
  typingPause : Float := 0.8

/-- What a request finds: the time, and an id that nothing has had so far. -/
structure Occasion where
  now : Moment
  freshId : String

namespace Studio

variable {σ : Type}

/-! ### Automations -/

/-- Whether an automation that cannot be loaded counts as one that is not there. -/
def isAbsence : StoreError → Bool
  | .invalidId _ => true
  | .garbled => true
  | .unreadable issues => !Issue.untaggable? issues
  | .broken _ => false
  | .unordered => false

/-- A stored automation and its graph. -/
def find (s : Studio) (id : String) : Except Trouble (Record × Graph) :=
  match s.store.loadGraph id with
  | .ok (some found) => .ok found
  | .ok none => .error (.refused .noAutomation)
  | .error e => .error (if isAbsence e then .refused .noAutomation else .failed (.store e))

/-- The graph of a draft. -/
def graphOf (d : Draft) : Except Trouble Graph :=
  match Graph.build (d.workflow.map fun fs => Step.reader (.dict fs)) d.connections with
  | .ok g => .ok g
  | .error (.broken e) => .error (.refused (.broken e))
  | .error (.unreadable issues) =>
    .error (if Issue.untaggable? issues then .failed .untaggable else .refused .unreadableStep)

/-- Stores a record with a graph. -/
def save (s : Studio) (r : Record) (g : Graph) (now : Moment) : Except Trouble (Studio × Record) :=
  match s.store.saveGraph r g now with
  | .ok (store, stored) => .ok ({ s with store }, stored)
  | .error e => .error (.failed (.store e))

/-- All automations, the one last changed first. -/
def list (s : Studio) : Except Trouble (List Record) :=
  s.store.list.mapError fun e => .failed (.store e)

/-- Stores a new automation. -/
def create (s : Studio) (d : Draft) (o : Occasion) : Except Trouble (Studio × Record) := do
  let g ← graphOf d
  s.save { id := o.freshId, name := d.name, description := d.description, status := d.status
           createdAt := o.now, updatedAt := o.now } g o.now

/-- The previews with those of an automation showing another graph. -/
def refresh (previews : Dict Session) (automation : String) (g : Graph) : Dict Session :=
  previews.map fun entry =>
    if entry.2.automation == automation then (entry.1, { entry.2 with graph := g }) else entry

/-- Replaces an automation; its open previews go on with the new graph. -/
def replace (s : Studio) (id : String) (d : Draft) (o : Occasion) : Except Trouble (Studio × Record) := do
  let (existing, _) ← s.find id
  let g ← graphOf d
  let (s, stored) ←
    s.save { existing with name := d.name, description := d.description, status := d.status } g o.now
  pure ({ s with previews := refresh s.previews id g }, stored)

/-- Removes an automation with its previews and the runs of it that wait, and tells how many waited. -/
def delete (s : Studio) (id : String) : Except Trouble (Studio × Nat) :=
  match s.store.delete id with
  | .ok (store, true) =>
    let (count, conversations) := s.conversations.cancelAutomation id
    .ok ({ store, conversations, previews := s.previews.filter fun entry => entry.2.automation != id }, count)
  | _ => .error (.refused .noAutomation)

/-! ### Live conversations -/

/-- Receives a message of a live conversation; there is a result if it starts a run. -/
def receive (s : Studio) (k : Workshop σ) (id : String) (m : Inbound) (w : σ) :
    Except Trouble (Option RunResult) × Studio × σ :=
  match s.find id with
  | .error t => (.error t, s, w)
  | .ok (_, g) =>
    let (reception, conversations, w) := s.conversations.inbound k.runner k.transport k.everyStep id g
      m.text { recipient := m.recipient, contact := m.contact } w
    let s := { s with conversations }
    match reception with
    | .ignored => (.ok none, s, w)
    | .answered result => (.ok (some result), s, w)
    | .failed message => (.error (.failed (.delivery message)), s, w)

/-- Lets time pass: runs whose delays are over go on. -/
def advance (s : Studio) (k : Workshop σ) (seconds : Float) (w : σ) : Studio × σ :=
  let (conversations, w) := s.conversations.advance k.runner k.transport seconds w
  ({ s with conversations }, w)

/-! ### Previews -/

/-- An open preview. -/
def preview (s : Studio) (id : String) : Except Trouble Session :=
  match s.previews.get? id with
  | some session => .ok session
  | none => .error (.refused .noPreview)

/-- A new preview of an automation. -/
def newPreview (k : Workshop σ) (automation : String) (g : Graph) (a : Audience) (id : String) : Session :=
  Session.greet
    { graph := g, context := { recipient := a.recipient, contact := a.contact }, automation
      latency := if a.typing then k.typingPause else 0.0
      longestDelay := k.longestDelay, stem := id ++ "." } k.runner.now

/-- Opens a preview of an automation. -/
def openPreview (s : Studio) (k : Workshop σ) (automation : String) (a : Audience) (o : Occasion) :
    Except Trouble (Studio × Session) := do
  let (_, g) ← s.find automation
  let session := newPreview k automation g a o.freshId
  pure ({ s with previews := s.previews.put o.freshId session }, session)

/-- Does in a preview what a user does. -/
def perform (session : Session) (k : Workshop σ) (g : Gesture) (w : σ) :
    Except PreviewError (Session × σ) :=
  match g with
  | .send text => session.send k.runner.stage k.everyStep text w
  | .click entry index => session.click k.runner.stage k.everyStep entry index w
  | .fire integration event payload => session.fire k.runner.stage integration event payload w

/-- Goes on with an open preview; gives the preview as it was and as it is. -/
def gesture (s : Studio) (k : Workshop σ) (id : String) (g : Gesture) (w : σ) :
    Except Trouble ((Session × Session) × Studio × σ) := do
  let before ← s.preview id
  match perform before k g w with
  | .ok (after, w) => pure ((before, after), { s with previews := s.previews.put id after }, w)
  | .error e => .error (.refused (.preview e))

end Studio

end Parley
