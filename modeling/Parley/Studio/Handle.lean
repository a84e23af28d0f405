import Parley.Studio.Basic

/-!
# Handling requests

A request is understood, carried out and answered. A request that is refused leaves the studio as it was;
one whose answer cannot be written has been carried out all the same.
-/

namespace Parley

/-- What the studio says when it is asked whether it is there. -/
def greeting : Value := .dict [("status", .str "ok"), ("service", .str "ChatFlow Backend")]

/-- What is told of a message that a live conversation received. -/
def receptionValue (automation : String) : Option RunResult → Value
  | none => .dict [("triggered", .bool false), ("automation_id", .str automation)]
  | some result => .dict [("triggered", .bool true), ("automation_id", .str automation),
      ("status", .str result.ending.word), ("effects", .list (result.effects.map Effect.write))]

/-- What is told of an automation that was deleted. -/
def deletionValue (automation : String) (cancelled : Nat) : Value :=
  .dict [("status", .str "deleted"), ("automation_id", .str automation),
    ("cancelled_delays", .int cancelled)]

namespace Studio

variable {σ : Type}

/-- Carries out an action, and gives the answer with the status for its success. -/
def act (s : Studio) (k : Workshop σ) (o : Occasion) (a : Action) (w : σ) :
    Except Trouble Answer × Studio × σ :=
  match a with
  | .greet => (.ok ⟨200, greeting⟩, s, w)
  | .listAutomations => (s.list.map fun records => ⟨200, .list (records.map Record.write)⟩, s, w)
  | .create draft =>
    match s.create draft o with
    | .ok (s, r) => (.ok ⟨201, r.write⟩, s, w)
    | .error t => (.error t, s, w)
  | .fetch id => ((s.find id).map fun found => ⟨200, found.1.write⟩, s, w)
  | .replace id draft =>
    match s.replace id draft o with
    | .ok (s, r) => (.ok ⟨200, r.write⟩, s, w)
    | .error t => (.error t, s, w)
  | .delete id =>
    match s.delete id with
    | .ok (s, cancelled) => (.ok ⟨200, deletionValue id cancelled⟩, s, w)
    | .error t => (.error t, s, w)
  | .inspect id => ((s.find id).map fun found => ⟨200, found.2.writeFindings⟩, s, w)
  | .receive id message =>
    let (result, s, w) := s.receive k id message w
    (result.map fun result => ⟨200, receptionValue id result⟩, s, w)
  | .openPreview id audience =>
    match s.openPreview k id audience o with
    | .ok (s, session) => (.ok ⟨201, session.write o.freshId⟩, s, w)
    | .error t => (.error t, s, w)
  | .fetchPreview id => ((s.preview id).map fun session => ⟨200, session.write id⟩, s, w)
  | .gesture id g =>
    match s.gesture k id g w with
    | .ok ((before, after), s, w) => (.ok ⟨200, Session.writeSince before after id⟩, s, w)
    | .error t => (.error t, s, w)
  | .listIntegrations category =>
    (.ok ⟨200, .list ((Integration.inCategory category).map Integration.write)⟩, s, w)

/-- Handles a request. -/
def handle (s : Studio) (k : Workshop σ) (o : Occasion) (r : Request) (w : σ) :
    Except Fault Answer × Studio × σ :=
  match r.action with
  | .error reason => (.ok (Refusal.misunderstood reason).answer, s, w)
  | .ok action =>
    match s.act k o action w with
    | (.ok answer, s, w) => (answer.written, s, w)
    | (.error trouble, s, w) => (trouble.answer, s, w)

end Studio

end Parley
