import Parley.Graph.Edit

/-!
# Changing a graph in place

`Parley.Graph.edit` makes a new graph of an old one, and where it fails there is no new graph to speak of. One
who holds a graph and changes it where it stands works differently. A change is then a row of tests and writes
on the one graph, every write is there for all to see as soon as it is made, and a change that stops on its way
leaves behind what it has written by then.

The five changes are told here in that way: entry by entry in the table of steps, edge by edge in the list of
edges and button by button in the messages. They stop at a test that fails (`Parley.Stop.refused`), and they
would also stop at a write that does not find its place (`Parley.Stop.astray`): a step that is to go and is not
there, an edge that is to go and is not there, a button that is to show an edge and is not there.
-/

namespace Parley

/-- Why a change in place stops. -/
inductive Stop where
  /-- The change is refused. -/
  | refused (why : EditError)
  /-- What is to be written to is not there. -/
  | astray

/-- Work on a graph that is held. If it stops, the graph stays as it is by then. -/
abbrev InPlace (α : Type) := EStateM Stop Graph α

namespace InPlace

/-! ### Tests and writes -/

/-- Goes on with the result of a test. -/
def test {α : Type} (check : Graph → Except EditError α) : InPlace α := fun g =>
  match check g with
  | .ok a => .ok a g
  | .error why => .error (.refused why) g

/-- The step of an id as it stands. -/
def standing (id : String) : InPlace Step := fun g =>
  match g.step? id with
  | some s => .ok s g
  | none => .error .astray g

/-- Puts a step into the table: in the place of the one that has its id, or else at the end. -/
def putStep (s : Step) : InPlace Unit := modify fun g => { g with table := g.table.put s.id s }

/-- Takes a step out of the table. -/
def dropStep (id : String) : InPlace Unit := fun g =>
  if g.has id then .ok () { g with table := g.table.erase id } else .error .astray g

/-- Puts an edge at the end of the list. -/
def putEdge (e : Edge) : InPlace Unit := modify fun g => { g with edges := g.edges ++ [e] }

/-- Takes the first edge that is equal to the given one out of the list. -/
def dropEdge (e : Edge) : InPlace Unit := fun g =>
  if e ∈ g.edges then .ok () { g with edges := g.edges.erase e } else .error .astray g

/-- Has a button show a target. -/
def setButton (id : String) (index : Nat) (target : Option String) : InPlace Unit := fun g =>
  match g.step? id with
  | some s =>
    if index < s.buttons.length then .ok () (g.mapStep id (Graph.aimButton index target))
    else .error .astray g
  | none => .error .astray g

/-- Has the button of a slot show a target, if the slot is that of a button and the button is there. -/
def aim (id : String) (slot : Option Nat) (target : Option String) : InPlace Unit :=
  modify (·.aim id slot target)

/-! ### Steps -/

/-- Adds a step at the end, without its word on where it leads. -/
def addStep (step : Reading Step) : InPlace Step := do
  test Graph.requireMutable
  let s ← test fun _ => Graph.requireRead step
  test fun g => if g.has s.id then Graph.refuse (.stepExists s.id) else .ok ()
  putStep s.detached
  return s.detached

/-- Sees to an edge that starts at a button of a step just replaced by `s`: it goes if no edge can start
there any more, and else the button shows it. -/
def reattach (s : Step) (e : Edge) : InPlace Unit :=
  match e.button with
  | none => pure ()
  | some index =>
    if (Graph.buttonFault? s index).isSome then dropEdge e else setButton s.id index (some e.target)

/-- Replaces a step, clears its buttons, and then sees to the edges that start at its buttons, one after the
other. -/
def updateStep (step : Reading Step) : InPlace Step := do
  test Graph.requireMutable
  let s ← test fun _ => Graph.requireRead step
  let current ← test (·.requireStep s.id)
  test fun _ =>
    if current.typeName ≠ s.typeName then Graph.refuse (.typeChanged s.id current.typeName s.typeName)
    else .ok ()
  putStep { s with connections := [] }
  modify (·.mapStep s.id Step.detached)
  let edges := (← get).edges.filter fun e => e.source == s.id && e.button.isSome
  edges.forM (reattach s)
  standing s.id

/-- Clears the button at which an edge starts, if the edge comes from another step and leads to this one. -/
def clearFor (id : String) (e : Edge) : InPlace Unit :=
  if e.source != id && e.target == id then aim e.source e.button none else pure ()

/-- Takes a step out, clears the buttons whose edges led to it, takes out the edges that touch it, and clears
whatever button still shows it. -/
def removeStep (id : String) : InPlace Unit := do
  test Graph.requireMutable
  let _ ← test (·.requireStep id)
  dropStep id
  (← get).edges.forM (clearFor id)
  modify fun g => { g with edges := g.edges.filter fun e => e.source != id && e.target != id }
  modify fun g => { g with table := g.table.mapValues (Graph.forget id) }

/-! ### Edges -/

/-- Adds an edge at the end, which its button shows from then on. -/
def addEdge (source target : String) (button : Option Int) : InPlace Edge := do
  test Graph.requireMutable
  let s ← test (·.requireStep source)
  let _ ← test (·.requireStep target)
  test fun _ => if source = target then Graph.refuse (.selfLink source) else .ok ()
  let slot ← test fun _ => Graph.requireSlot button
  let edge : Edge := { source, target, button := slot }
  test fun g => if g.edges.any edge.sameLink then Graph.refuse (.edgeExists edge) else .ok ()
  test fun g => match g.slotFault? s slot with
    | some fault => Graph.refuse fault
    | none => .ok ()
  aim source slot (some target)
  putEdge edge
  return edge

/-- Takes an edge out, if it is there, and clears its button. -/
def removeEdge (source target : String) (button : Option Int) : InPlace Bool := do
  test Graph.requireMutable
  match (← get).edges.find? (Graph.isLink source target button) with
  | some e =>
    dropEdge e
    aim source e.button none
    return true
  | none => return false

end InPlace

/-- Makes a change in place. -/
def Edit.inPlace : Edit → InPlace EditOutcome
  | .addStep step => .step <$> InPlace.addStep step
  | .updateStep step => .step <$> InPlace.updateStep step
  | .removeStep id => (fun _ => .done) <$> InPlace.removeStep id
  | .addEdge source target button => .edge <$> InPlace.addEdge source target button
  | .removeEdge source target button => .removed <$> InPlace.removeEdge source target button

/-! ### What becomes of a graph that is held -/

/-- What one does with a graph that is held. -/
inductive Handling where
  /-- It is changed in place. -/
  | change (change : Edit)
  /-- One goes on with a snapshot of it. -/
  | snapshot

namespace Graph

/-- What is held after a change in place, also after one that stopped. -/
def after (g : Graph) (change : Edit) : Graph :=
  match change.inPlace g with
  | .ok _ left => left
  | .error _ left => left

/-- What is held in the end. -/
def handled (g : Graph) (history : List Handling) : Graph :=
  history.foldl (fun g handling => match handling with
    | .change change => g.after change
    | .snapshot => g.snapshot) g

end Graph

end Parley
