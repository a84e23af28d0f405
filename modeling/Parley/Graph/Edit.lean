import Parley.Graph.Basic

/-!
# Changing graphs

There are five ways to change a graph: a step is added, replaced or removed, an edge is added or removed.
Each either gives the changed graph together with what came of the change, or an error and no change at
all. They keep a graph whole: edges join different steps that are there, no two edges are alike, an
edge that starts at a button starts at an automation button of a message that is there, at most one does
so, and that button shows where it leads.
-/

namespace Parley

/-! ### What goes wrong -/

/-- Why a graph cannot be changed, or built, as asked. -/
inductive GraphError where
  /-- The graph is a snapshot. -/
  | readOnly
  | stepExists (id : String)
  | stepMissing (id : String)
  | typeChanged (id before after : String)
  | selfLink (id : String)
  | edgeExists (edge : Edge)
  | noButtons (id : String)
  | noButton (id : String) (index : Nat)
  /-- A link or phone button leads to no step. -/
  | buttonLeavesChat (id : String) (index : Nat)
  | buttonTaken (id : String) (index : Nat)

/-- The error in words. -/
def GraphError.message : GraphError → String
  | readOnly => "Graph snapshot is read-only"
  | stepExists id => "Step " ++ Text.quoted id ++ " already exists"
  | stepMissing id => "Step " ++ Text.quoted id ++ " does not exist"
  | typeChanged id before after =>
    "Cannot change type of step " ++ Text.quoted id ++ " from " ++ before ++ " to " ++ after
  | selfLink id => "Step " ++ Text.quoted id ++ " cannot connect to itself"
  | edgeExists edge => "Edge " ++ edge.describe ++ " already exists"
  | noButtons id => "Step " ++ Text.quoted id ++ " has no buttons"
  | noButton id index => "Step " ++ Text.quoted id ++ " has no button " ++ toString index
  | buttonLeavesChat id index =>
    "Button " ++ toString index ++ " of step " ++ Text.quoted id ++ " is not an automation button"
  | buttonTaken id index =>
    "Button " ++ toString index ++ " of step " ++ Text.quoted id ++ " is already connected"

/-- Why a change is refused: the graph would break, or what is to be put into it cannot be read. -/
inductive EditError where
  | broken (error : GraphError)
  | unreadable (issues : List Issue)

namespace Graph

/-- Stops with an error of the graph. -/
def refuse {α : Type} (e : GraphError) : Except EditError α := .error (.broken e)

/-- Goes on only with a graph that is not a snapshot. -/
def requireMutable (g : Graph) : Except EditError Unit :=
  if g.frozen then refuse .readOnly else .ok ()

/-- The step of an id, which must be there. -/
def requireStep (g : Graph) (id : String) : Except EditError Step :=
  match g.step? id with
  | some s => .ok s
  | none => refuse (.stepMissing id)

/-- The value of a reading, or the issues that stand in its way. -/
def requireRead {α : Type} (r : Reading α) : Except EditError α :=
  match r.toExcept with
  | .ok a => .ok a
  | .error issues => .error (.unreadable issues)

/-! ### Buttons -/

/-- Why no edge can start at a button of a step, if so. -/
def buttonFault? (s : Step) (index : Nat) : Option GraphError :=
  if s.isMessage then
    match s.buttons[index]? with
    | none => some (.noButton s.id index)
    | some b => if b.kind = .automation then none else some (.buttonLeavesChat s.id index)
  else some (.noButtons s.id)

/-- The step with a button showing another target. -/
def aimButton (index : Nat) (target : Option String) (s : Step) : Step :=
  s.mapButtons fun buttons => buttons.modify index fun b => { b with connectedTo := target }

/-- The step with each button showing where the edges lead from it. -/
def attached (edges : List Edge) (s : Step) : Step :=
  s.mapButtons fun buttons => buttons.mapIdx fun i b =>
    { b with connectedTo := (edges.find? fun e => e.source == s.id && e.button == some i).map (·.target) }

/-- The graph with one step changed. -/
def mapStep (g : Graph) (id : String) (f : Step → Step) : Graph :=
  { g with table := g.table.modify id f }

/-- The graph with a button showing another target. -/
def aim (g : Graph) (id : String) (slot : Option Nat) (target : Option String) : Graph :=
  match slot with
  | some index => g.mapStep id (aimButton index target)
  | none => g

/-! ### Steps -/

/-- Adds a step at the end. What it says about where it leads does not count: only edges do. -/
def addStep (g : Graph) (step : Reading Step) : Except EditError (Graph × Step) := do
  g.requireMutable
  let s ← requireRead step
  if g.has s.id then refuse (.stepExists s.id)
  else
    let stored := s.detached
    pure ({ g with table := g.table.put s.id stored }, stored)

/-- Whether an edge can stay when its source is replaced by `s`. -/
def survives (s : Step) (e : Edge) : Bool :=
  e.source != s.id || match e.button with
    | some index => (buttonFault? s index).isNone
    | none => true

/-- Replaces a step by one of the same kind, in the same place. The edges that start at a button which
is no longer there, or no longer leads to a step, go. -/
def updateStep (g : Graph) (step : Reading Step) : Except EditError (Graph × Step) := do
  g.requireMutable
  let s ← requireRead step
  let current ← g.requireStep s.id
  if current.typeName ≠ s.typeName then refuse (.typeChanged s.id current.typeName s.typeName)
  else
    let edges := g.edges.filter (survives s)
    let stored := attached edges s.detached
    pure ({ g with table := g.table.put s.id stored, edges }, stored)

/-- The step without buttons that show a target. -/
def forget (target : String) (s : Step) : Step :=
  s.mapButtons (List.map fun b => if b.connectedTo = some target then { b with connectedTo := none } else b)

/-- Removes a step with all edges that touch it. -/
def removeStep (g : Graph) (id : String) : Except EditError Graph := do
  g.requireMutable
  let _ ← g.requireStep id
  pure { g with
    table := (g.table.erase id).mapValues (forget id)
    edges := g.edges.filter fun e => e.source != id && e.target != id }

/-! ### Edges -/

/-- The index of a button as asked for; a negative one is none. -/
def requireSlot : Option Int → Except EditError (Option Nat)
  | none => .ok none
  | some i =>
    if 0 ≤ i then .ok (some i.toNat)
    else .error (.unreadable [(Issue.here .negative).under (.name "from_button")])

/-- Why no edge can be added that leaves a step by a slot, if so. -/
def slotFault? (g : Graph) (source : Step) : Option Nat → Option GraphError
  | none => none
  | some index =>
    match buttonFault? source index with
    | some fault => some fault
    | none =>
      if (g.successors source.id (some index)).isEmpty then none
      else some (.buttonTaken source.id index)

/-- Adds an edge at the end. -/
def addEdge (g : Graph) (source target : String) (button : Option Int) :
    Except EditError (Graph × Edge) := do
  g.requireMutable
  let step ← g.requireStep source
  let _ ← g.requireStep target
  if source = target then refuse (.selfLink source)
  else
    let slot ← requireSlot button
    let edge : Edge := { source, target, button := slot }
    if g.edges.any edge.sameLink then refuse (.edgeExists edge)
    else match g.slotFault? step slot with
      | some fault => refuse fault
      | none => pure ({ g.aim source slot (some target) with edges := g.edges ++ [edge] }, edge)

/-- Whether the edge is the one asked for. -/
def isLink (source target : String) (button : Option Int) (e : Edge) : Bool :=
  e.source == source && e.target == target && e.button.map Int.ofNat == button

/-- Removes an edge, and tells whether it was there. -/
def removeEdge (g : Graph) (source target : String) (button : Option Int) :
    Except EditError (Graph × Bool) := do
  g.requireMutable
  match g.edges.find? (isLink source target button) with
  | some e =>
    pure ({ g.aim source e.button none with
      edges := g.edges.eraseP (isLink source target button) }, true)
  | none => pure (g, false)

/-! ### Building -/

/-- The graph of some steps and edges, added one after the other. -/
def build (steps : List (Reading Step)) (edges : List Edge) : Except EditError Graph := do
  let bare ← steps.foldlM (fun g s => (·.1) <$> addStep g s) {}
  edges.foldlM (fun g e => (·.1) <$> addEdge g e.source e.target (e.button.map Int.ofNat)) bare

end Graph

/-! ### Changes as data -/

/-- A change of a graph. -/
inductive Edit where
  | addStep (step : Reading Step)
  | updateStep (step : Reading Step)
  | removeStep (id : String)
  | addEdge (source target : String) (button : Option Int)
  | removeEdge (source target : String) (button : Option Int)

/-- What comes of a change. -/
inductive EditOutcome where
  | step (s : Step)
  | edge (e : Edge)
  | removed (found : Bool)
  | done

/-- Makes a change. -/
def Graph.edit (g : Graph) : Edit → Except EditError (Graph × EditOutcome)
  | .addStep s => (fun r => (r.1, .step r.2)) <$> g.addStep s
  | .updateStep s => (fun r => (r.1, .step r.2)) <$> g.updateStep s
  | .removeStep id => (fun g => (g, .done)) <$> g.removeStep id
  | .addEdge source target button => (fun r => (r.1, .edge r.2)) <$> g.addEdge source target button
  | .removeEdge source target button =>
    (fun r => (r.1, .removed r.2)) <$> g.removeEdge source target button

/-- The graph after some changes, of which those that fail are passed over. -/
def Graph.edits (g : Graph) (changes : List Edit) : Graph :=
  changes.foldl (fun g change => match g.edit change with
    | .ok (changed, _) => changed
    | .error _ => g) g

end Parley
