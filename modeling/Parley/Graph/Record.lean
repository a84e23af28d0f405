import Parley.Graph.Edit

/-!
# Graphs and records

A record may tell an edge in three places: in its list of connections, in the connections of a step and
in a button. A graph is made from a record by offering it all of these in turn; those that it cannot
take – a step is missing, a button leads elsewhere already – are dropped.

A graph is written into a record as documents, and the record is then read from them: what is stored is
what a reader of the document would make of it.
-/

namespace Parley

open Reading

/-- The edges that a step tells: its connections, then its buttons that lead somewhere. -/
def Step.toldEdges (s : Step) : List Edge :=
  s.connections.map (fun target => { source := s.id, target }) ++
    (s.buttons.zipIdx.filterMap fun (b, index) => match b.connectedTo with
      | some target => if target = "" then none else some { source := s.id, target, button := some index }
      | none => none)

/-- All edges that a record tells. -/
def Record.toldEdges (r : Record) : List Edge :=
  r.connections ++ r.workflow.flatMap Step.toldEdges

namespace Graph

/-- Takes an edge if it fits. -/
def offer (g : Graph) (e : Edge) : Graph :=
  match g.addEdge e.source e.target (e.button.map Int.ofNat) with
  | .ok (grown, _) => grown
  | .error _ => g

/-- The graph of a record. It fails only if two steps have the same id. -/
def ofRecord (r : Record) : Except EditError Graph := do
  let bare ← build (r.workflow.map Reading.ok) []
  pure (r.toldEdges.foldl offer bare)

/-- The steps of the graph as documents, with their connections. -/
def exportSteps (g : Graph) : List Value :=
  g.steps.map fun s => { s with connections := g.connections s.id }.write .compact

/-- The edges of the graph as documents. -/
def exportEdges (g : Graph) : List Value := g.edges.map (Edge.write .compact)

/-- The kind and the settings of the first trigger step, or what the record says of them. -/
def triggerFields (g : Graph) (r : Record) : Fields :=
  match g.trigger? with
  | some (_, t) => [("trigger_type", .str t.rule.typeName), ("trigger_config", t.write .compact)]
  | none => [("trigger_type", .str r.triggerType), ("trigger_config", .dict r.triggerConfig)]

/-- The document of a record with the graph in it, changed at `now`. -/
def recordFields (g : Graph) (r : Record) (now : Moment) : Fields :=
  Dict.merge r.fields <|
    [("workflow", .list g.exportSteps), ("connections", .list g.exportEdges)] ++
      g.triggerFields r ++ [("updated_at", .str now.toText)]

/-- Writes the graph into a record. -/
def toRecord (g : Graph) (r : Record) (now : Moment) : Reading Record :=
  Record.readerWith r.id now (.dict (g.recordFields r now))

end Graph

end Parley
