import Parley.Record.Basic

/-!
# Graphs

A *graph* is an automation as it is built and run: steps with ids of their own, in the order in which
they came in, and the edges between them. The edges alone say what leads where. A step in a graph has no
connections of its own, and the button of a message shows the target of the edge that starts at it – a
second account of the same edge, which every change of the graph keeps up with the first.

An edge leaves its source by a *slot*: the plain one, or one of the source's buttons. A run goes on at
the first edge of the plain slot.
-/

namespace Parley

/-- The steps of an automation and the edges between them. -/
structure Graph where
  /-- The steps under their ids. -/
  table : Dict Step := []
  edges : List Edge := []
  /-- Whether the graph is a snapshot, which nothing changes any more. -/
  frozen : Bool := false

namespace Graph

/-! ### Steps -/

/-- The steps, in the order in which they came in. -/
def steps (g : Graph) : List Step := g.table.map (·.2)

/-- The ids of the steps. -/
def ids (g : Graph) : List String := g.table.keys

/-- Whether the graph has a step of this id. -/
def has (g : Graph) (id : String) : Bool := g.table.has id

/-- The step of an id. -/
def step? (g : Graph) (id : String) : Option Step := g.table.get? id

/-- The first trigger step, with its settings. -/
def trigger? (g : Graph) : Option (Step × TriggerSettings) :=
  g.steps.findSome? fun s => s.trigger?.map (s, ·)

/-! ### Edges -/

/-- The edges that leave a step by a slot: `none` is the plain one. -/
def successors (g : Graph) (id : String) (slot : Option Nat) : List Edge :=
  g.edges.filter fun e => e.source == id && e.button == slot

/-- Where a slot leads. -/
def next? (g : Graph) (id : String) (slot : Option Nat) : Option String :=
  (g.successors id slot).head?.map (·.target)

/-- Where the plain edges of a step lead. -/
def connections (g : Graph) (id : String) : List String :=
  (g.successors id none).map (·.target)

/-! ### Snapshots -/

/-- The graph as it stands now, for a single run. -/
def snapshot (g : Graph) : Graph := { g with frozen := true }

end Graph

end Parley
