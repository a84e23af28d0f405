import Parley.Moment
import Parley.Text.Quoted
import Parley.Step.Reader
import Parley.Step.Writer

/-!
# Edges and records

An *edge* leads from one step to another; it may start at a button of its source. A *record* is an
automation as it is stored and exchanged: its steps and edges together with a name, a status and the
times of its making and last change.

In documents the two ends of an edge are `from` and `to` and its button is `fromButton`; the words
`source`, `target` and `from_button` are understood too.
-/

namespace Parley

open Reading

/-! ### Edges -/

/-- A directed link between two steps. -/
structure Edge where
  source : String
  target : String
  /-- The index of the button of the source that the edge starts at. -/
  button : Option Nat := none
  label : Option String := none
  deriving DecidableEq, Repr

namespace Edge

/-- Whether two edges join the same ends at the same button. -/
def sameLink (a b : Edge) : Bool :=
  a.source == b.source && a.target == b.target && a.button == b.button

/-- The ends and the button as a message names them. -/
def describe (e : Edge) : String :=
  "(" ++ Text.quoted e.source ++ ", " ++ Text.quoted e.target ++ ", " ++
    (match e.button with
      | some i => toString i
      | none => "None") ++ ")"

/-- An index that is not negative. -/
def indexReader : Reader Nat := fun v =>
  (Reader.whole v).andThen fun n => if 0 ≤ n then ok n.toNat else fail .negative

/-- The value of a field that goes by two names, the first of which is preferred; issues are placed
under the first name when that is the one that is there, or when neither is. -/
def aliased (fs : Fields) (name other : String) : Option (String × Value) :=
  match fs.get? name with
  | some v => some (name, v)
  | none => (fs.get? other).map (other, ·)

/-- An end of an edge, which must be there. -/
def readEnd (fs : Fields) (name other : String) : Reading String :=
  match aliased fs name other with
  | some (key, v) => field key (Reader.text v)
  | none => field name (fail .missing)

/-- The button of an edge. -/
def readButton (fs : Fields) : Reading (Option Nat) :=
  match aliased fs "fromButton" "from_button" with
  | some (key, v) => field key (Reader.orNull indexReader v)
  | none => ok none

/-- Reads an edge; what is not a dictionary is the issue given. -/
def readerAs (otherwise : IssueKind) : Reader Edge :=
  Reader.record otherwise fun fs =>
    Edge.mk
      <$> readEnd fs "from" "source"
      <*> readEnd fs "to" "target"
      <*> readButton fs
      <*> fs.textOrNull "label"

/-- Reads an edge. -/
def reader : Reader Edge := readerAs .notRecord

/-- Writes an edge. -/
def write (form : Form) (e : Edge) : Value :=
  .dict (form.keep
    [("from", .str e.source), ("to", .str e.target),
      ("fromButton", .ofInt? (e.button.map Int.ofNat)), ("label", .ofText? e.label)])

end Edge

/-! ### Records -/

/-- Whether an automation is in use. -/
inductive Status where
  | draft
  | active
  | paused
  deriving DecidableEq, Repr

namespace Status

/-- The word for a status. -/
def word : Status → String
  | draft => "draft"
  | active => "active"
  | paused => "paused"

/-- The status that a word names. -/
def ofWord? : String → Option Status
  | "draft" => some .draft
  | "active" => some .active
  | "paused" => some .paused
  | _ => none

/-- Reads a status. -/
def reader : Reader Status
  | .str s => match ofWord? s with
    | some status => ok status
    | none => fail .unknownWord
  | _ => fail .unknownWord

end Status

/-- A stored automation. -/
structure Record where
  id : String
  name : String := "New Automation"
  description : String := ""
  /-- The word for the kind of the first trigger step. -/
  triggerType : String := "keyword"
  /-- The settings of the first trigger step. -/
  triggerConfig : Fields := []
  workflow : List Step := []
  connections : List Edge := []
  status : Status := .draft
  createdAt : Moment
  updatedAt : Moment

namespace Record

/-- Reads a record. A record without an id or without times gets those given. -/
def readerWith (id : String) (now : Moment) : Reader Record :=
  Reader.record .notRecord fun fs =>
    Record.mk
      <$> fs.withDefault "id" id Reader.text
      <*> fs.withDefault "name" "New Automation" Reader.text
      <*> fs.text "description"
      <*> fs.withDefault "trigger_type" "keyword" Reader.text
      <*> fs.dict "trigger_config"
      <*> fs.withDefault "workflow" [] (Reader.listOf Step.reader)
      <*> fs.withDefault "connections" [] (Reader.listOf Edge.reader)
      <*> fs.withDefault "status" .draft Status.reader
      <*> fs.withDefault "created_at" now Reader.moment
      <*> fs.withDefault "updated_at" now Reader.moment

/-- The fields of a record. -/
def fields (r : Record) : Fields :=
  [("id", .str r.id), ("name", .str r.name), ("description", .str r.description),
    ("trigger_type", .str r.triggerType), ("trigger_config", .dict (Value.finiteFields r.triggerConfig)),
    ("workflow", .list (r.workflow.map (Step.write .full))),
    ("connections", .list (r.connections.map (Edge.write .full))),
    ("status", .str r.status.word), ("created_at", .str r.createdAt.toText),
    ("updated_at", .str r.updatedAt.toText)]

/-- Writes a record. -/
def write (r : Record) : Value := .dict r.fields

end Record

end Parley
