import Parley.Graph.Record

/-!
# The store

Automations are kept in documents, one for each, under a name made of the automation's id. A record is
brought into its normal form before it is stored: a graph is made of it and written back, so that the
steps and edges of a stored record agree. The time of its making stays that of the first record stored
under the id.

Numbers that are not finite have no place in a stored document; they are stored as null. Something else may
write into the store as well, so what is read from it is not taken on trust.
-/

namespace Parley

open Reading

/-- What a file of the store holds. -/
inductive Contents where
  | document (v : Value)
  /-- Something that is no document. -/
  | garbled

/-- Stored automations, by file name. -/
structure Store where
  files : Dict Contents := []

/-- Why an operation of the store fails. -/
inductive StoreError where
  /-- An id holds letters, digits, underscores and hyphens, at least one and at most 64. -/
  | invalidId (id : String)
  /-- A file holds no document. -/
  | garbled
  | unreadable (issues : List Issue)
  | broken (error : GraphError)
  /-- Some times of change are on a clock of known offset, and others are not. -/
  | unordered

/-- The error in words, for those that have some. -/
def StoreError.message? : StoreError → Option String
  | invalidId id => some ("Invalid automation id: " ++ Text.quoted id)
  | broken error => some error.message
  | _ => none

namespace Store

/-! ### Files -/

/-- Whether an id may stand in a file name. -/
def isValidId (id : String) : Bool :=
  let cs := id.toList
  !cs.isEmpty && cs.length ≤ 64 && cs.all fun c => c.isAlphanum || c == '_' || c == '-'

/-- What the name of a file with an automation ends in. -/
def ending : String := ".json"

/-- The name of an automation's file. -/
def fileName (id : String) : Except StoreError String :=
  if isValidId id then .ok (id ++ ending) else .error (.invalidId id)

/-- The record in a file. -/
def recordIn : Contents → Except StoreError Record
  | .garbled => .error .garbled
  | .document v =>
    match (Record.readerWith "" default v).toExcept with
    | .ok r => .ok r
    | .error issues => .error (.unreadable issues)

/-- An error of a graph as one of the store. -/
def graphError : EditError → StoreError
  | .broken e => .broken e
  | .unreadable issues => .unreadable issues

/-- The graph of a record. -/
def graphOf (r : Record) : Except StoreError Graph := (Graph.ofRecord r).mapError graphError

/-! ### Reading -/

/-- The record of an id. -/
def load (s : Store) (id : String) : Except StoreError (Option Record) := do
  let name ← fileName id
  match s.files.get? name with
  | some contents => some <$> recordIn contents
  | none => pure none

/-- The record of an id, with its graph. -/
def loadGraph (s : Store) (id : String) : Except StoreError (Option (Record × Graph)) := do
  match ← s.load id with
  | some r => pure (some (r, ← graphOf r))
  | none => pure none

/-- Whether a file is that of an automation. -/
def isRecordFile (name : String) : Bool :=
  ending.toList.reverse.isPrefixOf name.toList.reverse

/-- All records, the one last changed first. -/
def list (s : Store) : Except StoreError (List Record) := do
  let records ← (s.files.filter fun entry => isRecordFile entry.1).mapM fun entry => recordIn entry.2
  if records.any (·.updatedAt.ahead.isSome) && records.any (·.updatedAt.ahead.isNone) then
    .error .unordered
  else
    pure (records.mergeSort fun a b => b.updatedAt.instant ≤ a.updatedAt.instant)

/-- The names of all files, in order. -/
def fileNames (s : Store) : List String := (s.files.map (·.1)).mergeSort fun a b => !(b < a)

/-! ### Writing -/

/-- Puts a record into its file. -/
def put (s : Store) (name : String) (r : Record) : Store :=
  { s with files := s.files.put name (.document r.write.finite) }

/-- Writes a graph into a record. -/
def withGraph (r : Record) (g : Graph) (now : Moment) : Except StoreError Record :=
  (g.toRecord r now).toExcept.mapError .unreadable

/-- Stores a record in its normal form, and gives that form. -/
def save (s : Store) (r : Record) (now : Moment) : Except StoreError (Store × Record) := do
  let g ← graphOf r
  let stored ← withGraph r g now
  let name ← fileName r.id
  let stored := match ← s.load r.id with
    | some old => { stored with createdAt := old.createdAt }
    | none => stored
  pure (s.put name stored, stored)

/-- Stores a record with a graph as its workflow. -/
def saveGraph (s : Store) (r : Record) (g : Graph) (now : Moment) : Except StoreError (Store × Record) := do
  s.save (← withGraph r g now) now

/-- Gives the record of an id another status. A word that is no status is refused, but only when the record
can be brought into its normal form. -/
def setStatus (s : Store) (id word : String) (now : Moment) :
    Except StoreError (Store × Option Record) := do
  match ← s.load id with
  | none => pure (s, none)
  | some r =>
    match Status.ofWord? word with
    | some status =>
      let (s, stored) ← s.save { r with status, updatedAt := now } now
      pure (s, some stored)
    | none =>
      let _ ← graphOf r
      .error (.unreadable [(Issue.here .unknownWord).under (.name "status")])

/-- Removes the record of an id, and tells whether there was one. -/
def delete (s : Store) (id : String) : Except StoreError (Store × Bool) := do
  let name ← fileName id
  if s.files.has name then pure ({ s with files := s.files.erase name }, true) else pure (s, false)

end Store

end Parley
