import Parley.Value
import Parley.Decimal.Shortest
import Parley.Moment
import Parley.Reading.Issue

/-!
# Reading documents

A `Reading` is a typed value or the issues that stand in its way. Readings combine as an applicative
functor, and only as that: two of them side by side give both values, or the issues of both, those of
the first one first. A record is read by applying its constructor to the readings of its fields in
order, so the issues come in the order of the fields.

The readers for single values are generous: a number may be written as text, a truth value as a number
or a word.
-/

namespace Parley

/-- A value read from a document, or everything that is wrong with the document. -/
def Reading (α : Type) : Type := Except (List Issue) α

namespace Reading

variable {α β : Type}

/-- A reading that succeeds. -/
def ok (a : α) : Reading α := Except.ok a

/-- A reading that fails for one reason. -/
def fail (kind : IssueKind) : Reading α := Except.error [Issue.here kind]

/-- A reading that fails for several reasons. -/
def bad (issues : List Issue) : Reading α := Except.error issues

/-- The reading as the outcome of a step of a longer computation. -/
def toExcept (r : Reading α) : Except (List Issue) α := r

/-- Applies a read function to a read argument; the issues of both are kept. -/
def apply (f : Reading (α → β)) (a : Reading α) : Reading β :=
  match f, a with
  | .ok f, .ok a => ok (f a)
  | .error issues, .ok _ => bad issues
  | .ok _, .error issues => bad issues
  | .error first, .error second => bad (first ++ second)

instance : Applicative Reading where
  pure := ok
  seq f a := apply f (a ())

/-- The reading of a part, with its issues placed under the part's key. -/
def under (key : Key) (r : Reading α) : Reading α :=
  match r with
  | .ok a => ok a
  | .error issues => bad (issues.map (Issue.under key))

/-- The reading of a field's value. -/
def field (name : String) (r : Reading α) : Reading α := under (.name name) r

/-- Goes on with the value read, or stops. -/
def andThen (r : Reading α) (next : α → Reading β) : Reading β :=
  match r with
  | .ok a => next a
  | .error issues => bad issues

end Reading

/-- A way to read a document. -/
abbrev Reader (α : Type) := Value → Reading α

namespace Reader

variable {α : Type}

/-! ### Single values -/

/-- A text, and nothing else. -/
def text : Reader String
  | .str s => .ok s
  | _ => .fail .notText

/-- The least and the greatest number of 64 bits. -/
def inWord (n : Int) : Bool := -9223372036854775808 ≤ n && n ≤ 9223372036854775807

/-- A floating number as a whole one, if it is whole and fits into 64 bits. -/
def wholeOfFloat (x : Float) : Reading Int :=
  if !x.isFinite then .fail .notFinite
  else match Decimal.whole? x with
    | none => .fail .wholeHasFraction
    | some n => if inWord n then .ok n else .fail .wholeTooLong

/-- A whole number: a truth value counts as zero or one, a floating number must be whole, and a text must be
that of a whole number. -/
def whole : Reader Int
  | .int n => .ok n
  | .bool b => .ok (if b then 1 else 0)
  | .float x => wholeOfFloat x
  | .str s => match Text.whole? s with
    | some n => .ok n
    | none => .fail .wholeUnreadable
  | _ => .fail .notWhole

/-- A floating number. A whole number too large to be one is refused. -/
def floating : Reader Float
  | .float x => .ok x
  | .int n =>
    let x := Float.ofInt n
    if x.isFinite then .ok x else .fail .notFloating
  | .bool b => .ok (if b then 1.0 else 0.0)
  | .str s => match Text.floating? s with
    | some x => .ok x
    | none => .fail .floatingUnreadable
  | _ => .fail .notFloating

/-- A truth value of a whole number. -/
def truthOfWhole (n : Int) : Reading Bool :=
  if n = 0 then .ok false
  else if n = 1 then .ok true
  else if inWord n then .fail .truthUnreadable
  else .fail .notTruth

/-- A truth value: zero and one, and the usual words in any case, count as one. -/
def truth : Reader Bool
  | .bool b => .ok b
  | .int n => truthOfWhole n
  | .float x => match wholeOfFloat x with
    | .ok n => truthOfWhole n
    | .error _ => .fail .notTruth
  | .str s => match Text.truth? s with
    | some b => .ok b
    | none => .fail .truthUnreadable
  | _ => .fail .notTruth

/-- A moment: text, or a number of seconds since 1970 began. -/
def moment : Reader Moment
  | .str s => match Moment.ofText? s with
    | some m => .ok m
    | none => .fail .momentUnreadable
  | .int n => match Moment.ofNumber? n 0 with
    | some m => .ok m
    | none => .fail .momentOutOfRange
  | .float x =>
    let seconds := x.floor
    match (if x.isFinite then Decimal.whole? seconds else none) with
    | some n =>
      match Moment.ofNumber? n ((x - seconds) * 1000000.0).round.toUInt64.toNat with
      | some m => .ok m
      | none => .fail .momentOutOfRange
    | none => .fail .momentOutOfRange
  | _ => .fail .notMoment

/-- Any document. -/
def any : Reader Value := .ok

/-- Null, or what the reader reads. -/
def orNull (r : Reader α) : Reader (Option α)
  | .null => .ok none
  | v => some <$> r v

/-! ### Lists and dictionaries -/

/-- The members of a list from an index on. -/
def itemsFrom (r : Reader α) : Nat → List Value → Reading (List α)
  | _, [] => .ok []
  | i, v :: rest => List.cons <$> (r v).under (.index i) <*> itemsFrom r (i + 1) rest

/-- A list whose members the reader reads. -/
def listOf (r : Reader α) : Reader (List α)
  | .list items => itemsFrom r 0 items
  | _ => .fail .notList

/-- The entries of a dictionary. -/
def entries (r : Reader α) : Fields → Reading (Dict α)
  | [] => .ok []
  | (key, v) :: rest =>
    (fun a others => (key, a) :: others) <$> (r v).field key <*> entries r rest

/-- A dictionary whose values the reader reads. -/
def dictOf (r : Reader α) : Reader (Dict α)
  | .dict fields => entries r fields
  | _ => .fail .notDict

/-! ### Records -/

/-- A dictionary of known fields; anything else is the issue given. -/
def record (otherwise : IssueKind) (r : Fields → Reading α) : Reader α
  | .dict fields => r fields
  | _ => .fail otherwise

end Reader

namespace Fields

variable {α : Type}

/-- A field that must be there. -/
def required (fields : Fields) (name : String) (r : Reader α) : Reading α :=
  match fields.get? name with
  | some v => (r v).field name
  | none => Reading.field name (.fail .missing)

/-- A field that has a default. -/
def withDefault (fields : Fields) (name : String) (default : α) (r : Reader α) : Reading α :=
  match fields.get? name with
  | some v => (r v).field name
  | none => .ok default

/-- A text that is empty unless given. -/
def text (fields : Fields) (name : String) : Reading String :=
  fields.withDefault name "" Reader.text

/-- A text or null, null unless given. -/
def textOrNull (fields : Fields) (name : String) : Reading (Option String) :=
  fields.withDefault name none (Reader.orNull Reader.text)

/-- A list of texts, empty unless given. -/
def texts (fields : Fields) (name : String) : Reading (List String) :=
  fields.withDefault name [] (Reader.listOf Reader.text)

/-- A dictionary of texts, empty unless given. -/
def textDict (fields : Fields) (name : String) : Reading (Dict String) :=
  fields.withDefault name [] (Reader.dictOf Reader.text)

/-- A dictionary of documents, empty unless given. -/
def dict (fields : Fields) (name : String) : Reading Fields :=
  fields.withDefault name [] (Reader.dictOf Reader.any)

end Fields

end Parley
