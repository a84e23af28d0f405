/-!
# Documents

The builder, the store, the peers of a run and the people who write to it all exchange *documents*:
trees of nulls, truth values, numbers, texts, lists and dictionaries. Most of the library works on
types of its own and meets documents only at its border, but a few places keep one as it is – the
payload of an outbound call, the keys of a configuration that nobody has given a meaning yet – and
there a document has to come out as it went in.

Two things are therefore part of the type. Whole numbers and floating ones are told apart, because
the text made of `1` is not the text made of `1.0`; and a dictionary is a list of pairs, because its
keys keep the order in which they were written.
-/

namespace Parley

/-! ### Dictionaries -/

/-- A dictionary with text keys, in the order of their first insertion. -/
abbrev Dict (α : Type) := List (String × α)

namespace Dict

variable {α : Type}

/-- The value of a key. -/
def get? (d : Dict α) (key : String) : Option α :=
  (d.find? fun entry => entry.1 == key).map (·.2)

/-- The keys, in order. -/
def keys (d : Dict α) : List String := d.map (·.1)

/-- Whether a key is present. -/
def has (d : Dict α) (key : String) : Bool :=
  d.any fun entry => entry.1 == key

/-- Gives a key a value: a present key keeps its place, a new one goes to the end. -/
def put (d : Dict α) (key : String) (value : α) : Dict α :=
  match d with
  | [] => [(key, value)]
  | (k, v) :: rest => if k == key then (key, value) :: rest else (k, v) :: put rest key value

/-- The dictionary without a key. -/
def erase (d : Dict α) (key : String) : Dict α :=
  d.filter fun entry => entry.1 != key

/-- All entries of `late` put into `d`, one after the other. -/
def merge (d late : Dict α) : Dict α :=
  late.foldl (fun acc entry => acc.put entry.1 entry.2) d

/-- The dictionary that results from putting the pairs one after the other. -/
def ofPairs (pairs : List (String × α)) : Dict α :=
  merge [] pairs

/-- The dictionary with the value of a key changed; without the key, nothing changes. -/
def modify (d : Dict α) (key : String) (f : α → α) : Dict α :=
  d.map fun entry => if entry.1 == key then (entry.1, f entry.2) else entry

/-- The dictionary with every value changed. -/
def mapValues (d : Dict α) (f : α → α) : Dict α :=
  d.map fun entry => (entry.1, f entry.2)

/-- The entries whose keys are not in `names`. -/
def without (d : Dict α) (names : List String) : Dict α :=
  d.filter fun entry => !names.contains entry.1

end Dict

/-! ### Values -/

/-- A document. -/
inductive Value where
  | null
  | bool (b : Bool)
  | int (n : Int)
  | float (x : Float)
  | str (s : String)
  | list (items : List Value)
  | dict (fields : List (String × Value))
  deriving Inhabited

/-- The fields of a dictionary document. -/
abbrev Fields := Dict Value

namespace Value

/-- Whether the document is null. -/
def isNull : Value → Bool
  | null => true
  | _ => false

/-- A text, or null. -/
def ofText? : Option String → Value
  | some s => str s
  | none => null

/-- A whole number, or null. -/
def ofInt? : Option Int → Value
  | some n => int n
  | none => null

/-- A list of texts. -/
def ofTexts (texts : List String) : Value :=
  list (texts.map str)

/-- A dictionary of texts. -/
def ofTextDict (d : Dict String) : Value :=
  dict (d.map fun entry => (entry.1, str entry.2))

mutual

/-- The document with null in the place of every number that is infinite or not a number: the form in
which a document without a schema is handed on. -/
def finite : Value → Value
  | null => null
  | bool b => bool b
  | int n => int n
  | float x => if x.isFinite then float x else null
  | str s => str s
  | list items => list (finiteItems items)
  | dict fields => dict (finiteFields fields)

/-- The members of a list in that form. -/
def finiteItems : List Value → List Value
  | [] => []
  | item :: rest => finite item :: finiteItems rest

/-- The fields of a dictionary in that form. -/
def finiteFields : List (String × Value) → List (String × Value)
  | [] => []
  | (key, value) :: rest => (key, finite value) :: finiteFields rest

end

mutual

/-- The document with every text changed; the keys of dictionaries stay as they are. -/
def mapTexts (f : String → String) : Value → Value
  | null => null
  | bool b => bool b
  | int n => int n
  | float x => float x
  | str s => str (f s)
  | list items => list (mapItemTexts f items)
  | dict fields => dict (mapFieldTexts f fields)

/-- The members of a list with every text changed. -/
def mapItemTexts (f : String → String) : List Value → List Value
  | [] => []
  | item :: rest => mapTexts f item :: mapItemTexts f rest

/-- The fields of a dictionary with every text in their values changed. -/
def mapFieldTexts (f : String → String) : List (String × Value) → List (String × Value)
  | [] => []
  | (key, value) :: rest => (key, mapTexts f value) :: mapFieldTexts f rest

end

end Value

end Parley
