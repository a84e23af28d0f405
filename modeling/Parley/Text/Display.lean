import Parley.Value
import Parley.Decimal.Notation
import Parley.Text.Quoted
import Parley.Text.Search

/-!
# Documents as text

An event's payload may hold any document where a message wants text. A text stands for itself;
anything else is written out: `True`, `False` and `None`, numbers in full, lists in brackets and
dictionaries in braces, with the texts inside them quoted.
-/

namespace Parley.Text

mutual

/-- A document written out, with quotes around a text. -/
def written : Value → String
  | .null => "None"
  | .bool b => if b then "True" else "False"
  | .int n => toString n
  | .float x => Decimal.plain.write x
  | .str s => quoted s
  | .list items => "[" ++ joinWith ", " (writtenItems items) ++ "]"
  | .dict fields => "\x7b" ++ joinWith ", " (writtenFields fields) ++ "\x7d"

/-- The members of a list written out. -/
def writtenItems : List Value → List String
  | [] => []
  | item :: rest => written item :: writtenItems rest

/-- The fields of a dictionary written out. -/
def writtenFields : List (String × Value) → List String
  | [] => []
  | (key, value) :: rest => (quoted key ++ ": " ++ written value) :: writtenFields rest

end

/-- The text of a document: a text is its own. -/
def display : Value → String
  | .str s => s
  | v => written v

end Parley.Text
