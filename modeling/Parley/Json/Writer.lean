import Parley.Value
import Parley.Decimal.Notation
import Parley.Text.Quoted
import Parley.Text.Search

/-!
# Writing JSON

The written form uses ASCII alone: every other character is escaped by its UTF-16 units, so that a
line of output is the same whatever is done to its bytes. A number that is not finite has no form and is
written as null.
-/

namespace Parley.Json

/-- A UTF-16 unit as an escape. -/
def unitEscape (n : Nat) : List Char := '\\' :: 'u' :: Text.hex 4 n

/-- A character inside a text. -/
def escapeChar (c : Char) : List Char :=
  let n := c.toNat
  if n = 34 ∨ n = 92 then ['\\', c]
  else if n = 10 then ['\\', 'n']
  else if n = 13 then ['\\', 'r']
  else if n = 9 then ['\\', 't']
  else if 32 ≤ n ∧ n < 127 then [c]
  else if n < 0x10000 then unitEscape n
  else unitEscape (0xD800 + (n - 0x10000) / 0x400) ++ unitEscape (0xDC00 + (n - 0x10000) % 0x400)

/-- A text in quotes. -/
def writeText (s : String) : String :=
  String.ofList (Char.ofNat 34 :: s.toList.flatMap escapeChar ++ [Char.ofNat 34])

mutual

/-- Writes a document. -/
def write : Value → String
  | .null => "null"
  | .bool b => if b then "true" else "false"
  | .int n => toString n
  | .float x => if x.isFinite then Decimal.plain.write x else "null"
  | .str s => writeText s
  | .list items => "[" ++ Text.joinWith "," (writeItems items) ++ "]"
  | .dict fields => "\x7b" ++ Text.joinWith "," (writeFields fields) ++ "\x7d"

/-- Writes the members of a list. -/
def writeItems : List Value → List String
  | [] => []
  | item :: rest => write item :: writeItems rest

/-- Writes the entries of a dictionary. -/
def writeFields : List (String × Value) → List String
  | [] => []
  | (key, value) :: rest => (writeText key ++ ":" ++ write value) :: writeFields rest

end

end Parley.Json
