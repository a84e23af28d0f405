import Parley.Value
import Parley.Text.Numeral

/-!
# Reading JSON

Documents travel as JSON. The reader takes the text of one document with white space around it and
nothing else. A number is whole unless it has a fraction or an exponent; `NaN`, `Infinity` and
`-Infinity` are accepted as numbers; of equal keys in a dictionary the last one counts, at the place of
the first. Half of a surrogate pair stands for no character and is read as U+FFFD.

Every function returns the rest of the text with what it read. The nesting is bounded by the length of
the text, which is the fuel.
-/

namespace Parley.Json

/-- White space between the parts of a document. -/
def isSpace (c : Char) : Bool := c == ' ' || c == '\t' || c == '\n' || c == '\r'

/-- The value of a hexadecimal digit. -/
def hexDigit? (c : Char) : Option Nat :=
  let n := c.toNat
  if 48 ≤ n ∧ n ≤ 57 then some (n - 48)
  else if 97 ≤ n ∧ n ≤ 102 then some (n - 87)
  else if 65 ≤ n ∧ n ≤ 70 then some (n - 55)
  else none

/-- Four hexadecimal digits, and the rest. -/
def unit? : List Char → Option (Nat × List Char)
  | a :: b :: c :: d :: rest => do
    let a ← hexDigit? a
    let b ← hexDigit? b
    let c ← hexDigit? c
    let d ← hexDigit? d
    pure (((a * 16 + b) * 16 + c) * 16 + d, rest)
  | _ => none

/-- The low half of a surrogate pair, if one follows. -/
def lowHalf? : List Char → Option (Nat × List Char)
  | '\\' :: 'u' :: rest => do
    let (n, rest) ← unit? rest
    guard (0xDC00 ≤ n && n ≤ 0xDFFF)
    pure (n, rest)
  | _ => none

/-- The character of an escape, after its backslash. -/
def escape? : List Char → Option (Char × List Char)
  | 'n' :: rest => some ('\n', rest)
  | 't' :: rest => some ('\t', rest)
  | 'r' :: rest => some ('\r', rest)
  | 'b' :: rest => some (Char.ofNat 8, rest)
  | 'f' :: rest => some (Char.ofNat 12, rest)
  | 'u' :: rest => do
    let (n, rest) ← unit? rest
    if 0xD800 ≤ n ∧ n ≤ 0xDBFF then
      match lowHalf? rest with
      | some (low, rest) => pure (Char.ofNat (0x10000 + (n - 0xD800) * 0x400 + (low - 0xDC00)), rest)
      | none => pure (Char.ofNat 0xFFFD, rest)
    else if 0xDC00 ≤ n ∧ n ≤ 0xDFFF then pure (Char.ofNat 0xFFFD, rest)
    else pure (Char.ofNat n, rest)
  | c :: rest => if c == '\\' || c == '/' || c.toNat == 34 then some (c, rest) else none
  | [] => none

/-- The characters of a text up to its closing quote; `read` holds those before, last one first. -/
def string? : Nat → List Char → List Char → Option (String × List Char)
  | 0, _, _ => none
  | _ + 1, _, [] => none
  | fuel + 1, read, c :: rest =>
    if c.toNat = 34 then some (String.ofList read.reverse, rest)
    else if c == '\\' then
      match escape? rest with
      | some (c, rest) => string? fuel (c :: read) rest
      | none => none
    else if c.toNat < 32 then none
    else string? fuel (c :: read) rest

/-- Whether a character may be part of a number. -/
def inNumber (c : Char) : Bool :=
  c.isDigit || c == '-' || c == '+' || c == '.' || c == 'e' || c == 'E'

/-- Digits without a zero in front. -/
def plainDigits (cs : List Char) : Bool :=
  !cs.isEmpty && cs.all Char.isDigit && (cs.length == 1 || cs.head? != some '0')

/-- The parts of an unsigned number: digits, the digits of a fraction, and an exponent. -/
def numberParts? (cs : List Char) : Option (List Char × Option (List Char) × Option Int) := do
  let before := cs.takeWhile Char.isDigit
  guard (plainDigits before)
  let rest := cs.dropWhile Char.isDigit
  let (after, rest) ←
    if rest.head? == some '.' then
      let digits := (rest.drop 1).takeWhile Char.isDigit
      if digits.isEmpty then none else some (some digits, (rest.drop 1).dropWhile Char.isDigit)
    else some (none, rest)
  match rest with
  | [] => pure (before, after, none)
  | mark :: rest =>
    guard (mark == 'e' || mark == 'E')
    let signed := Text.sign rest
    let n ← Text.digits? signed.2
    pure (before, after, some (if signed.1 then -(n : Int) else n))

/-- The number that characters spell. -/
def number? (cs : List Char) : Option Value := do
  let negative := cs.head? == some '-'
  let (before, after, power) ← numberParts? (if negative then cs.drop 1 else cs)
  match after, power with
  | none, none =>
    let n ← Text.digits? before
    pure (.int (if negative then -(n : Int) else n))
  | _, _ =>
    let digits := after.getD []
    let n ← Text.digits? (before ++ digits)
    let x := Text.scaled n (power.getD 0 - digits.length)
    pure (.float (if negative then -x else x))

/-- The words of the format, and the documents that they are. -/
def words : List (List Char × Value) :=
  [("true".toList, .bool true), ("false".toList, .bool false), ("null".toList, .null),
    ("NaN".toList, .float (Float.ofBits 0x7FF8000000000000)),
    ("Infinity".toList, .float (Float.ofBits 0x7FF0000000000000)),
    ("-Infinity".toList, .float (Float.ofBits 0xFFF0000000000000))]

/-- A word or a number, and the rest. -/
def scalar? (cs : List Char) : Option (Value × List Char) :=
  match words.find? fun w => w.1.isPrefixOf cs with
  | some w => some (w.2, cs.drop w.1.length)
  | none => (number? (cs.takeWhile inNumber)).map (·, cs.dropWhile inNumber)

/-- The rest after white space. -/
def skip (cs : List Char) : List Char := cs.dropWhile isSpace

mutual

/-- One document, and the rest. -/
def value? : Nat → List Char → Option (Value × List Char)
  | 0, _ => none
  | fuel + 1, cs =>
    match skip cs with
    | [] => none
    | c :: rest =>
      if c.toNat = 34 then (string? (rest.length + 1) [] rest).map fun r => (.str r.1, r.2)
      else if c == '[' then
        match skip rest with
        | ']' :: rest => some (.list [], rest)
        | rest => (items? fuel [] rest).map fun r => (.list r.1, r.2)
      else if c.toNat = 123 then
        match skip rest with
        | [] => none
        | d :: rest =>
          if d.toNat = 125 then some (.dict [], rest)
          else (members? fuel [] (d :: rest)).map fun r => (.dict (Dict.ofPairs r.1), r.2)
      else scalar? (c :: rest)

/-- The members of a list up to its end; `read` holds those before, last one first. -/
def items? : Nat → List Value → List Char → Option (List Value × List Char)
  | 0, _, _ => none
  | fuel + 1, read, cs =>
    match value? fuel cs with
    | none => none
    | some (v, rest) =>
      match skip rest with
      | ',' :: rest => items? fuel (v :: read) rest
      | ']' :: rest => some ((v :: read).reverse, rest)
      | _ => none

/-- The entries of a dictionary up to its end; `read` holds those before, last one first. -/
def members? : Nat → List (String × Value) → List Char →
    Option (List (String × Value) × List Char)
  | 0, _, _ => none
  | fuel + 1, read, cs =>
    match skip cs with
    | [] => none
    | q :: rest =>
      if q.toNat = 34 then
        match string? (rest.length + 1) [] rest with
        | none => none
        | some (key, rest) =>
          match skip rest with
          | ':' :: rest =>
            match value? fuel rest with
            | none => none
            | some (v, rest) =>
              match skip rest with
              | ',' :: rest => members? fuel ((key, v) :: read) rest
              | d :: rest =>
                if d.toNat = 125 then some (((key, v) :: read).reverse, rest) else none
              | [] => none
          | _ => none
      else none

end

/-- Reads the text of one document. -/
def read? (text : String) : Option Value :=
  let cs := text.toList
  match value? (2 * cs.length + 2) cs with
  | some (v, rest) => if (skip rest).isEmpty then some v else none
  | none => none

end Parley.Json
