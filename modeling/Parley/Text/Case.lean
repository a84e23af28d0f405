import Parley.Text.CaseTable

/-!
# Lower and upper case

Messages and keywords are compared in lower case, and methods of outbound calls are written in upper
case, both by the full mappings of the Unicode standard. Two rules make them more than a table:

* a character may turn into several (`İ` has a lower case of two characters, `ß` an upper case of two);
* the capital sigma has two lower cases, and gets the final one at the end of a word, that is when a
  cased character comes before it and none after it, marks and apostrophes not counted.
-/

namespace Parley.Text

/-- Whether the character is passed over when the end of a word is looked for. -/
def isIgnorable (c : Char) : Bool := inRanges ignorableRanges c.toNat

/-- Whether the character has a case. -/
def isCased (c : Char) : Bool := inRanges casedRanges c.toNat

/-- The capital sigma. -/
def capitalSigma : Char := Char.ofNat 0x3A3

/-- Whether the word goes on: the next character that is not passed over has a case. -/
def wordGoesOn (rest : List Char) : Bool :=
  match rest.find? fun c => !isIgnorable c with
  | some c => isCased c
  | none => false

/-- The lower case of a character wherever it stands. -/
def lowerChar (c : Char) : List Char :=
  let n := c.toNat
  if n < 128 then [if 65 ≤ n && n ≤ 90 then Char.ofNat (n + 32) else c]
  else if n = 0x130 then [Char.ofNat 0x69, Char.ofNat 0x307]
  else [Char.ofNat (Run.move lowerRuns n)]

/-- Lower case of the characters, where `inWord` tells whether the last character before them that is
not passed over has a case. -/
def lowerFrom (inWord : Bool) : List Char → List Char
  | [] => []
  | c :: rest =>
    (if c == capitalSigma && inWord && !wordGoesOn rest then [Char.ofNat 0x3C2] else lowerChar c) ++
      lowerFrom (if isIgnorable c then inWord else isCased c) rest

/-- Lower case of a text. -/
def lower (s : String) : String :=
  String.ofList (lowerFrom false s.toList)

/-- The upper case of a character. -/
def upperChar (c : Char) : List Char :=
  let n := c.toNat
  if n < 128 then [if 97 ≤ n && n ≤ 122 then Char.ofNat (n - 32) else c]
  else match upperExpansions.find? fun e => e.1 == n with
    | some e => e.2.map Char.ofNat
    | none => [Char.ofNat (Run.move upperRuns n)]

/-- Upper case of a text. -/
def upper (s : String) : String :=
  String.ofList (s.toList.flatMap upperChar)

end Parley.Text
