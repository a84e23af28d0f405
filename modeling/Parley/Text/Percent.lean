import Parley.Text.Search

/-!
# Addresses on the network

The parts of an address: its path may be followed by a query, which names values, and by a fragment.
Characters that have a meaning in an address are written as a percent sign and two hexadecimal digits for
each byte.
-/

namespace Parley.Text

/-- The value of a hexadecimal digit. -/
def hexValue? (c : Char) : Option UInt8 :=
  let n := c.toNat
  if 48 ≤ n ∧ n ≤ 57 then some (n - 48).toUInt8
  else if 97 ≤ n ∧ n ≤ 102 then some (n - 87).toUInt8
  else if 65 ≤ n ∧ n ≤ 70 then some (n - 55).toUInt8
  else none

/-- The bytes that characters stand for. -/
def percentBytes : List Char → List UInt8
  | '%' :: a :: b :: rest =>
    match hexValue? a, hexValue? b with
    | some high, some low => (high * 16 + low) :: percentBytes rest
    | _, _ => (String.singleton '%').toUTF8.toList ++ percentBytes (a :: b :: rest)
  | c :: rest => (String.singleton c).toUTF8.toList ++ percentBytes rest
  | [] => []

/-- The text that is written with percent signs; a text whose bytes are not those of characters stays as
it is. -/
def percentDecoded (s : String) : String :=
  (String.fromUTF8? ⟨(percentBytes s.toList).toArray⟩).getD s

/-- The text that is written in a query, where a plus sign is a blank. -/
def queryDecoded (cs : List Char) : String :=
  percentDecoded (String.ofList (cs.map fun c => if c == '+' then ' ' else c))

/-- A name and its value in a query; a name alone has an empty value. -/
def queryPair (cs : List Char) : String × String :=
  (queryDecoded (cs.takeWhile (· != '=')), queryDecoded ((cs.dropWhile (· != '=')).drop 1))

/-- Pairs with those of one name brought together at the place of the first. -/
def grouped (pairs : List (String × String)) : List (String × String) :=
  (distinct (pairs.map (·.1))).flatMap fun name => pairs.filter fun p => p.1 == name

/-- The names and values of a query. -/
def queryPairs (query : List Char) : List (String × String) :=
  grouped (((pieces '&' query).filter fun piece => !piece.isEmpty).map queryPair)

/-- An address without its query, and the query. -/
def splitAddress (url : String) : String × List Char :=
  let cs := url.toList
  let beforeFragment := cs.takeWhile (· != '#')
  let path := beforeFragment.takeWhile (· != '?')
  (String.ofList (path ++ cs.dropWhile (· != '#')), (beforeFragment.dropWhile (· != '?')).drop 1)

/-- The pieces of a path without those that stand for a step up or for staying, where `above` is the way
so far, last piece first. -/
def withoutDots (above : List (List Char)) : List (List Char) → List (List Char)
  | [] => above.reverse
  | ['.'] :: rest => withoutDots above rest
  | ['.', '.'] :: rest =>
    withoutDots (if above = [[]] then above else above.drop 1) rest
  | piece :: rest => withoutDots (piece :: above) rest

/-- A path in which no piece stands for a step up or for staying. -/
def dotless (path : String) : String :=
  joinWith "/" ((withoutDots [] (pieces '/' path.toList)).map String.ofList)

end Parley.Text
