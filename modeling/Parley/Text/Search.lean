/-!
# Finding and cutting text
-/

namespace Parley.Text

/-- Whether `needle` occurs in a row inside the characters. -/
def occursIn (needle : List Char) : List Char → Bool
  | [] => needle.isEmpty
  | c :: rest => needle.isPrefixOf (c :: rest) || occursIn needle rest

/-- Whether a text occurs inside another. -/
def contains (text needle : String) : Bool :=
  occursIn needle.toList text.toList

/-- Whether a text begins with another. -/
def startsWith (text start : String) : Bool :=
  start.toList.isPrefixOf text.toList

/-- Cuts at every `mark`; there is always one piece more than there are marks. -/
def pieces (mark : Char) : List Char → List (List Char)
  | [] => [[]]
  | c :: rest =>
    if c == mark then [] :: pieces mark rest
    else match pieces mark rest with
      | [] => [[c]]
      | piece :: others => (c :: piece) :: others

/-- The pieces of a text between commas. -/
def commaPieces (s : String) : List String :=
  (pieces ',' s.toList).map String.ofList

/-- Writes texts after one another with `between` in between. -/
def joinWith (between : String) (texts : List String) : String :=
  between.intercalate texts

/-- The first of equal elements, in order. -/
def distinct (texts : List String) : List String :=
  texts.foldl (fun seen t => if seen.contains t then seen else seen ++ [t]) []

end Parley.Text
