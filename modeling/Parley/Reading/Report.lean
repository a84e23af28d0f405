import Parley.Reading.Issue
import Parley.Text.Display
import Parley.Text.Search

/-!
# A report on issues

When what a service says cannot be read, the reason is told as a text: how many issues there are and, for
each of them, where it is, what it is, what was found there and where a manual says more about it. What was
found is cut in the middle if it is long. Where the manual is has to be said by whoever wants a report.
-/

namespace Parley

namespace Key

/-- A step into a document as a report names it. -/
def written : Key → String
  | name s => s
  | index i => toString i

/-- Writes a step into a document. -/
def write : Key → Value
  | name s => .str s
  | index i => .int i

end Key

/-- Writes an issue: where it is, and its code. -/
def Issue.write (i : Issue) : Value :=
  .dict [("loc", .list (i.path.map Key.write)), ("type", .str i.kind.code)]

namespace Value

/-- The word for the type of a document. -/
def typeWord : Value → String
  | null => "NoneType"
  | bool _ => "bool"
  | int _ => "int"
  | float _ => "float"
  | str _ => "str"
  | list _ => "list"
  | dict _ => "dict"

/-- The part of a document at the end of a path. -/
def part (v : Value) : List Key → Value
  | [] => v
  | .name s :: path =>
    match v with
    | .dict fs => ((Dict.get? fs s).getD .null).part path
    | _ => .null
  | .index i :: path =>
    match v with
    | .list items => (items.getD i .null).part path
    | _ => .null

end Value

namespace IssueKind

/-- What should have been there, where `record` is the word for a record in its place. -/
def advice (record : String) : IssueKind → String
  | missing => "Field required"
  | notText => "Input should be a valid string"
  | notWhole => "Input should be a valid integer"
  | wholeUnreadable => "Input should be a valid integer, unable to parse string as an integer"
  | wholeHasFraction => "Input should be a valid integer, got a number with a fractional part"
  | wholeTooLong => "Unable to parse input string as an integer, exceeded maximum size"
  | notFinite => "Input should be a finite number"
  | notFloating => "Input should be a valid number"
  | floatingUnreadable => "Input should be a valid number, unable to parse string as a number"
  | notTruth => "Input should be a valid boolean"
  | truthUnreadable => "Input should be a valid boolean, unable to interpret input"
  | notList => "Input should be a valid list"
  | notDict => "Input should be a valid dictionary"
  | _ => "Input should be a valid dictionary or instance of " ++ record

end IssueKind

namespace Report

/-- The characters at the beginning that fit into so many bytes. -/
def fitting : Nat → List Char → List Char
  | _, [] => []
  | room, c :: rest => if c.utf8Size ≤ room then c :: fitting (room - c.utf8Size) rest else []

/-- A text, or its two ends if it takes more than 50 bytes. -/
def shortened (s : String) : String :=
  if s.utf8ByteSize ≤ 50 then s
  else String.ofList (fitting 25 s.toList ++ ['.', '.', '.'] ++ (fitting 24 s.toList.reverse).reverse)

/-- What was found where the issue is: for a missing field, the record that it is missing in. -/
def found (doc : Value) (i : Issue) : Value :=
  if i.kind = .missing then doc.part i.path.dropLast else doc.part i.path

/-- The lines on one issue, about which more is said in a manual under its code. -/
def entry (manual record : String) (doc : Value) (i : Issue) : String :=
  let value := found doc i
  (if i.path.isEmpty then "" else Text.joinWith "." (i.path.map Key.written) ++ "\n") ++
    "  " ++ i.kind.advice record ++ " [type=" ++ i.kind.code ++
    ", input_value=" ++ shortened (Text.written value) ++
    ", input_type=" ++ value.typeWord ++ "]\n    For further information visit " ++ manual ++ i.kind.code

/-- The report on the issues of a document that should be what `title` names, and in which records go by
the word `record`. -/
def onIssues (manual title record : String) (doc : Value) (issues : List Issue) : String :=
  toString issues.length ++ " validation error" ++ (if issues.length = 1 then "" else "s") ++
    " for " ++ title ++ "\n" ++ Text.joinWith "\n" (issues.map (entry manual record doc))

end Report

end Parley
