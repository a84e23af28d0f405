/-!
# What is wrong with a document

Reading a document into a typed value finds everything that is wrong with it, not only the first
thing. An *issue* is one finding: where it is, as the path of keys and indices from the top, and what
it is.
-/

namespace Parley

/-- One step into a document. -/
inductive Key where
  | name (s : String)
  | index (i : Nat)
  deriving DecidableEq, Repr

/-- What is wrong with a value. -/
inductive IssueKind where
  /-- A field without a default is not there. -/
  | missing
  | notText
  | notWhole
  | wholeUnreadable
  | wholeHasFraction
  | wholeTooLong
  | notFinite
  | notFloating
  | floatingUnreadable
  | notTruth
  | truthUnreadable
  | notList
  | notDict
  /-- Something else stands where a dictionary of known fields is expected. -/
  | notRecord
  /-- The same, where the kind of the record is to be told from one of its fields. -/
  | notTagged
  /-- A word that is none of the allowed ones. -/
  | unknownWord
  /-- A word that names no member of an enumeration. -/
  | unknownMember
  /-- The field that tells the kind of a record names none. -/
  | unknownTag
  /-- A step whose type is a list or a dictionary has no kind at all, and nothing of it can be read. -/
  | untaggable
  | negative
  | notMoment
  | momentOutOfRange
  | momentUnreadable
  | notPath
  deriving DecidableEq, Repr

namespace IssueKind

/-- The code by which an answer names the issue. -/
def code : IssueKind → String
  | missing => "missing"
  | notText => "string_type"
  | notWhole => "int_type"
  | wholeUnreadable => "int_parsing"
  | wholeHasFraction => "int_from_float"
  | wholeTooLong => "int_parsing_size"
  | notFinite => "finite_number"
  | notFloating => "float_type"
  | floatingUnreadable => "float_parsing"
  | notTruth => "bool_type"
  | truthUnreadable => "bool_parsing"
  | notList => "list_type"
  | notDict => "dict_type"
  | notRecord => "model_type"
  | notTagged => "model_attributes_type"
  | unknownWord => "literal_error"
  | unknownMember => "enum"
  | unknownTag => "union_tag_invalid"
  | untaggable => "untaggable"
  | negative => "greater_than_equal"
  | notMoment => "datetime_type"
  | momentOutOfRange => "datetime_parsing"
  | momentUnreadable => "datetime_from_date_parsing"
  | notPath => "path_type"

end IssueKind

/-- Something wrong with a document, and where. -/
structure Issue where
  path : List Key
  kind : IssueKind
  deriving DecidableEq, Repr

/-- An issue of the document itself. -/
def Issue.here (kind : IssueKind) : Issue := ⟨[], kind⟩

/-- The issue seen from one step further out. -/
def Issue.under (key : Key) (i : Issue) : Issue := ⟨key :: i.path, i.kind⟩

end Parley
