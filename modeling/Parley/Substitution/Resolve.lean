import Parley.Substitution.Context
import Parley.Substitution.Token
import Parley.Text.Numeral

/-!
# Substitution

Each token of a text is replaced by its value. A token without a value stays as it is written, so that a
reader sees that something is missing, and what is put in is not looked through again.

A token of digits is *positional*: it stands for the variable of that number, counted from one, and is
undefined if there are not so many. The value of a variable may hold tokens of its own, which are
replaced too – these, and no others.
-/

namespace Parley

/-- A text after substitution. -/
structure Resolved where
  text : String
  /-- The tokens that had no value. -/
  missing : List String := []
  /-- The positional tokens that stand for no variable. -/
  undefined : List String := []
  deriving DecidableEq, Repr

namespace Resolved

/-- Whether all positional tokens stand for variables. -/
def ok (r : Resolved) : Bool := r.undefined.isEmpty

/-- Writes a resolved text. -/
def write (r : Resolved) : Value :=
  .dict [("text", .str r.text), ("missing", .ofTexts r.missing), ("undefined", .ofTexts r.undefined),
    ("ok", .bool r.ok)]

end Resolved

/-- What becomes of pieces of a text. -/
structure Rendering where
  chars : List Char := []
  missing : List String := []
  undefined : List String := []

namespace Rendering

/-- Two renderings after one another. -/
def append (a b : Rendering) : Rendering :=
  ⟨a.chars ++ b.chars, a.missing ++ b.missing, a.undefined ++ b.undefined⟩

/-- The rendering of the pieces of a text, one after the other. -/
def ofPieces (render : Piece → Rendering) (pieces : List Piece) : Rendering :=
  pieces.foldr (fun p later => (render p).append later) {}

end Rendering

/-- The values that tokens can have. -/
structure Bindings where
  /-- The standing values. -/
  standing : Dict String
  /-- The values by name. -/
  named : Dict String
  /-- The names of the variables that positional tokens stand for. -/
  variableNames : List String

namespace Bindings

/-- The bindings of a context, together with those of a template. -/
def ofContext (context : Context) (now : Moment) (variableNames : List String) (values : Dict String) :
    Bindings :=
  { standing := context.standing now, named := context.values.merge values, variableNames }

/-- The value of a name; an empty text is none. -/
def named? (b : Bindings) (name : String) : Option String :=
  (b.named.get? name).filter (· != "")

/-- The standing value of a name; an empty text is none. -/
def standing? (b : Bindings) (name : String) : Option String :=
  (b.standing.get? name).filter (· != "")

/-- A token's value in place of it, or the token itself, reported as missing. -/
def fill (raw : List Char) (name : String) (value : Option String) : Rendering :=
  match value with
  | some v => { chars := v.toList }
  | none => { chars := raw, missing := [name] }

/-- The rendering of a piece inside the value of a variable: a standing value counts if it is not empty,
else the name does. -/
def renderInner (b : Bindings) : Piece → Rendering
  | .char c => { chars := [c] }
  | .token raw name => fill raw name ((b.standing? name).or (b.named? name))

/-- The value of a token that is not positional: the standing value, also when it is empty, and the named
one if there is no such standing value. -/
def direct? (b : Bindings) (name : String) : Option String :=
  if b.standing.has name then b.standing? name else b.named? name

/-- The rendering of a positional token. -/
def renderPositional (b : Bindings) (raw : List Char) (name : String) (position : Nat) : Rendering :=
  match (if position = 0 then none else b.variableNames[position - 1]?) with
  | none => { chars := raw, undefined := [name] }
  | some asked =>
    let inner := Rendering.ofPieces b.renderInner (Text.piecesOf ((b.named.get? asked).getD "").toList)
    if inner.chars.isEmpty then { chars := raw, missing := inner.missing ++ [name] } else inner

/-- The rendering of a piece of a text. -/
def render (b : Bindings) : Piece → Rendering
  | .char c => { chars := [c] }
  | .token raw name =>
    match Text.digits? name.toList with
    | some position => b.renderPositional raw name position
    | none => fill raw name (b.direct? name)

/-- Replaces the tokens of a text. -/
def resolve (b : Bindings) (text : String) : Resolved :=
  let r := Rendering.ofPieces b.render (Text.piecesOf text.toList)
  { text := String.ofList r.chars, missing := Text.distinct r.missing, undefined := Text.distinct r.undefined }

end Bindings

namespace Context

/-- Replaces the tokens of a text by what the context knows. -/
def resolve (context : Context) (now : Moment) (text : String) : Resolved :=
  (Bindings.ofContext context now [] []).resolve text

/-- Replaces the tokens in all texts of a document. -/
def resolveValue (context : Context) (now : Moment) (v : Value) : Value :=
  v.mapTexts fun s => (context.resolve now s).text

/-- Replaces the tokens in all texts of the values of a dictionary. -/
def resolveFields (context : Context) (now : Moment) (fields : Fields) : Fields :=
  Value.mapFieldTexts (fun s => (context.resolve now s).text) fields

end Context

end Parley
