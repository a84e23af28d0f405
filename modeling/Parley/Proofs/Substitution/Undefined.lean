import Mathlib.Data.List.Basic
import Parley.Proofs.Substitution.Values

/-!
# Which tokens are undefined

A positional token is undefined if there is no variable of its number, and this is the only way for a
token to be undefined. So it can be told from the text and the number of variables alone
(`Parley.Bindings.undefined_resolve`): no value has a say in it, neither what the standing and the named
values are nor what is in the values of the variables.
-/

namespace Parley

/-- The name of a piece that is a positional token without a variable, if there are so many variables. -/
def Piece.stray? (count : Nat) : Piece → Option String
  | char _ => none
  | token _ name =>
    match Text.digits? name.toList with
    | some position => if position = 0 ∨ count < position then some name else none
    | none => none

/-- The positional tokens of a text without a variable, if there are so many variables. -/
def Text.strays (count : Nat) (text : String) : List String :=
  distinct ((piecesOf text.toList).filterMap (Piece.stray? count))

namespace Bindings

variable (b : Bindings)

theorem undefined_fill (raw : List Char) (name : String) (value : Option String) :
    (fill raw name value).undefined = [] := by
  cases value <;> rfl

/-- Nothing in the value of a variable is undefined. -/
theorem undefined_inner (pieces : List Piece) :
    (Rendering.ofPieces b.renderInner pieces).undefined = [] := by
  rw [Rendering.undefined_ofPieces, List.flatMap_eq_nil_iff]
  intro p _
  cases p with
  | char c => rfl
  | token raw name => exact undefined_fill raw name _

theorem undefined_renderPositional (raw : List Char) (name : String) (position : Nat) :
    (b.renderPositional raw name position).undefined =
      if position = 0 ∨ b.variableNames.length < position then [name] else [] := by
  unfold renderPositional
  split
  · rename_i missing
    rw [if_pos (b.asked?_eq_none_iff.mp missing)]
  · rename_i name' found
    have there : ¬(position = 0 ∨ b.variableNames.length < position) := by
      rw [← asked?_eq_none_iff, asked?, found]
      exact Option.some_ne_none name'
    rw [if_neg there]
    dsimp only
    split
    · rfl
    · exact b.undefined_inner _

theorem undefined_render (p : Piece) :
    (b.render p).undefined = (p.stray? b.variableNames.length).toList := by
  cases p with
  | char c => rfl
  | token raw name =>
    unfold render Piece.stray?
    dsimp only
    cases Text.digits? name.toList with
    | none => exact undefined_fill raw name _
    | some position =>
      dsimp only
      rw [b.undefined_renderPositional]
      split <;> rfl

/-- **Which tokens of a text are undefined**: the positional ones without a variable, whatever the values. -/
theorem undefined_resolve (text : String) :
    (b.resolve text).undefined = Text.strays b.variableNames.length text := by
  unfold resolve Text.strays
  dsimp only
  rw [Rendering.undefined_ofPieces, List.filterMap_eq_flatMap_toList]
  exact congrArg Text.distinct (List.flatMap_congr fun p _ => b.undefined_render p)

/-- Whether a text is in order is known before its tokens are replaced. -/
theorem ok_resolve (text : String) :
    (b.resolve text).ok = (Text.strays b.variableNames.length text).isEmpty := by
  rw [Resolved.ok, b.undefined_resolve]

end Bindings

end Parley
