import Parley.Text.Blank

/-!
# Tokens in text

A *token* is a name between double braces, with white space around it if need be. A text is cut into its
pieces, the tokens and the characters between them, from left to right; the pieces in a row are the text
again.
-/

namespace Parley

/-- A piece of a text. -/
inductive Piece where
  | char (c : Char)
  /-- A token as it is written, and the name in it. -/
  | token (raw : List Char) (name : String)
  deriving DecidableEq, Repr

/-- The piece as it is written. -/
def Piece.written : Piece → List Char
  | char c => [c]
  | token raw _ => raw

namespace Text

/-- Whether a character may stand in the name of a token. -/
def isNameChar (c : Char) : Bool := c.isAlphanum || c == '_' || c == '.'

/-- The name of a token at the beginning of the characters, and what follows the token. -/
def token? (cs : List Char) : Option (List Char × List Char) :=
  match cs with
  | '{' :: '{' :: inner =>
    let fromName := inner.dropWhile isBlank
    let name := fromName.takeWhile isNameChar
    match (fromName.dropWhile isNameChar).dropWhile isBlank with
    | '}' :: '}' :: rest => if name.isEmpty then none else some (name, rest)
    | _ => none
  | _ => none

/-- Leaving characters out at the beginning makes no text longer. -/
theorem length_dropWhile_le (p : Char → Bool) (cs : List Char) :
    (cs.dropWhile p).length ≤ cs.length :=
  (List.dropWhile_suffix p).length_le

/-- What follows a token is shorter than the text. -/
theorem token?_shorter {cs name rest : List Char} (h : token? cs = some (name, rest)) :
    rest.length < cs.length := by
  unfold token? at h
  split at h
  · rename_i inner
    simp only at h
    split at h
    · rename_i tail eq
      split at h
      · cases h
      · simp only [Option.some.injEq, Prod.mk.injEq] at h
        obtain ⟨_, rfl⟩ := h
        have l₁ := length_dropWhile_le isBlank ((inner.dropWhile isBlank).dropWhile isNameChar)
        have l₂ := length_dropWhile_le isNameChar (inner.dropWhile isBlank)
        have l₃ := length_dropWhile_le isBlank inner
        rw [eq] at l₁
        simp only [List.length_cons] at l₁ ⊢
        omega
    · cases h
  · cases h

/-- The pieces of a text. -/
def piecesOf (cs : List Char) : List Piece :=
  match _h : token? cs with
  | some (name, rest) => .token (cs.take (cs.length - rest.length)) (String.ofList name) :: piecesOf rest
  | none =>
    match cs with
    | [] => []
    | c :: rest => .char c :: piecesOf rest
termination_by cs.length
decreasing_by
  · exact token?_shorter _h
  · simp

end Text

end Parley
