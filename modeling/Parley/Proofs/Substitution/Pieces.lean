import Mathlib.Data.List.TakeWhile
import Parley.Run.Perform

/-!
# The pieces of a text

A text is cut into tokens and single characters. Nothing is lost by this (`Parley.Text.written_piecesOf`), and
no piece is empty. So when each piece is rendered as something, a text that is not empty does not become
empty: a token is replaced by a value that is not empty, or stays as it is written
(`Parley.Bindings.resolve_ne_empty`).

The last section is about a token that is a whole text.
-/

namespace Parley

namespace Text

variable {cs name rest : List Char} {c : Char} {p : Piece}

/-! ### How a token is written -/

/-- A text that can be the name of a token. -/
structure IsName (name : String) : Prop where
  some_char : name ≠ ""
  proper : ∀ c ∈ name.toList, isNameChar c = true

/-- **The form of a token**: a name between double braces, with white space around it if need be. -/
inductive Spells (name : String) : List Char → Prop where
  | intro {before after : List Char} (is_name : IsName name) (blank_before : ∀ c ∈ before, isBlank c = true)
      (blank_after : ∀ c ∈ after, isBlank c = true) :
    Spells name ('{' :: '{' :: (before ++ (name.toList ++ (after ++ ['}', '}']))))

/-- No character of a name is white space. -/
theorem isBlank_eq_false (h : isNameChar c = true) : isBlank c = false := by
  -- all characters of names lie in one stretch of the table, in which no white space is
  have range : 46 ≤ c.toNat ∧ c.toNat ≤ 122 := by
    change (((decide (65 ≤ c.toNat ∧ c.toNat ≤ 90) || (decide (97 ≤ c.toNat) && decide (c.toNat ≤ 122))) ||
      (decide (48 ≤ c.toNat) && decide (c.toNat ≤ 57))) || c == '_' || c == '.') = true at h
    simp only [Bool.or_eq_true, Bool.and_eq_true, decide_eq_true_eq, beq_iff_eq] at h
    rcases h with (((upper | lower) | digit) | rfl) | rfl
    · omega
    · omega
    · omega
    · decide
    · decide
  simp only [isBlank, Bool.or_eq_false_iff, Bool.and_eq_false_iff, decide_eq_false_iff_not,
    beq_eq_false_iff_ne]
  omega

/-- What is left out at the beginning ends before a character that is to be kept. -/
theorem dropWhile_append_cons {q : Char → Bool} {dropped : List Char} (all : ∀ d ∈ dropped, q d = true)
    (kept : q c = false) : (dropped ++ c :: rest).dropWhile q = c :: rest := by
  rw [List.dropWhile_append_of_pos all, List.dropWhile_cons_of_neg (by rw [kept]; exact Bool.false_ne_true)]

/-- What is written like a token is read as one. -/
theorem Spells.token? {name : String} {raw : List Char} (h : Spells name raw) (rest : List Char) :
    Text.token? (raw ++ rest) = some (name.toList, rest) := by
  obtain @⟨before, after, ⟨some_char, proper⟩, blank_before, blank_after⟩ := h
  have filled : name.toList ≠ [] := fun nil => some_char (String.toList_eq_nil_iff.mp nil)
  obtain ⟨first, more, chars⟩ := List.exists_cons_of_ne_nil filled
  -- behind the name stands white space or a brace, and none of them belongs to it
  obtain ⟨c, tail, behind, no_name⟩ : ∃ c tail, after ++ '}' :: '}' :: rest = c :: tail ∧ isNameChar c = false := by
    rcases after with _ | ⟨c, after⟩
    · exact ⟨'}', '}' :: rest, rfl, by decide⟩
    · refine ⟨c, after ++ '}' :: '}' :: rest, rfl, Bool.eq_false_iff.mpr fun proper => ?_⟩
      have blank := blank_after c List.mem_cons_self
      rw [isBlank_eq_false proper] at blank
      cases blank
  have text : before ++ (name.toList ++ (after ++ ['}', '}'])) ++ rest =
      before ++ (name.toList ++ (after ++ '}' :: '}' :: rest)) := by
    simp only [List.append_assoc, List.cons_append, List.nil_append]
  have fromName : (before ++ (name.toList ++ (after ++ '}' :: '}' :: rest))).dropWhile isBlank =
      name.toList ++ (after ++ '}' :: '}' :: rest) := by
    rw [chars, List.cons_append]
    exact dropWhile_append_cons blank_before (isBlank_eq_false (proper first (chars ▸ List.mem_cons_self)))
  have taken : (name.toList ++ (after ++ '}' :: '}' :: rest)).takeWhile isNameChar = name.toList := by
    rw [behind, List.takeWhile_append_of_pos proper,
      List.takeWhile_cons_of_neg (by rw [no_name]; exact Bool.false_ne_true), List.append_nil]
  have dropped : (name.toList ++ (after ++ '}' :: '}' :: rest)).dropWhile isNameChar =
      after ++ '}' :: '}' :: rest := by
    rw [behind]
    exact dropWhile_append_cons proper no_name
  have closing : (after ++ '}' :: '}' :: rest).dropWhile isBlank = '}' :: '}' :: rest :=
    dropWhile_append_cons blank_after (by decide)
  simp only [List.cons_append, Text.token?, text, fromName, taken, dropped, closing,
    List.isEmpty_eq_false_iff.mpr filled, Bool.false_eq_true, if_false]

/-- What is read as a token is written like one. -/
theorem exists_spells_of_token? (h : token? cs = some (name, rest)) :
    ∃ raw, Spells (String.ofList name) raw ∧ cs = raw ++ rest := by
  unfold token? at h
  split at h
  · rename_i inner
    dsimp only at h
    split at h
    · rename_i after closing
      split at h
      · cases h
      · rename_i filled
        cases h
        refine ⟨_, @Spells.intro _ (inner.takeWhile isBlank)
          (((inner.dropWhile isBlank).dropWhile isNameChar).takeWhile isBlank) ⟨?_, ?_⟩ ?_ ?_, ?_⟩
        · exact fun empty => filled (List.isEmpty_iff.mpr (String.ofList_eq_empty_iff.mp empty))
        · rw [String.toList_ofList]
          exact fun c mem => List.mem_takeWhile_imp mem
        · exact fun c mem => List.mem_takeWhile_imp mem
        · exact fun c mem => List.mem_takeWhile_imp mem
        · -- the parts that were taken and dropped in turn are the text
          have parts : inner = inner.takeWhile isBlank ++ ((inner.dropWhile isBlank).takeWhile isNameChar ++
              (((inner.dropWhile isBlank).dropWhile isNameChar).takeWhile isBlank ++ '}' :: '}' :: rest)) := by
            rw [← closing, List.takeWhile_append_dropWhile, List.takeWhile_append_dropWhile,
              List.takeWhile_append_dropWhile]
          rw [String.toList_ofList]
          simpa only [List.cons_append, List.append_assoc, List.nil_append] using
            congrArg (fun inner => '{' :: '{' :: inner) parts
    · cases h
  · cases h

/-! ### Cutting a text -/

theorem piecesOf_nil : piecesOf [] = [] := by
  rw [piecesOf]
  rfl

/-- A token at the beginning is the first piece. -/
theorem Spells.piecesOf {name : String} {raw : List Char} (h : Spells name raw) (rest : List Char) :
    piecesOf (raw ++ rest) = .token raw name :: Text.piecesOf rest := by
  have taken : (raw ++ rest).take ((raw ++ rest).length - rest.length) = raw := by
    rw [List.length_append, Nat.add_sub_cancel, List.take_left]
  rw [Text.piecesOf]
  split
  · rename_i eq
    cases (h.token? rest).symm.trans eq
    rw [taken, String.ofList_toList]
  · rename_i eq
    cases (h.token? rest).symm.trans eq

/-- Where no token begins the first character is a piece. -/
theorem piecesOf_cons (h : token? (c :: rest) = none) : piecesOf (c :: rest) = .char c :: piecesOf rest := by
  rw [piecesOf]
  split
  · rename_i eq
    cases h.symm.trans eq
  · rfl

/-- A property of texts that holds of the empty one, and that a token or a character in front does not
destroy. -/
theorem pieces_induction {motive : List Char → Prop} (nil : motive [])
    (token : ∀ name raw rest, Spells name raw → motive rest → motive (raw ++ rest))
    (char : ∀ c rest, token? (c :: rest) = none → motive rest → motive (c :: rest)) (cs : List Char) :
    motive cs := by
  fun_induction piecesOf cs with
  | case1 cs name rest found ih =>
    obtain ⟨raw, spells, rfl⟩ := exists_spells_of_token? found
    exact token _ raw rest spells ih
  | case2 => exact nil
  | case3 c rest none ih => exact char c rest none ih

theorem Spells.ne_nil {name : String} {raw : List Char} (h : Spells name raw) : raw ≠ [] := by
  cases h
  exact List.cons_ne_nil _ _

/-- **The pieces of a text in a row are the text.** -/
theorem written_piecesOf (cs : List Char) : (piecesOf cs).flatMap Piece.written = cs := by
  induction cs using pieces_induction with
  | nil => rw [piecesOf_nil, List.flatMap_nil]
  | token name raw rest spells ih => rw [spells.piecesOf, List.flatMap_cons, ih, Piece.written]
  | char c rest none ih => rw [piecesOf_cons none, List.flatMap_cons, ih, Piece.written, List.singleton_append]

/-- No piece of a text is empty. -/
theorem written_ne_nil (mem : p ∈ piecesOf cs) : p.written ≠ [] := by
  induction cs using pieces_induction with
  | nil => exact absurd (piecesOf_nil ▸ mem) List.not_mem_nil
  | token name raw rest spells ih =>
    rw [spells.piecesOf] at mem
    rcases List.mem_cons.mp mem with rfl | later
    · exact spells.ne_nil
    · exact ih later
  | char c rest none ih =>
    rw [piecesOf_cons none] at mem
    rcases List.mem_cons.mp mem with rfl | later
    · exact List.cons_ne_nil _ _
    · exact ih later

/-- If no piece becomes empty, a text that is not empty does not. -/
theorem flatMap_piecesOf_ne_nil {f : Piece → List Char} (filled : ∀ p, p.written ≠ [] → f p ≠ [])
    (some_char : cs ≠ []) : (piecesOf cs).flatMap f ≠ [] := by
  intro nothing
  have all_empty := List.flatMap_eq_nil_iff.mp nothing
  cases pieces : piecesOf cs with
  | nil => exact some_char (by rw [← written_piecesOf cs, pieces]; rfl)
  | cons p later =>
    have mem : p ∈ piecesOf cs := pieces ▸ List.mem_cons_self
    exact filled p (written_ne_nil mem) (all_empty p mem)

/-! ### A token alone -/

/-- A name between braces is a token. -/
theorem spells_tokenText {name : String} (h : IsName name) : Spells name (Step.tokenText name).toList := by
  have chars : (Step.tokenText name).toList = '{' :: '{' :: (name.toList ++ ['}', '}']) := by
    simp [Step.tokenText]
  rw [chars]
  exact @Spells.intro _ [] [] h (fun _ mem => absurd mem List.not_mem_nil) fun _ mem => absurd mem List.not_mem_nil

/-- **A token is one piece.** -/
theorem Spells.piecesOf_alone {name : String} {raw : List Char} (h : Spells name raw) :
    Text.piecesOf raw = [.token raw name] := by
  have pieces := h.piecesOf []
  rwa [List.append_nil, piecesOf_nil] at pieces

theorem piecesOf_tokenText {name : String} (h : IsName name) :
    piecesOf (Step.tokenText name).toList = [.token (Step.tokenText name).toList name] :=
  (spells_tokenText h).piecesOf_alone

/-- A number is a name. -/
theorem isName_of_digits? {number : String} {position : Nat} (h : digits? number.toList = some position) :
    IsName number := by
  unfold digits? at h
  split at h
  · cases h
  · rename_i digits
    rw [Bool.or_eq_true, not_or, Bool.not_eq_true', Bool.not_eq_false, List.all_eq_true] at digits
    refine ⟨fun empty => digits.1 (by rw [empty]; rfl), fun c mem => ?_⟩
    rw [isNameChar, Char.isAlphanum, digits.2 c mem, Bool.or_true, Bool.true_or, Bool.true_or]

end Text

/-! ### Rendering a text -/

namespace Rendering

variable (render : Piece → Rendering) (pieces : List Piece)

/-- The rendering of a list of pieces, part by part. -/
theorem ofPieces_eq :
    ofPieces render pieces =
      { chars := pieces.flatMap fun p => (render p).chars
        missing := pieces.flatMap fun p => (render p).missing
        undefined := pieces.flatMap fun p => (render p).undefined } := by
  induction pieces with
  | nil => rfl
  | cons p rest ih =>
    have step : ofPieces render (p :: rest) = (render p).append (ofPieces render rest) := rfl
    rw [step, ih]
    rfl

theorem chars_ofPieces : (ofPieces render pieces).chars = pieces.flatMap fun p => (render p).chars := by
  rw [ofPieces_eq]

theorem missing_ofPieces : (ofPieces render pieces).missing = pieces.flatMap fun p => (render p).missing := by
  rw [ofPieces_eq]

theorem undefined_ofPieces :
    (ofPieces render pieces).undefined = pieces.flatMap fun p => (render p).undefined := by
  rw [ofPieces_eq]

end Rendering

end Parley
