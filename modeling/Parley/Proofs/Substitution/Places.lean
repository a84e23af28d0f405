import Mathlib.Data.List.Infix
import Parley.Proofs.Substitution.Pieces

/-!
# The places of tokens

A text is cut into pieces from left to right, but a token is told by its form alone, wherever it stands. The two
agree because tokens never overlap: the only opening braces of a token are its first two characters, so that no
other token begins inside it (`Parley.Text.Spells.token?_inside`).

Hence reading from left to right finds the tokens at all places of a text (`Parley.Text.namesIn_eq`), and a
text may be cut in two wherever no token spans the cut (`Parley.Text.piecesOf_append`) – in particular before
and behind each token.
-/

namespace Parley

namespace Text

variable {name : String} {raw cs rest : List Char} {c : Char}

/-! ### Tokens do not overlap -/

/-- A token begins with an opening brace. -/
theorem token?_cons_of_ne (other : c ≠ '{') : token? (c :: rest) = none := by
  unfold token?
  split
  · rename_i eq
    exact absurd (List.cons.inj eq).1 other
  · rfl

/-- The second character of a token is an opening brace. -/
theorem token?_cons_cons_of_ne {d : Char} (other : c ≠ '{') : token? (d :: c :: rest) = none := by
  unfold token?
  split
  · rename_i eq
    exact absurd (List.cons.inj (List.cons.inj eq).2).1 other
  · rfl

/-- There are no opening braces in a token but the two at its beginning, and they are not all of it. -/
theorem Spells.exists_tail (h : Spells name raw) :
    ∃ c tail, raw = '{' :: '{' :: c :: tail ∧ ∀ d ∈ c :: tail, d ≠ '{' := by
  obtain @⟨before, after, ⟨some_char, proper⟩, blank_before, blank_after⟩ := h
  have free : ∀ d ∈ before ++ (name.toList ++ (after ++ ['}', '}'])), d ≠ '{' := by
    rintro d mem rfl
    simp only [List.mem_append, List.mem_cons, List.not_mem_nil, or_false] at mem
    rcases mem with early | inside | late | brace | brace
    · exact absurd (blank_before _ early) (by decide)
    · exact absurd (proper _ inside) (by decide)
    · exact absurd (blank_after _ late) (by decide)
    · exact absurd brace (by decide)
    · exact absurd brace (by decide)
  have filled : before ++ (name.toList ++ (after ++ ['}', '}'])) ≠ [] := by simp
  obtain ⟨c, tail, eq⟩ := List.exists_cons_of_ne_nil filled
  exact ⟨c, tail, by rw [eq], eq ▸ free⟩

/-- **No token begins inside another one.** -/
theorem Spells.token?_inside {begun left : List Char} (h : Spells name (begun ++ left)) (inside : begun ≠ [])
    (unfinished : left ≠ []) (rest : List Char) : Text.token? (left ++ rest) = none := by
  obtain ⟨c, tail, eq, free⟩ := h.exists_tail
  obtain ⟨e, left, rfl⟩ := List.exists_cons_of_ne_nil unfinished
  rcases begun with _ | ⟨d, _ | ⟨d', begun⟩⟩
  · exact absurd rfl inside
  · -- the second of the two braces: a character behind it is none
    obtain ⟨-, -, rfl⟩ : d = '{' ∧ e = '{' ∧ left = c :: tail := by simpa using eq
    exact token?_cons_cons_of_ne (free c List.mem_cons_self)
  · obtain ⟨-, -, eq⟩ : d = '{' ∧ d' = '{' ∧ begun ++ e :: left = c :: tail := by simpa using eq
    exact token?_cons_of_ne (free e (eq ▸ List.mem_append_right _ List.mem_cons_self))

/-! ### Cutting a text in two -/

/-- No token spans the place at which two texts meet. -/
def Seam (left right : List Char) : Prop :=
  ∀ name raw before after, Spells name raw → before ++ (raw ++ after) = left ++ right →
    before.length + raw.length ≤ left.length ∨ left.length ≤ before.length

variable {left right : List Char}

/-- A seam stays one when something in front is taken away. -/
theorem Seam.of_append {front : List Char} (h : Seam (front ++ left) right) : Seam left right := by
  intro name raw before after spells eq
  have place := h name raw (front ++ before) after spells (by rw [List.append_assoc, eq, List.append_assoc])
  simp only [List.length_append] at place
  omega

/-- If a token begins at a seam or before, it also ends there. -/
theorem Seam.token?_append (h : Seam left right) (some_char : left ≠ []) (plain : token? left = none) :
    token? (left ++ right) = none := by
  refine Option.eq_none_iff_forall_ne_some.mpr fun ⟨found, rest⟩ token => ?_
  obtain ⟨raw, spells, eq⟩ := exists_spells_of_token? token
  have length_pos : 0 < left.length := List.length_pos_iff.mpr some_char
  have fits : raw.length ≤ left.length := by
    have place := h _ raw [] rest spells eq.symm
    simp only [List.length_nil] at place
    omega
  -- then the token stands at the beginning of the text on the left already
  obtain ⟨more, rfl⟩ : raw <+: left :=
    List.prefix_of_prefix_length_le ⟨rest, eq.symm⟩ (List.prefix_append left right) fits
  cases plain.symm.trans (spells.token? more)

/-- **A text may be cut at a seam.** -/
theorem piecesOf_append (h : Seam left right) : piecesOf (left ++ right) = piecesOf left ++ piecesOf right := by
  induction left using pieces_induction with
  | nil => rw [piecesOf_nil, List.nil_append, List.nil_append]
  | token name raw rest spells ih =>
    rw [List.append_assoc, spells.piecesOf, spells.piecesOf, ih h.of_append, List.cons_append]
  | char c rest plain ih =>
    have later : Seam rest right := (show Seam ([c] ++ rest) right from h).of_append
    have plain' : token? (c :: (rest ++ right)) = none := h.token?_append (List.cons_ne_nil c rest) plain
    rw [piecesOf_cons plain, List.cons_append, piecesOf_cons plain', ih later, List.cons_append]

/-- No token spans the beginning of another one. -/
theorem Spells.seam_before (h : Spells name raw) (before after : List Char) : Seam before (raw ++ after) := by
  intro name' raw' before' after' spells eq
  rcases Nat.lt_or_ge before'.length before.length with early | late
  · refine .inl (Nat.le_of_not_lt fun spans => ?_)
    obtain ⟨begun, rfl⟩ : before' <+: before :=
      List.prefix_of_prefix_length_le ⟨_, eq⟩ (List.prefix_append before _) early.le
    rw [List.append_assoc, List.append_cancel_left_eq] at eq
    obtain ⟨unfinished, rfl⟩ : begun <+: raw' := by
      refine List.prefix_of_prefix_length_le ⟨_, eq.symm⟩ (List.prefix_append raw' _) ?_
      simp only [List.length_append] at spans
      omega
    rw [List.append_assoc, List.append_cancel_left_eq] at eq
    simp only [List.length_append] at early spans
    have plain := spells.token?_inside (List.length_pos_iff.mp (by omega)) (List.length_pos_iff.mp (by omega))
      after'
    cases (eq ▸ plain).symm.trans (h.token? after)
  · exact .inr late

/-- No token spans the end of another one. -/
theorem Spells.seam_after (h : Spells name raw) (after : List Char) : Seam raw after := by
  intro name' raw' before after' spells eq
  rcases Nat.lt_or_ge before.length raw.length with early | late
  · obtain ⟨left, rfl⟩ : before <+: raw :=
      List.prefix_of_prefix_length_le ⟨_, eq⟩ (List.prefix_append raw after) early.le
    rw [List.append_assoc, List.append_cancel_left_eq] at eq
    have token := spells.token? after'
    rcases List.eq_nil_or_concat before with rfl | ⟨begun, c, rfl⟩
    · -- two tokens at one place are the same
      have same : after = after' := by
        have found := (h.token? after).symm.trans ((congrArg Text.token? eq.symm).trans token)
        exact (Prod.mk.inj (Option.some.inj found)).2
      have lengths := congrArg List.length eq
      simp only [List.length_append, same] at lengths
      exact .inl (by simp only [List.nil_append, List.length_nil]; omega)
    · rw [List.length_append] at early
      rw [eq, h.token?_inside (by simp) (List.length_pos_iff.mp (by omega))] at token
      cases token
  · exact .inr late

/-! ### The tokens of a text -/

/-- The name of the token that begins a text. -/
def leadingName? (cs : List Char) : Option String := (token? cs).map fun found => String.ofList found.1

/-- The names of the tokens that begin at any place of a text, from left to right. -/
def namesIn (cs : List Char) : List String := cs.tails.filterMap leadingName?

/-- **The tokens of a text**, by name and from left to right: those that begin at any of its places. -/
def tokenNames (text : String) : List String := namesIn text.toList

theorem leadingName?_eq_some_iff :
    leadingName? cs = some name ↔ ∃ raw rest, Spells name raw ∧ cs = raw ++ rest := by
  constructor
  · intro leads
    obtain ⟨⟨found, rest⟩, token, rfl⟩ := Option.map_eq_some_iff.mp leads
    obtain ⟨raw, spells, eq⟩ := exists_spells_of_token? token
    exact ⟨raw, rest, spells, eq⟩
  · rintro ⟨raw, rest, spells, rfl⟩
    rw [leadingName?, spells.token?, Option.map_some, String.ofList_toList]

/-- **A token of a text stands somewhere in it.** -/
theorem mem_namesIn_iff :
    name ∈ namesIn cs ↔ ∃ before raw after, Spells name raw ∧ before ++ (raw ++ after) = cs := by
  simp only [namesIn, List.mem_filterMap, List.mem_tails, leadingName?_eq_some_iff]
  constructor
  · rintro ⟨_, ⟨before, rfl⟩, raw, after, spells, rfl⟩
    exact ⟨before, raw, after, spells, rfl⟩
  · rintro ⟨before, raw, after, spells, rfl⟩
    exact ⟨raw ++ after, ⟨before, rfl⟩, raw, after, spells, rfl⟩

theorem namesIn_cons_of_none (plain : token? (c :: rest) = none) : namesIn (c :: rest) = namesIn rest := by
  rw [namesIn, List.tails_cons, List.filterMap_cons_none (by rw [leadingName?, plain, Option.map_none]), namesIn]

/-- Behind the beginning of a token there is no other one up to its end. -/
theorem Spells.namesIn_inside {begun left : List Char} (h : Spells name (begun ++ left)) (inside : begun ≠ [])
    (rest : List Char) : namesIn (left ++ rest) = namesIn rest := by
  induction left generalizing begun with
  | nil => rfl
  | cons c left ih =>
    have plain : Text.token? (c :: (left ++ rest)) = none := h.token?_inside inside (List.cons_ne_nil c left) rest
    rw [List.cons_append, namesIn_cons_of_none plain]
    have longer : Spells name ((begun ++ [c]) ++ left) := by rwa [List.append_assoc]
    exact ih longer (by simp)

theorem Spells.namesIn (h : Spells name raw) (rest : List Char) :
    Text.namesIn (raw ++ rest) = name :: Text.namesIn rest := by
  have leads : leadingName? (raw ++ rest) = some name := leadingName?_eq_some_iff.mpr ⟨raw, rest, h, rfl⟩
  obtain ⟨c, tail, rfl⟩ := List.exists_cons_of_ne_nil h.ne_nil
  rw [List.cons_append] at leads
  rw [Text.namesIn, List.cons_append, List.tails_cons, List.filterMap_cons_some leads]
  have begun : Spells name ([c] ++ tail) := h
  exact congrArg _ (begun.namesIn_inside (List.cons_ne_nil _ _) rest)

end Text

/-- The name of a piece that is a token. -/
def Piece.name? : Piece → Option String
  | char _ => none
  | token _ name => some name

namespace Text

/-- **Reading from left to right finds the tokens at all places.** -/
theorem namesIn_eq (cs : List Char) : namesIn cs = (piecesOf cs).filterMap Piece.name? := by
  induction cs using pieces_induction with
  | nil => rw [piecesOf_nil]; rfl
  | token name raw rest spells ih =>
    rw [spells.namesIn, spells.piecesOf, ih]
    rfl
  | char c rest plain ih =>
    rw [namesIn_cons_of_none plain, piecesOf_cons plain, ih]
    rfl

/-- A text without tokens consists of characters. -/
theorem piecesOf_of_namesIn_eq_nil {cs : List Char} (h : namesIn cs = []) : piecesOf cs = cs.map .char := by
  induction cs using pieces_induction with
  | nil => rw [piecesOf_nil, List.map_nil]
  | token name raw rest spells ih =>
    rw [spells.namesIn] at h
    cases h
  | char c rest plain ih =>
    rw [namesIn_cons_of_none plain] at h
    rw [piecesOf_cons plain, ih h, List.map_cons]

end Text

end Parley
