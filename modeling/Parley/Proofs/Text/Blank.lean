import Mathlib.Data.List.TakeWhile
import Parley.Proofs.Text.Lower
import Parley.Proofs.Text.Runs
import Parley.Text.Blank

/-!
# White space around a text

White space has no case, ends every word and is the lower case of nothing else. So a text in lower case with white
space around it is the text in lower case, with the same white space around it (`Parley.Text.lower_padded`), and a
trimmed text still begins and ends with characters that are none when it is in lower case
(`Parley.Text.Trimmed.lower`). What begins and ends so is found in a text with or without white space around it
(`Parley.Text.Trimmed.infix_padded_iff`).
-/

namespace Parley.Text

variable {c : Char} {cs front back blanks needle : List Char}

theorem toList_trim (s : String) : (trim s).toList = trimChars isBlank s.toList := String.toList_ofList

/-! ### White space in the tables -/

/-- The numbers of the characters that are white space. -/
def blankNumbers : List Nat :=
  [9, 10, 11, 12, 13, 28, 29, 30, 31, 32, 0x85, 0xA0, 0x1680, 0x2000, 0x2001, 0x2002, 0x2003, 0x2004, 0x2005,
    0x2006, 0x2007, 0x2008, 0x2009, 0x200A, 0x2028, 0x2029, 0x202F, 0x205F, 0x3000]

theorem isBlank_iff : isBlank c = true ↔ c.toNat ∈ blankNumbers := by
  simp only [isBlank, blankNumbers, Bool.or_eq_true, Bool.and_eq_true, decide_eq_true_eq, beq_iff_eq,
    List.mem_cons, List.not_mem_nil, or_false]
  omega

theorem isIgnorable_of_isBlank (blank : isBlank c = true) : isIgnorable c = false := by
  have table : ∀ n ∈ blankNumbers, inRanges ignorableRanges n = false := by decide +kernel
  exact table _ (isBlank_iff.mp blank)

theorem isCased_of_isBlank (blank : isBlank c = true) : isCased c = false := by
  have table : ∀ n ∈ blankNumbers, inRanges casedRanges n = false := by decide +kernel
  exact table _ (isBlank_iff.mp blank)

theorem lowerAt_of_isBlank (blank : isBlank c = true) (final : Bool) : lowerAt final c = [c] := by
  have table : ∀ n ∈ blankNumbers, n ≠ 0x3A3 ∧ ¬(65 ≤ n ∧ n ≤ 90) ∧ n ≠ 0x130 ∧ Run.move lowerRuns n = n := by
    decide +kernel
  obtain ⟨no_sigma, no_capital, no_dotted, unmoved⟩ := table _ (isBlank_iff.mp blank)
  have other : c ≠ capitalSigma := fun same => no_sigma (same ▸ rfl)
  unfold lowerAt lowerChar
  simp only [beq_eq_false_iff_ne.mpr other, Bool.false_and, Bool.false_eq_true, if_false, no_dotted, unmoved,
    Char.ofNat_toNat]
  split <;> simp [no_capital]

/-- No run of the table leads to white space. -/
theorem move_not_mem_blankNumbers {n : Nat} (solid : n ∉ blankNumbers) : Run.move lowerRuns n ∉ blankNumbers := by
  have table : ∀ b ∈ blankNumbers, 0 < b ∧ ∀ r ∈ lowerRuns, r.holds ((b : Int) - r.shift).toNat = false := by
    decide +kernel
  intro mem
  obtain ⟨positive, free⟩ := table _ mem
  have other : n ≠ Run.move lowerRuns n := fun same => solid (by rwa [same])
  exact Run.move_ne positive free other rfl

theorem isBlank_ofNat {n : Nat} (solid : n ∉ blankNumbers) : isBlank (Char.ofNat n) = false := by
  rcases toNat_ofNat_cases n with number | zero
  · rw [← Bool.not_eq_true, isBlank_iff, number]
    exact solid
  · rw [zero]
    decide

/-- The lower case of a character that is no white space holds none. -/
theorem isBlank_lowerAt (solid : isBlank c = false) (final : Bool) : ∀ d ∈ lowerAt final c, isBlank d = false := by
  have number : c.toNat ∉ blankNumbers := mt isBlank_iff.mpr (by rw [solid]; exact Bool.false_ne_true)
  have ways := lowersTo_lowerAt final c
  generalize lowerAt final c = lowered at ways ⊢
  cases ways with
  | sigma => exact List.forall_mem_singleton.mpr (by decide)
  | dotted => exact List.forall_mem_cons.mpr ⟨by decide, List.forall_mem_singleton.mpr (by decide)⟩
  | capital least greatest =>
    refine List.forall_mem_singleton.mpr (isBlank_ofNat ?_)
    simp only [blankNumbers, List.mem_cons, List.not_mem_nil, or_false]
    omega
  | plain => exact List.forall_mem_singleton.mpr solid
  | moved => exact List.forall_mem_singleton.mpr (isBlank_ofNat (move_not_mem_blankNumbers number))

/-! ### Lower case -/

theorem lowerWithin_blank (blank : ∀ c ∈ blanks, isBlank c = true) (inWord goesOn : Bool) :
    lowerWithin inWord goesOn blanks = blanks :=
  lowerWithin_eq_self (fun c mem => lowerAt_of_isBlank (blank c mem)) inWord goesOn

/-- No word goes on after white space. -/
theorem inWordAfter_blank (blank : ∀ c ∈ blanks, isBlank c = true) : inWordAfter false blanks = false := by
  induction blanks with
  | nil => rfl
  | cons c rest ih =>
    have here := blank c List.mem_cons_self
    rw [inWordAfter, List.foldl_cons, isIgnorable_of_isBlank here, isCased_of_isBlank here]
    exact ih fun d mem => blank d (List.mem_cons_of_mem c mem)

/-- No word goes on in white space. -/
theorem wordGoesOn_blank (blank : ∀ c ∈ blanks, isBlank c = true) : wordGoesOn blanks = false := by
  rcases blanks with _ | ⟨c, rest⟩
  · rfl
  · have here := blank c List.mem_cons_self
    rw [wordGoesOn, List.find?_cons_of_pos (by rw [isIgnorable_of_isBlank here]; rfl)]
    exact isCased_of_isBlank here

/-- **Lower case leaves the white space around a text as it is.** -/
theorem lower_padded (blank_front : ∀ c ∈ front, isBlank c = true) (blank_back : ∀ c ∈ back, isBlank c = true) :
    lowerFrom false (front ++ (cs ++ back)) = front ++ (lowerFrom false cs ++ back) := by
  rw [lowerFrom_between, lowerWithin_blank blank_front, inWordAfter_blank blank_front, wordGoesOn_blank blank_back,
    ← lowerFrom_eq, lowerFrom_eq _ back, lowerWithin_blank blank_back]

/-! ### Trimmed texts -/

/-- The characters begin and end with one that is no white space. -/
structure Trimmed (cs : List Char) : Prop where
  head : ∃ c, cs.head? = some c ∧ isBlank c = false
  last : ∃ c, cs.getLast? = some c ∧ isBlank c = false

/-- What is left of a text without white space at its ends, unless it is nothing. -/
theorem trimmed_trimChars (some_char : trimChars isBlank cs ≠ []) : Trimmed (trimChars isBlank cs) := by
  have solid_head (l : List Char) (filled : l.dropWhile isBlank ≠ []) :
      ∃ c, (l.dropWhile isBlank).head? = some c ∧ isBlank c = false := by
    have solid := List.head?_dropWhile_not isBlank l
    obtain ⟨c, rest, eq⟩ := List.exists_cons_of_ne_nil filled
    rw [eq] at solid ⊢
    exact ⟨c, rfl, solid⟩
  unfold trimChars at some_char ⊢
  have filled := List.reverse_ne_nil_iff.mp some_char
  constructor
  · -- the first character is what it was before the end was trimmed
    obtain ⟨c, head, solid⟩ := solid_head cs fun nil => filled (by rw [nil]; rfl)
    refine ⟨c, ?_, solid⟩
    obtain ⟨dropped, eq⟩ := List.dropWhile_suffix isBlank (l := (cs.dropWhile isBlank).reverse)
    have same := congrArg List.getLast? eq
    rw [List.getLast?_append_of_ne_nil _ filled, List.getLast?_reverse, head] at same
    rw [List.head?_reverse, same]
  · obtain ⟨c, head, solid⟩ := solid_head _ filled
    exact ⟨c, by rw [List.getLast?_reverse, head], solid⟩

/-- **A trimmed text is trimmed in lower case.** -/
theorem Trimmed.lower (h : Trimmed cs) : Trimmed (lowerFrom false cs) := by
  obtain ⟨⟨c, head, solid⟩, ⟨d, last, solid'⟩⟩ := h
  constructor
  · obtain ⟨rest, rfl⟩ := List.head?_eq_some_iff.mp head
    rw [lowerFrom_eq, lowerWithin, List.head?_append_of_ne_nil _ (lowerAt_ne_nil _ c)]
    obtain ⟨e, more, eq⟩ := List.exists_cons_of_ne_nil (lowerAt_ne_nil (false && !goesOnIn false rest) c)
    exact ⟨e, by rw [eq]; rfl, isBlank_lowerAt solid _ e (eq ▸ List.mem_cons_self)⟩
  · obtain ⟨init, rfl⟩ := List.getLast?_eq_some_iff.mp last
    rw [lowerFrom_eq, lowerWithin_append, lowerWithin, lowerWithin, List.append_nil,
      List.getLast?_append_of_ne_nil _ (lowerAt_ne_nil _ d)]
    have mem := List.getLast_mem (lowerAt_ne_nil (inWordAfter false init && !goesOnIn false []) d)
    exact ⟨_, List.getLast?_eq_some_getLast _, isBlank_lowerAt solid' _ _ mem⟩

/-- What does not begin in the white space in front of a text is found behind it. -/
theorem infix_append_iff_of_head (head : ∃ c, needle.head? = some c ∧ c ∉ front) :
    needle <:+: front ++ cs ↔ needle <:+: cs := by
  obtain ⟨c, begins, outside⟩ := head
  obtain ⟨rest, rfl⟩ := List.head?_eq_some_iff.mp begins
  refine ⟨fun found => ?_, fun found => found.trans (List.suffix_append front cs).isInfix⟩
  rcases List.infix_append_iff.mp found with early | late | ⟨left, right, eq, ends, continues⟩
  · exact absurd (early.mem List.mem_cons_self) outside
  · exact late
  · rcases left with _ | ⟨d, left⟩
    · rw [List.nil_append] at eq
      exact eq ▸ continues.isInfix
    · obtain ⟨rfl, -⟩ := List.cons.inj eq
      exact absurd (ends.mem List.mem_cons_self) outside

/-- **A trimmed text is found with or without white space around.** -/
theorem Trimmed.infix_padded_iff (h : Trimmed needle) (blank_front : ∀ c ∈ front, isBlank c = true)
    (blank_back : ∀ c ∈ back, isBlank c = true) : needle <:+: front ++ (cs ++ back) ↔ needle <:+: cs := by
  obtain ⟨⟨c, head, solid⟩, ⟨d, last, solid'⟩⟩ := h
  rw [infix_append_iff_of_head ⟨c, head, fun mem => by cases solid.symm.trans (blank_front c mem)⟩,
    ← List.reverse_infix, List.reverse_append, infix_append_iff_of_head, List.reverse_infix]
  exact ⟨d, by rw [List.head?_reverse, last],
    fun mem => by cases solid'.symm.trans (blank_back d (List.mem_reverse.mp mem))⟩

/-- **Trimming takes away the white space around a text.** -/
theorem trimChars_padded {p : Char → Bool} (front_out : ∀ c ∈ front, p c = true) (back_out : ∀ c ∈ back, p c = true) :
    trimChars p (front ++ (cs ++ back)) = trimChars p cs := by
  unfold trimChars
  rw [List.dropWhile_append_of_pos front_out, List.dropWhile_append]
  split
  · rename_i nothing
    rw [List.dropWhile_eq_nil_iff.mpr back_out, List.isEmpty_iff.mp nothing]
  · rw [List.reverse_append, List.dropWhile_append_of_pos fun c mem => back_out c (List.mem_reverse.mp mem)]

/-- **A text is what is left of it when it is trimmed**, with white space around. -/
theorem exists_eq_padded (cs : List Char) : ∃ front back, cs = front ++ (trimChars isBlank cs ++ back) ∧
    (∀ c ∈ front, isBlank c = true) ∧ ∀ c ∈ back, isBlank c = true := by
  let tail := (cs.dropWhile isBlank).reverse
  refine ⟨cs.takeWhile isBlank, (tail.takeWhile isBlank).reverse, ?_, fun c => List.mem_takeWhile_imp,
    fun c mem => List.mem_takeWhile_imp (List.mem_reverse.mp mem)⟩
  have ends : trimChars isBlank cs ++ (tail.takeWhile isBlank).reverse = cs.dropWhile isBlank := by
    rw [trimChars, ← List.reverse_append, List.takeWhile_append_dropWhile, List.reverse_reverse]
  rw [ends, List.takeWhile_append_dropWhile]

/-- Nothing is taken away from a trimmed text. -/
theorem Trimmed.trimChars_eq (h : Trimmed cs) : trimChars isBlank cs = cs := by
  have stays {l : List Char} (head : ∃ c, l.head? = some c ∧ isBlank c = false) : l.dropWhile isBlank = l := by
    obtain ⟨c, begins, solid⟩ := head
    obtain ⟨rest, rfl⟩ := List.head?_eq_some_iff.mp begins
    rw [List.dropWhile_cons_of_neg (by rw [solid]; exact Bool.false_ne_true)]
  rw [trimChars, stays h.head, stays (by simpa using h.last), List.reverse_reverse]

end Parley.Text
