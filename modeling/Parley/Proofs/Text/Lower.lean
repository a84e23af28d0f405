import Mathlib.Data.List.Basic
import Parley.Text.Case
import Parley.Text.Search

/-!
# Lower case inside a text

The lower case of a text is put together from its characters, with one exception: a capital sigma is written in
another way at the end of a word, and where a word ends can depend on what stands before and behind. So a part of
a text has the lower case that it has by itself just if none of its capital sigmas comes to the end of a word, or
away from it, by what surrounds it (`Parley.Text.steady_iff`).

A text that can be disturbed in this way is not found again by its lower case: there is a text in which it stands
and whose lower case does not have its lower case in it (`Parley.Text.standsFast_of_lower_infix`).
-/

namespace Parley.Text

variable {before part after cs rest : List Char} {inWord goesOn : Bool}

theorem toList_lower (s : String) : (lower s).toList = lowerFrom false s.toList := String.toList_ofList

/-! ### Where words end -/

/-- Whether a word goes on after the characters, if `inWord` tells whether they begin in one. -/
def inWordAfter (inWord : Bool) (cs : List Char) : Bool :=
  cs.foldl (fun inWord c => if isIgnorable c then inWord else isCased c) inWord

/-- Whether a word goes on in the characters, or behind them if all of them are passed over. -/
def goesOnIn (goesOn : Bool) (cs : List Char) : Bool :=
  match cs.find? fun c => !isIgnorable c with
  | some c => isCased c
  | none => goesOn

/-- Whether a word ends between the characters. -/
def endsWord (before after : List Char) : Bool := inWordAfter false before && !wordGoesOn after

theorem inWordAfter_append (inWord : Bool) (before after : List Char) :
    inWordAfter inWord (before ++ after) = inWordAfter (inWordAfter inWord before) after :=
  List.foldl_append

theorem wordGoesOn_eq (cs : List Char) : wordGoesOn cs = goesOnIn false cs := rfl

theorem goesOnIn_append (goesOn : Bool) (cs rest : List Char) :
    goesOnIn goesOn (cs ++ rest) = goesOnIn (goesOnIn goesOn rest) cs := by
  unfold goesOnIn
  rw [List.find?_append]
  rcases cs.find? fun c => !isIgnorable c with _ | c
  · rw [Option.none_or]
  · rfl

/-- If a word goes on after the characters by themselves, it does wherever they stand. -/
theorem inWordAfter_of_false (inside : inWordAfter false cs = true) (inWord : Bool) :
    inWordAfter inWord cs = true := by
  induction cs generalizing inWord with
  | nil => cases inside
  | cons c cs ih =>
    unfold inWordAfter at ih inside ⊢
    rw [List.foldl_cons] at inside ⊢
    by_cases ignorable : isIgnorable c = true
    · rw [if_pos ignorable] at inside ⊢
      exact ih inside inWord
    · rwa [if_neg ignorable] at inside ⊢

/-- If no word goes on after the characters behind a letter, none does wherever they stand. -/
theorem inWordAfter_of_true (outside : inWordAfter true cs = false) (inWord : Bool) :
    inWordAfter inWord cs = false := by
  cases inWord with
  | true => exact outside
  | false =>
    rw [← Bool.not_eq_true] at outside ⊢
    exact fun inside => outside (inWordAfter_of_false inside true)

/-- If a word goes on in the characters by themselves, it does wherever they stand. -/
theorem goesOnIn_of_false (inside : goesOnIn false cs = true) (goesOn : Bool) : goesOnIn goesOn cs = true := by
  unfold goesOnIn at inside ⊢
  split at inside
  · exact inside
  · cases inside

/-- If no word goes on in the characters before a letter, none does wherever they stand. -/
theorem goesOnIn_of_true (outside : goesOnIn true cs = false) (goesOn : Bool) : goesOnIn goesOn cs = false := by
  unfold goesOnIn at outside ⊢
  split at outside
  · exact outside
  · cases outside

/-! ### The lower case of a part -/

/-- The small sigma at the end of a word. -/
def finalSigma : Char := Char.ofNat 0x3C2

/-- The lower case of a character, where `final` tells whether it is at the end of a word. -/
def lowerAt (final : Bool) (c : Char) : List Char :=
  if c == capitalSigma && final then [finalSigma] else lowerChar c

/-- The character of a number has this number, or the number is that of no character and stands for zero. -/
theorem toNat_ofNat_cases (n : Nat) : (Char.ofNat n).toNat = n ∨ Char.ofNat n = Char.ofNat 0 := by
  by_cases valid : n.isValidChar
  · left
    rw [Char.ofNat, dif_pos valid]
    rfl
  · right
    rw [Char.ofNat, dif_neg valid]
    rfl

/-- **The ways in which a character gets its lower case.** -/
inductive LowersTo (c : Char) : List Char → Prop
  | sigma : LowersTo c [finalSigma]
  | dotted : LowersTo c [Char.ofNat 0x69, Char.ofNat 0x307]
  | capital (least : 65 ≤ c.toNat) (greatest : c.toNat ≤ 90) : LowersTo c [Char.ofNat (c.toNat + 32)]
  | plain (low : c.toNat < 128) (small : ¬(65 ≤ c.toNat ∧ c.toNat ≤ 90)) : LowersTo c [c]
  | moved (high : 128 ≤ c.toNat) (undotted : c.toNat ≠ 0x130) :
      LowersTo c [Char.ofNat (Run.move lowerRuns c.toNat)]

theorem lowersTo_lowerAt (final : Bool) (c : Char) : LowersTo c (lowerAt final c) := by
  unfold lowerAt
  split
  · exact .sigma
  · simp only [lowerChar]
    split
    · rename_i low
      split
      · rename_i capital
        simp only [Bool.and_eq_true, decide_eq_true_eq] at capital
        exact .capital capital.1 capital.2
      · rename_i small
        exact .plain low (by simpa using small)
    · rename_i high
      split
      · exact .dotted
      · rename_i undotted
        exact .moved (Nat.not_lt.mp high) undotted

theorem lowerAt_ne_nil (final : Bool) (c : Char) : lowerAt final c ≠ [] := by
  have ways := lowersTo_lowerAt final c
  generalize lowerAt final c = lowered at ways ⊢
  cases ways <;> exact List.cons_ne_nil _ _

/-- The lower case of characters inside a text, where `inWord` and `goesOn` tell whether a word goes on before and
behind them. -/
def lowerWithin (inWord goesOn : Bool) : List Char → List Char
  | [] => []
  | c :: rest =>
    lowerAt (inWord && !goesOnIn goesOn rest) c ++
      lowerWithin (if isIgnorable c then inWord else isCased c) goesOn rest

theorem lowerFrom_eq (inWord : Bool) (cs : List Char) : lowerFrom inWord cs = lowerWithin inWord false cs := by
  induction cs generalizing inWord with
  | nil => rfl
  | cons c rest ih =>
    rw [lowerFrom, lowerWithin, ih, lowerAt, wordGoesOn_eq, Bool.and_assoc]
    rfl

theorem lowerWithin_append (inWord goesOn : Bool) (cs rest : List Char) :
    lowerWithin inWord goesOn (cs ++ rest) =
      lowerWithin inWord (goesOnIn goesOn rest) cs ++ lowerWithin (inWordAfter inWord cs) goesOn rest := by
  induction cs generalizing inWord with
  | nil => rfl
  | cons c cs ih =>
    rw [List.cons_append, lowerWithin, lowerWithin, ih, goesOnIn_append, List.append_assoc]
    rfl

/-- Characters that are lower cases of their own stay as they are. -/
theorem lowerWithin_eq_self (small : ∀ c ∈ cs, ∀ final, lowerAt final c = [c]) (inWord goesOn : Bool) :
    lowerWithin inWord goesOn cs = cs := by
  induction cs generalizing inWord with
  | nil => rfl
  | cons c rest ih =>
    rw [lowerWithin, small c List.mem_cons_self, ih fun d mem => small d (List.mem_cons_of_mem c mem),
      List.singleton_append]

/-- The lower case of a text is made of those of its characters. -/
theorem exists_of_mem_lowerWithin {d : Char} (mem : d ∈ lowerWithin inWord goesOn cs) :
    ∃ c ∈ cs, ∃ final, d ∈ lowerAt final c := by
  induction cs generalizing inWord with
  | nil => exact absurd mem List.not_mem_nil
  | cons c rest ih =>
    rw [lowerWithin] at mem
    rcases List.mem_append.mp mem with here | later
    · exact ⟨c, List.mem_cons_self, _, here⟩
    · obtain ⟨e, there, final, mem⟩ := ih later
      exact ⟨e, List.mem_cons_of_mem c there, final, mem⟩

/-- **The lower case of a text in three parts.** -/
theorem lowerFrom_between (before part after : List Char) :
    lowerFrom false (before ++ (part ++ after)) =
      lowerWithin false (wordGoesOn (part ++ after)) before ++
        (lowerWithin (inWordAfter false before) (wordGoesOn after) part ++
          lowerFrom (inWordAfter false (before ++ part)) after) := by
  rw [lowerFrom_eq, lowerFrom_eq, lowerWithin_append, lowerWithin_append, inWordAfter_append]
  rfl

/-! ### When a part keeps its lower case -/

/-- A capital sigma has two lower cases, both of one character. -/
theorem lowerChar_capitalSigma : ∃ c, lowerChar capitalSigma = [c] ∧ c ≠ finalSigma :=
  ⟨Char.ofNat 0x3C3, by decide +kernel, by decide⟩

theorem length_lowerAt (final : Bool) (c : Char) : (lowerAt final c).length = (lowerChar c).length := by
  unfold lowerAt
  split
  · rename_i sigma
    obtain ⟨small, lowered, -⟩ := lowerChar_capitalSigma
    rw [beq_iff_eq.mp (Bool.and_eq_true_iff.mp sigma).1, lowered]
    rfl
  · rfl

theorem lowerAt_eq_iff {final final' : Bool} {c : Char} :
    lowerAt final c = lowerAt final' c ↔ (c = capitalSigma → final = final') := by
  unfold lowerAt
  by_cases sigma : c = capitalSigma
  · obtain ⟨small, lowered, other⟩ := lowerChar_capitalSigma
    rw [sigma, lowered, beq_self_eq_true]
    cases final <;> cases final' <;> simp [other, other.symm]
  · simp [sigma]

/-- What surrounds it does not change how long the lower case of a part is. -/
theorem length_lowerWithin (inWord inWord' goesOn goesOn' : Bool) (cs : List Char) :
    (lowerWithin inWord goesOn cs).length = (lowerWithin inWord' goesOn' cs).length := by
  induction cs generalizing inWord inWord' with
  | nil => rfl
  | cons c cs ih =>
    rw [lowerWithin, lowerWithin, List.length_append, List.length_append, length_lowerAt, length_lowerAt, ih]

/-- Two surroundings give a part the same lower case just if its capital sigmas stand at the end of a word in both
or in none. -/
theorem lowerWithin_eq_iff {inWord inWord' goesOn goesOn' : Bool} {cs : List Char} :
    lowerWithin inWord goesOn cs = lowerWithin inWord' goesOn' cs ↔
      ∀ left right, cs = left ++ capitalSigma :: right →
        (inWordAfter inWord left && !goesOnIn goesOn right) =
          (inWordAfter inWord' left && !goesOnIn goesOn' right) := by
  induction cs generalizing inWord inWord' with
  | nil => simp [lowerWithin]
  | cons c cs ih =>
    have split : lowerWithin inWord goesOn (c :: cs) = lowerWithin inWord' goesOn' (c :: cs) ↔
        lowerAt (inWord && !goesOnIn goesOn cs) c = lowerAt (inWord' && !goesOnIn goesOn' cs) c ∧
          lowerWithin (if isIgnorable c then inWord else isCased c) goesOn cs =
            lowerWithin (if isIgnorable c then inWord' else isCased c) goesOn' cs := by
      refine ⟨fun same => List.append_inj same ?_, fun ⟨first, later⟩ => ?_⟩
      · rw [length_lowerAt, length_lowerAt]
      · rw [lowerWithin, lowerWithin, first, later]
    rw [split, lowerAt_eq_iff, ih]
    constructor
    · rintro ⟨first, later⟩ left right eq
      rcases left with _ | ⟨d, left⟩
      · obtain ⟨rfl, rfl⟩ := List.cons.inj eq
        exact first rfl
      · obtain ⟨rfl, rfl⟩ := List.cons.inj eq
        exact later left right rfl
    · intro every
      refine ⟨fun sigma => every [] cs (by rw [sigma, List.nil_append]), fun left right eq => ?_⟩
      exact every (c :: left) right (by rw [eq, List.cons_append])

/-- None of the capital sigmas of a part comes to the end of a word, or away from it, by what stands before and
behind the part. -/
def Steady (before part after : List Char) : Prop :=
  ∀ left right, part = left ++ capitalSigma :: right →
    endsWord (before ++ left) (right ++ after) = endsWord left right

/-- **When a part keeps its lower case.** -/
theorem steady_iff :
    Steady before part after ↔
      lowerWithin (inWordAfter false before) (wordGoesOn after) part = lowerFrom false part := by
  rw [lowerFrom_eq, lowerWithin_eq_iff]
  simp only [Steady, endsWord, inWordAfter_append, wordGoesOn_eq, goesOnIn_append]

/-! ### Finding a part by its lower case -/

theorem occursIn_iff {needle cs : List Char} : occursIn needle cs = true ↔ needle <:+: cs := by
  induction cs with
  | nil => rw [occursIn, List.isEmpty_iff, List.infix_nil]
  | cons c cs ih => rw [occursIn, Bool.or_eq_true, List.isPrefixOf_iff_prefix, ih, List.infix_cons_iff]

theorem contains_iff {text needle : String} : contains text needle = true ↔ needle.toList <:+: text.toList :=
  occursIn_iff

/-- **A part that keeps its lower case is found by it.** -/
theorem Steady.lower_infix (h : Steady before part after) :
    lowerFrom false part <:+: lowerFrom false (before ++ (part ++ after)) := by
  rw [lowerFrom_between, steady_iff.mp h]
  exact List.infix_append' _ _ _

/-- **A part at the beginning is found there just if it keeps its lower case.** -/
theorem lower_prefix_iff : lowerFrom false part <+: lowerFrom false (part ++ after) ↔ Steady [] part after := by
  have lowered : lowerFrom false (part ++ after) =
      lowerWithin (inWordAfter false []) (wordGoesOn after) part ++ lowerFrom (inWordAfter false part) after :=
    lowerFrom_between [] part after
  rw [steady_iff, lowered]
  refine ⟨fun ⟨rest, eq⟩ => (List.append_inj eq ?_).1.symm, fun same => ⟨_, by rw [same]⟩⟩
  rw [lowerFrom_eq, length_lowerWithin]

/-- What is as long as the middle of a text, and neither begins with the one character in front of it nor ends with
the one behind, is found in the text as its middle only. -/
theorem eq_of_infix_between {needle middle front back : List Char} (found : needle <:+: front ++ (middle ++ back))
    (length_eq : needle.length = middle.length) (front_length : front.length ≤ 1) (back_length : back.length ≤ 1)
    (front_free : ∀ c ∈ front, needle.head? ≠ some c) (back_free : ∀ c ∈ back, needle.getLast? ≠ some c) :
    needle = middle := by
  rcases List.eq_nil_or_concat' needle with rfl | ⟨init, last, rfl⟩
  · exact (List.length_eq_zero_iff.mp length_eq.symm).symm
  · obtain ⟨before, after, eq⟩ := found
    have lengths := congrArg List.length eq
    simp only [List.length_append] at lengths length_eq
    rw [List.append_assoc] at eq
    rcases Nat.lt_trichotomy before.length front.length with early | same | late
    · -- its first character is the one in front
      obtain rfl : before = [] := List.length_eq_zero_iff.mp (by omega)
      obtain ⟨c, rfl⟩ : ∃ c, front = [c] := List.length_eq_one_iff.mp (by omega)
      have head := congrArg List.head? eq
      rw [List.nil_append, List.head?_append_of_ne_nil _ (by simp)] at head
      exact absurd head (front_free c (List.mem_singleton_self c))
    · obtain ⟨rfl, rest⟩ := List.append_inj eq same
      exact (List.append_inj rest (by simpa using length_eq)).1
    · -- its last character is the one behind
      obtain rfl : after = [] := List.length_eq_zero_iff.mp (by omega)
      obtain ⟨c, rfl⟩ : ∃ c, back = [c] := List.length_eq_one_iff.mp (by omega)
      have last_eq : some last = some c := by
        simpa [← List.append_assoc] using congrArg List.getLast? eq
      exact absurd (by rw [List.getLast?_concat, last_eq]) (back_free c (List.mem_singleton_self c))

/-- There is more than one small letter. -/
theorem exists_letter (taken : Option Char) :
    ∃ c, taken ≠ some c ∧ isIgnorable c = false ∧ isCased c = true ∧ ∀ final, lowerAt final c = [c] := by
  by_cases first : taken = some 'a'
  · exact ⟨'b', by rw [first]; decide, by decide +kernel, by decide +kernel, by decide +kernel⟩
  · exact ⟨'a', first, by decide +kernel, by decide +kernel, by decide +kernel⟩

/-- At most one letter is needed in front for a word to go on or not. -/
theorem exists_front (inWord : Bool) (taken : Option Char) :
    ∃ front, inWordAfter false front = inWord ∧ (∀ goesOn, lowerWithin false goesOn front = front) ∧
      front.length ≤ 1 ∧ ∀ c ∈ front, taken ≠ some c := by
  rcases inWord with _ | _
  · exact ⟨[], rfl, fun _ => rfl, Nat.zero_le 1, fun c mem => absurd mem List.not_mem_nil⟩
  · obtain ⟨x, free, counts, cased, small⟩ := exists_letter taken
    refine ⟨[x], ?_, fun _ => ?_, Nat.le_refl 1, fun c mem => List.mem_singleton.mp mem ▸ free⟩
    · rw [inWordAfter, List.foldl_cons, List.foldl_nil, counts, cased]
      rfl
    · rw [lowerWithin, small]
      rfl

/-- At most one letter is needed behind for a word to go on or not. -/
theorem exists_back (goesOn : Bool) (taken : Option Char) :
    ∃ back, wordGoesOn back = goesOn ∧ (∀ inWord, lowerFrom inWord back = back) ∧
      back.length ≤ 1 ∧ ∀ c ∈ back, taken ≠ some c := by
  rcases goesOn with _ | _
  · exact ⟨[], rfl, fun _ => rfl, Nat.zero_le 1, fun c mem => absurd mem List.not_mem_nil⟩
  · obtain ⟨x, free, counts, cased, small⟩ := exists_letter taken
    refine ⟨[x], ?_, fun _ => ?_, Nat.le_refl 1, fun c mem => List.mem_singleton.mp mem ▸ free⟩
    · rw [wordGoesOn, List.find?_cons_of_pos (by rw [counts]; rfl)]
      exact cased
    · rw [lowerFrom_eq, lowerWithin, small]
      rfl

/-- A text tells by itself which of its capital sigmas end a word: behind each of them the word goes on in the text,
or none comes before it, or one does and ends there. -/
def StandsFast (part : List Char) : Prop :=
  ∀ left right, part = left ++ capitalSigma :: right →
    goesOnIn false right = true ∨ inWordAfter true left = false ∨
      (inWordAfter false left = true ∧ goesOnIn true right = false)

/-- **Which texts keep their lower case everywhere.** -/
theorem standsFast_iff : StandsFast part ↔ ∀ before after, Steady before part after := by
  simp only [StandsFast, Steady, endsWord, inWordAfter_append, wordGoesOn_eq, goesOnIn_append]
  constructor
  · intro decided before after left right eq
    rcases decided left right eq with behind | ahead | ⟨begun, ended⟩
    · rw [goesOnIn_of_false behind, behind, Bool.not_true, Bool.and_false, Bool.and_false]
    · rw [inWordAfter_of_true ahead, inWordAfter_of_true ahead, Bool.false_and, Bool.false_and]
    · rw [inWordAfter_of_false begun, goesOnIn_of_true ended, begun, goesOnIn_of_true ended false]
  · intro steady left right eq
    have same (inWord goesOn : Bool) :
        (inWordAfter inWord left && !goesOnIn goesOn right) = (inWordAfter false left && !goesOnIn false right) := by
      obtain ⟨before, rfl, -⟩ := exists_front inWord none
      obtain ⟨after, rfl, -⟩ := exists_back goesOn none
      exact steady before after left right eq
    cases behind : goesOnIn false right with
    | true => exact .inl rfl
    | false =>
      cases ahead : inWordAfter true left with
      | false => exact .inr (.inl rfl)
      | true =>
        -- with a letter in front the sigma ends a word, so it does by itself and with a letter behind, too
        have final := same true false
        have final' := same true true
        rw [← final, ahead, behind] at final'
        rw [ahead, behind] at final
        exact .inr (.inr ⟨by simpa using final.symm, by simpa using final'⟩)

/-- **Only a part that always keeps its lower case is always found by it.** -/
theorem standsFast_of_lower_infix
    (found : ∀ before after, lowerFrom false part <:+: lowerFrom false (before ++ (part ++ after))) :
    StandsFast part := by
  refine standsFast_iff.mpr fun before after => ?_
  -- a letter in front and one behind, not to be taken for the ends of the part, are all it takes to disturb it
  obtain ⟨front, front_state, front_lower, front_length, front_free⟩ :=
    exists_front (inWordAfter false before) (lowerFrom false part).head?
  obtain ⟨back, back_state, back_lower, back_length, back_free⟩ :=
    exists_back (wordGoesOn after) (lowerFrom false part).getLast?
  have placed := found front back
  rw [lowerFrom_between, front_lower, back_lower, front_state, back_state] at placed
  rw [steady_iff]
  refine (eq_of_infix_between placed ?_ front_length back_length front_free back_free).symm
  rw [lowerFrom_eq, length_lowerWithin]

end Parley.Text
