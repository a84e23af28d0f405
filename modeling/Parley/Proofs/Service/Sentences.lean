import Mathlib.Data.List.TakeWhile
import Mathlib.Data.Set.Card
import Parley.Proofs.Text.Distinct
import Parley.Service.Simulated

/-!
# Words and sentences

The simulated service reads texts by single passes over their characters, which carry along the word or the sentence
under way. What the passes find is said here without them. A word is a run of letters and digits that none of the
characters beside it continues (`Parley.Text.IsRun`). The sentences are the pieces between the separators, where a
separator is as much as can be taken at the first place at which anything can (`Parley.Text.Cut`); there is only one way
to cut a text so (`Parley.Text.Cut.eq`), and it is that of the pass (`Parley.Text.cut_iff`).
-/

namespace Parley.Text

variable {p : Char → Bool} {c : Char} {cs run w before piece gap rest after : List Char}
  {P Q : List (List Char)} {ended : Bool}

/-! ### Words -/

/-- **A longest run** of characters satisfying `p` in a text. -/
structure IsRun (p : Char → Bool) (w cs : List Char) : Prop where
  filled : w ≠ []
  inside : ∀ c ∈ w, p c = true
  whole : ∃ before after, cs = before ++ (w ++ after) ∧ (∀ c ∈ before.getLast?, p c = false) ∧
    ∀ c ∈ after.head?, p c = false

/-- Characters satisfying `p` at the front of a text, up to one that does not, are determined by the text. -/
theorem takeWhile_append_of_head (inside : ∀ c ∈ w, p c = true) (ends : ∀ c ∈ after.head?, p c = false) :
    (w ++ after).takeWhile p = w := by
  rw [List.takeWhile_append_of_pos inside]
  rcases after with _ | ⟨c, after⟩
  · exact List.append_nil w
  · rw [List.takeWhile_cons_of_neg (by rw [ends c rfl]; exact Bool.false_ne_true), List.append_nil]

/-- A longest run that begins among characters satisfying `p`, up to one that does not, consists of all of them. -/
theorem eq_of_front {more : List Char} (inside : ∀ c ∈ before ++ more, p c = true)
    (ends : ∀ c ∈ rest.head?, p c = false) (inside' : ∀ c ∈ w, p c = true) (first : ∀ c ∈ before.getLast?, p c = false)
    (last : ∀ c ∈ after.head?, p c = false) (front : w ++ after = more ++ rest) : before = [] ∧ w = more := by
  rcases List.eq_nil_or_concat' before with rfl | ⟨before, d, rfl⟩
  · rw [List.nil_append] at inside
    exact ⟨rfl,
      calc w = (w ++ after).takeWhile p := (takeWhile_append_of_head inside' last).symm
        _ = (more ++ rest).takeWhile p := by rw [front]
        _ = more := takeWhile_append_of_head inside ends⟩
  · -- otherwise the character in front of it would satisfy `p`
    have not_inside := first d (by simp)
    cases not_inside.symm.trans (inside d (by simp))

/-- The longest runs of a text that begins with characters satisfying `p`, up to one that does not. -/
theorem isRun_append_cons (inside : ∀ c ∈ run, p c = true) (outside : p c = false) :
    IsRun p w (run ++ c :: rest) ↔ (w = run ∧ run ≠ []) ∨ IsRun p w rest := by
  have ends : ∀ d ∈ (c :: rest).head?, p d = false := by rintro d ⟨⟩; exact outside
  constructor
  · rintro ⟨filled, inside', before, after, eq, first, last⟩
    rcases List.append_eq_append_iff.mp eq with ⟨more, rfl, behind⟩ | ⟨more, rfl, front⟩
    · -- the character stands in front of the longest run, for it is not in it
      rcases more with _ | ⟨d, more⟩
      · obtain ⟨d, w', rfl⟩ := List.exists_cons_of_ne_nil filled
        obtain ⟨rfl, -⟩ := List.cons.inj behind
        cases outside.symm.trans (inside' c List.mem_cons_self)
      · obtain ⟨rfl, later⟩ := List.cons.inj behind
        refine .inr ⟨filled, inside', more, after, later, fun d mem => first d ?_, last⟩
        rw [List.getLast?_append, List.getLast?_cons, Option.mem_def.mp mem]
        rfl
    · obtain ⟨rfl, rfl⟩ := eq_of_front inside ends inside' first last front
      exact .inl ⟨rfl, filled⟩
  · rintro (⟨rfl, filled⟩ | ⟨filled, inside', before, after, rfl, first, last⟩)
    · exact ⟨filled, inside, [], c :: rest, rfl, fun d mem => absurd mem (by simp), ends⟩
    · refine ⟨filled, inside', run ++ c :: before, after, by simp, fun d mem => ?_, last⟩
      rw [List.getLast?_append, List.getLast?_cons, Option.mem_def, Option.some_or, Option.some_inj] at mem
      cases final : before.getLast? with
      | none =>
        rw [final] at mem
        exact mem ▸ outside
      | some e =>
        rw [final] at mem
        exact mem ▸ first e final

/-- A text all of whose characters satisfy `p` is a longest run itself. -/
theorem isRun_iff_of_inside (inside : ∀ c ∈ run, p c = true) : IsRun p w run ↔ w = run ∧ run ≠ [] := by
  constructor
  · rintro ⟨filled, inside', before, after, rfl, first, last⟩
    have no_more : ∀ c ∈ ([] : List Char).head?, p c = false := by simp
    obtain ⟨rfl, same⟩ := eq_of_front inside no_more inside' first last (List.append_nil _).symm
    rw [List.nil_append, ← same]
    exact ⟨rfl, filled⟩
  · rintro ⟨rfl, filled⟩
    exact ⟨filled, inside, [], [], by simp, by simp, by simp⟩

/-- **The pass finds the longest runs.** -/
theorem mem_runsFrom (inside : ∀ c ∈ run, p c = true) : w ∈ runsFrom p run cs ↔ IsRun p w (run ++ cs) := by
  induction cs generalizing run with
  | nil =>
    rw [List.append_nil, isRun_iff_of_inside inside, runsFrom]
    rcases run with _ | ⟨d, run⟩ <;> simp
  | cons c rest ih =>
    rw [runsFrom]
    cases holds : p c with
    | true =>
      have inside' : ∀ d ∈ run ++ [c], p d = true :=
        List.forall_mem_append.mpr ⟨inside, List.forall_mem_singleton.mpr holds⟩
      rw [if_pos rfl, ih inside', List.append_assoc]
      rfl
    | false =>
      have behind : w ∈ runsFrom p [] rest ↔ IsRun p w rest := ih (List.forall_mem_nil _)
      rw [isRun_append_cons inside holds, if_neg Bool.false_ne_true, ← behind]
      rcases run with _ | ⟨d, run⟩ <;> simp

/-- **A word of a text**: a longest run of letters and digits in the lower case of the text. -/
def IsWord (w s : String) : Prop := IsRun isWordChar w.toList (lower s).toList

theorem mem_wordSet_iff {w s : String} : w ∈ wordSet s ↔ IsWord w s := by
  rw [wordSet, distinct_eq_eraseDups, List.mem_eraseDups, List.mem_map, IsWord]
  constructor
  · rintro ⟨cs, mem, rfl⟩
    rw [String.toList_ofList]
    exact (mem_runsFrom (List.forall_mem_nil _)).mp mem
  · exact fun run => ⟨w.toList, (mem_runsFrom (List.forall_mem_nil _)).mpr run, String.ofList_toList⟩

/-- The number of different words that two texts have in common. -/
noncomputable def commonWords (s t : String) : Nat := {w | IsWord w s ∧ IsWord w t}.ncard

/-! ### Sentences -/

/-- Whether a text ends with the end of a sentence. -/
def closed (before : List Char) : Bool := before.getLast?.any endsSentence

/-- What separates sentences at a place in a text: behind the end of one all the white space that there is, or else all
line ends. -/
def separator (before after : List Char) : List Char :=
  if closed before && !(after.takeWhile isBlank).isEmpty then after.takeWhile isBlank
  else after.takeWhile (· == '\n')

/-- No separator begins inside a piece. -/
def Undivided (before piece after : List Char) : Prop :=
  ∀ left c right, piece = left ++ c :: right → separator (before ++ left) (c :: (right ++ after)) = []

/-- **The pieces of a text** that stands behind `before`: each goes on to the first place at which there is a separator,
behind which the next one begins. -/
inductive Cut : List Char → List Char → List (List Char) → Prop where
  | last {before piece : List Char} (whole : Undivided before piece []) : Cut before piece [piece]
  | cut {before piece gap rest : List Char} {P : List (List Char)} (whole : Undivided before piece (gap ++ rest))
      (here : separator (before ++ piece) (gap ++ rest) = gap) (filled : gap ≠ [])
      (others : Cut (before ++ (piece ++ gap)) rest P) : Cut before (piece ++ (gap ++ rest)) (piece :: P)

theorem closed_concat (before : List Char) (c : Char) : closed (before ++ [c]) = endsSentence c := by
  rw [closed, List.getLast?_concat]
  rfl

/-- What separates at a character. -/
theorem separator_cons (before after : List Char) (c : Char) :
    separator before (c :: after) =
      if closed before && isBlank c then c :: after.takeWhile isBlank
      else if c == '\n' then c :: after.takeWhile (· == '\n') else [] := by
  unfold separator
  cases blank : isBlank c <;> simp [List.takeWhile_cons, blank]

theorem isBlank_of_mem_separator (mem : c ∈ separator before after) : isBlank c = true := by
  unfold separator at mem
  split at mem
  · exact List.mem_takeWhile_imp mem
  · obtain rfl : c = '\n' := by simpa using List.mem_takeWhile_imp mem
    rfl

/-- White space ends no sentence. -/
theorem closed_append_separator (filled : gap ≠ []) (blank : ∀ c ∈ gap, isBlank c = true) :
    closed (before ++ gap) = false := by
  obtain ⟨gap, c, rfl⟩ := (List.eq_nil_or_concat' gap).resolve_left filled
  rw [← List.append_assoc, closed_concat]
  cases ends : endsSentence c with
  | false => rfl
  | true =>
    have mark : c = '.' ∨ c = '!' ∨ c = '?' := by simpa [endsSentence, or_assoc] using ends
    have here := blank c (by simp)
    rcases mark with rfl | rfl | rfl <;> exact absurd here (by decide)

/-- A separator is a part of the text, and the text goes on behind it. -/
theorem exists_eq_separator_append (before after : List Char) :
    ∃ rest, after = separator before after ++ rest := by
  unfold separator
  split <;> exact ⟨_, (List.takeWhile_append_dropWhile).symm⟩

/-! #### The pass over the characters -/

theorem sentencesFrom_blanks (cs : List Char) :
    sentencesFrom .blanks [] cs = sentencesFrom (.inside false) [] (cs.dropWhile isBlank) := by
  induction cs with
  | nil => rfl
  | cons c rest ih =>
    rw [sentencesFrom, List.dropWhile_cons]
    cases blank : isBlank c with
    | true => exact ih
    | false =>
      have no_line : c ≠ '\n' := by rintro rfl; cases blank
      simp [sentencesFrom, no_line]

theorem sentencesFrom_lines (cs : List Char) :
    sentencesFrom .lines [] cs = sentencesFrom (.inside false) [] (cs.dropWhile (· == '\n')) := by
  induction cs with
  | nil => rfl
  | cons c rest ih =>
    rw [sentencesFrom, List.dropWhile_cons]
    by_cases line : c = '\n'
    · simp [line, ih]
    · simp [line, sentencesFrom]

/-- At a separator the piece ends, and the pass begins a new one behind it. -/
theorem sentencesFrom_of_separator (here : separator before (gap ++ rest) = gap) (filled : gap ≠ []) :
    sentencesFrom (.inside (closed before)) piece (gap ++ rest) = piece :: sentencesFrom (.inside false) [] rest := by
  obtain ⟨c, gap, rfl⟩ := List.exists_cons_of_ne_nil filled
  rw [List.cons_append, separator_cons] at here
  rw [List.cons_append, sentencesFrom]
  have behind {q : Char → Bool} (taken : (gap ++ rest).takeWhile q = gap) : (gap ++ rest).dropWhile q = rest := by
    have both := List.takeWhile_append_dropWhile (p := q) (l := gap ++ rest)
    rw [taken] at both
    exact List.append_cancel_left both
  split at here
  · rename_i blank
    rw [if_pos blank, sentencesFrom_blanks, behind (List.cons.inj here).2]
  · rename_i solid
    rw [if_neg solid]
    split at here
    · rename_i line
      rw [if_pos line, sentencesFrom_lines, behind (List.cons.inj here).2]
    · cases here

/-- At any other character the pass goes on. -/
theorem sentencesFrom_of_no_separator (here : separator before (c :: rest) = []) :
    sentencesFrom (.inside (closed before)) piece (c :: rest) =
      sentencesFrom (.inside (endsSentence c)) (piece ++ [c]) rest := by
  rw [separator_cons] at here
  rw [sentencesFrom]
  split at here
  · cases here
  · rename_i solid
    rw [if_neg solid]
    split at here
    · cases here
    · rename_i no_line
      rw [if_neg no_line]

/-- A piece goes on with a character at which there is no separator. -/
theorem Undivided.concat (whole : Undivided before piece (c :: rest))
    (here : separator (before ++ piece) (c :: rest) = []) : Undivided before (piece ++ [c]) rest := by
  intro left d right eq
  rcases List.eq_nil_or_concat' right with rfl | ⟨right, e, rfl⟩
  · obtain ⟨rfl, same⟩ := List.append_inj' eq rfl
    obtain ⟨rfl, -⟩ := List.cons.inj same
    exact here
  · rw [← List.cons_append, ← List.append_assoc] at eq
    obtain ⟨rfl, same⟩ := List.append_inj' eq rfl
    obtain ⟨rfl, -⟩ := List.cons.inj same
    have inside := whole left d right rfl
    rwa [List.append_assoc]

/-- **The pass cuts a text into its pieces.** -/
theorem cut_sentencesFrom (cs : List Char) : ∀ before piece : List Char, Undivided before piece cs →
    Cut before (piece ++ cs) (sentencesFrom (.inside (closed (before ++ piece))) piece cs) := by
  -- behind a separator the pass is much further on, so the induction is on the length of what is left
  induction length : cs.length using Nat.strong_induction_on generalizing cs with
  | _ n ih =>
    subst length
    intro before piece whole
    rcases cs with _ | ⟨c, rest⟩
    · rw [List.append_nil]
      exact .last whole
    · by_cases here : separator (before ++ piece) (c :: rest) = []
      · have next := ih rest.length (Nat.lt_succ_self _) rest rfl before (piece ++ [c]) (whole.concat here)
        rw [sentencesFrom_of_no_separator here, ← closed_concat (before ++ piece) c, List.append_assoc]
        rwa [List.append_assoc] at next
      · obtain ⟨behind, eq⟩ := exists_eq_separator_append (before ++ piece) (c :: rest)
        generalize found : separator (before ++ piece) (c :: rest) = gap at here eq
        rw [eq] at found whole ⊢
        rw [sentencesFrom_of_separator found here]
        have shorter : behind.length < (c :: rest).length := by
          rw [eq, List.length_append]
          have := List.length_pos_iff.mpr here
          omega
        have open_again : closed (before ++ (piece ++ gap)) = false := by
          rw [← List.append_assoc]
          exact closed_append_separator here fun d mem => isBlank_of_mem_separator (found ▸ mem)
        have next := ih behind.length shorter behind rfl (before ++ (piece ++ gap)) []
          fun left d right nothing => by simp at nothing
        rw [List.append_nil, open_again, List.nil_append] at next
        exact .cut whole found here next

/-! #### One way to cut -/

/-- A piece at whose end the text ends or a separator begins is no shorter than another one of the same text. -/
theorem Undivided.prefix_of {other behind : List Char} (whole : Undivided before other behind)
    (stop : after = [] ∨ separator (before ++ piece) after ≠ []) (same : piece ++ after = other ++ behind) :
    other <+: piece := by
  rcases List.append_eq_append_iff.mp same with ⟨more, rfl, continues⟩ | ⟨more, rfl, -⟩
  · rcases more with _ | ⟨c, more⟩
    · rw [List.append_nil]
    · -- otherwise the other piece would go on over the separator
      rcases stop with rfl | stop
      · cases continues
      · exact absurd (whole piece c more rfl) (by rwa [continues, List.cons_append] at stop)
  · exact List.prefix_append _ _

/-- **Where the first piece of a text ends**, and what is left of the text. -/
theorem Undivided.eq {other behind : List Char} (whole : Undivided before piece after)
    (whole' : Undivided before other behind) (stop : after = [] ∨ separator (before ++ piece) after ≠ [])
    (stop' : behind = [] ∨ separator (before ++ other) behind ≠ []) (same : piece ++ after = other ++ behind) :
    piece = other ∧ after = behind := by
  have pieces : piece = other := by
    have le := whole.prefix_of stop' same.symm
    exact le.eq_of_length_le (whole'.prefix_of stop same).length_le
  subst pieces
  exact ⟨rfl, List.append_cancel_left same⟩

/-- **There is one way to cut a text into pieces.** -/
theorem Cut.eq (h : Cut before cs P) (h' : Cut before cs Q) : P = Q := by
  have stops {before gap rest : List Char} (here : separator before (gap ++ rest) = gap) (filled : gap ≠ []) :
      gap ++ rest = [] ∨ separator before (gap ++ rest) ≠ [] := .inr (here.symm ▸ filled)
  induction h generalizing Q with
  | last whole =>
    cases h' with
    | last => rfl
    | cut whole' here filled =>
      obtain ⟨-, nothing⟩ := whole.eq whole' (.inl rfl) (stops here filled) (List.append_nil _)
      exact absurd (List.append_eq_nil_iff.mp nothing.symm).1 filled
  | @cut before piece gap rest P whole here filled others ih =>
    generalize same : piece ++ (gap ++ rest) = cs at h'
    cases h' with
    | last whole' =>
      obtain ⟨-, nothing⟩ := whole.eq whole' (stops here filled) (.inl rfl) (same.trans (List.append_nil _).symm)
      exact absurd (List.append_eq_nil_iff.mp nothing).1 filled
    | cut whole' here' filled' others' =>
      obtain ⟨rfl, behind⟩ := whole.eq whole' (stops here filled) (stops here' filled') same
      -- what separates is the same, so the rest of the text is
      obtain rfl : gap = _ := here.symm.trans ((congrArg _ behind).trans here')
      obtain rfl := List.append_cancel_left behind
      rw [ih others']

/-- **The sentences of a text are its pieces.** -/
theorem cut_iff {s : String} : Cut [] s.toList P ↔ P = (sentences s).map String.toList := by
  have pass : Cut [] s.toList (sentencesFrom (.inside false) [] s.toList) :=
    cut_sentencesFrom s.toList [] [] fun left c right nothing => by simp at nothing
  have texts : (sentences s).map String.toList = sentencesFrom (.inside false) [] s.toList := by
    rw [sentences, List.map_map]
    exact (List.map_congr_left fun cs _ => String.toList_ofList).trans (List.map_id _)
  rw [texts]
  exact ⟨fun h => h.eq pass, fun same => same ▸ pass⟩

/-- Nothing separates inside any of the pieces. -/
theorem Cut.undivided_of_mem (h : Cut before cs P) (mem : piece ∈ P) :
    ∃ before after, Undivided before piece after := by
  induction h with
  | last whole =>
    rw [List.mem_singleton.mp mem]
    exact ⟨_, _, whole⟩
  | cut whole _ _ _ ih =>
    rcases List.mem_cons.mp mem with rfl | later
    · exact ⟨_, _, whole⟩
    · exact ih later

end Parley.Text
