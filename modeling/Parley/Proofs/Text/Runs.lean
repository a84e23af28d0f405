import Parley.Text.CaseTable

/-!
# Where the case tables lead

A table of runs moves a character to another one, and what the table of lower cases leads to is in lower case already:
no run holds it (`Parley.Text.Run.move_lowerRuns_idem`). That no run leads to some character at all is told from the
runs one by one (`Parley.Text.Run.move_ne`).
-/

namespace Parley.Text.Run

variable {runs : List Run} {r r' : Run} {n m : Nat}

/-- No other character is moved to one that no run leads to. -/
theorem move_ne (positive : 0 < m) (free : ∀ r ∈ runs, r.holds ((m : Int) - r.shift).toNat = false) (other : n ≠ m) :
    move runs n ≠ m := by
  unfold move
  split
  · rename_i r found
    intro same
    have back : ((m : Int) - r.shift).toNat = n := by omega
    have holds : r.holds n = true := List.find?_some (p := fun r => Run.holds r n) found
    have missed := free r (List.mem_of_find?_eq_some found)
    rw [back, holds] at missed
    cases missed
  · exact other

/-! ### What is moved once -/

/-- Where a run leads from a character. -/
def leads (r : Run) (n : Nat) : Nat := ((n : Int) + r.shift).toNat

/-- Whether the characters of a run all have the same parity. -/
def alternates (r : Run) : Bool := r.stride == 2 || r.first == r.last

/-- Whether a run is beside the characters from `least` to `greatest`, before or behind them, or in their gaps if they
have some. -/
def beside (least greatest : Nat) (gaps : Bool) (r : Run) : Bool :=
  Nat.blt greatest r.first || Nat.blt r.last least || (gaps && r.stride == 2 && (least + r.first) % 2 == 1)

theorem holds_iff : r.holds n = true ↔ r.first ≤ n ∧ n ≤ r.last ∧ (n - r.first) % r.stride = 0 := by
  simp [holds, and_assoc]

/-- A run that is beside the characters to which another one leads holds none of them. -/
theorem holds_eq_false_of_beside (proper : 0 ≤ (r.first : Int) + r.shift)
    (other : beside (r.leads r.first) (r.leads r.last) r.alternates r' = true) (holds : r.holds n = true) :
    r'.holds (r.leads n) = false := by
  obtain ⟨least, greatest, step⟩ := holds_iff.mp holds
  rw [← Bool.not_eq_true]
  intro held
  unfold leads at held
  obtain ⟨least', greatest', step'⟩ := holds_iff.mp held
  simp only [beside, leads, alternates, Bool.or_eq_true, Bool.and_eq_true, Nat.blt_eq, beq_iff_eq] at other
  rcases other with (before | behind) | ⟨⟨even, gaps⟩, odd⟩
  · omega
  · omega
  · rw [gaps] at step'
    -- both characters are an even distance from the first of their runs
    have even_step : (n - r.first) % 2 = 0 := by
      rcases even with two | single
      · rwa [two] at step
      · omega
    omega

/-- No run of the table of lower cases holds a character to which one of them leads. -/
theorem beside_lowerRuns :
    (lowerRuns.all fun r =>
      lowerRuns.all (beside (r.leads r.first) (r.leads r.last) r.alternates)) = true := by
  decide +kernel

/-- **A lower case is in lower case already.** -/
theorem move_lowerRuns_idem (n : Nat) : move lowerRuns (move lowerRuns n) = move lowerRuns n := by
  cases found : lowerRuns.find? fun r => r.holds n with
  | none =>
    have unmoved : move lowerRuns n = n := by rw [move, found]
    rw [unmoved, unmoved]
  | some r =>
    have mem := List.mem_of_find?_eq_some found
    have holds : r.holds n = true := List.find?_some (p := fun r => Run.holds r n) found
    have proper : ∀ r ∈ lowerRuns, 0 ≤ (r.first : Int) + r.shift := by decide +kernel
    have moved : move lowerRuns n = r.leads n := by rw [move, found]; rfl
    have free : (lowerRuns.find? fun r' => r'.holds (r.leads n)) = none := by
      refine List.find?_eq_none.mpr fun r' mem' => ?_
      rw [Bool.not_eq_true]
      have other := List.all_eq_true.mp (List.all_eq_true.mp beside_lowerRuns r mem) r' mem'
      exact holds_eq_false_of_beside (proper r mem) other holds
    rw [moved, move, free]

end Parley.Text.Run
