import Parley.Proofs.Text.Lower
import Parley.Proofs.Text.Runs

/-!
# Lower case of what is in lower case

A text in lower case stays as it is when it is put into lower case again (`Parley.Text.lower_lower`): the characters of
a lower case are lower cases of their own, wherever they stand. The small sigmas are among them, so that where words end
does not matter any more. A comma comes of nothing but a comma (`Parley.Text.comma_not_mem_lower`).
-/

namespace Parley.Text

variable {c d : Char} {cs : List Char} {inWord goesOn : Bool}

/-- What is no capital letter of the Latin alphabet and in no run of the table is a lower case of its own. -/
theorem lowerAt_eq_self (small : ¬(65 ≤ c.toNat ∧ c.toNat ≤ 90)) (undotted : c.toNat ≠ 0x130)
    (unmoved : 128 ≤ c.toNat → Run.move lowerRuns c.toNat = c.toNat) (final : Bool) : lowerAt final c = [c] := by
  have other : c ≠ capitalSigma := by
    rintro rfl
    exact absurd (unmoved (by decide)) (by decide +kernel)
  simp only [lowerAt, lowerChar, beq_eq_false_iff_ne.mpr other, Bool.false_and, Bool.false_eq_true, if_false, undotted]
  split
  · rw [if_neg (by simpa using small)]
  · rename_i high
    rw [unmoved (Nat.not_lt.mp high), Char.ofNat_toNat]

/-- Where the table leads is a lower case of its own. -/
theorem lowerAt_move {n : Nat} (undotted : n ≠ 0x130) (final : Bool) :
    lowerAt final (Char.ofNat (Run.move lowerRuns n)) = [Char.ofNat (Run.move lowerRuns n)] := by
  have again := Run.move_lowerRuns_idem n
  have dotless : Run.move lowerRuns n ≠ 0x130 := Run.move_ne (by decide) (by decide +kernel) undotted
  generalize Run.move lowerRuns n = m at again dotless ⊢
  rcases toNat_ofNat_cases m with number | zero
  · have small : ¬(65 ≤ m ∧ m ≤ 90) := by
      have capitals : ∀ k ∈ List.range 91, 65 ≤ k → Run.move lowerRuns k ≠ k := by decide +kernel
      exact fun ⟨least, greatest⟩ => capitals m (List.mem_range.mpr (by omega)) least again
    refine lowerAt_eq_self ?_ ?_ (fun _ => ?_) final <;> rw [number]
    · exact small
    · exact dotless
    · exact again
  · rw [zero]
    exact lowerAt_eq_self (by decide) (by decide) (by decide) final

/-- **The characters of a lower case are lower cases of their own.** -/
theorem lowerAt_of_mem_lowerAt {final : Bool} (mem : d ∈ lowerAt final c) (final' : Bool) : lowerAt final' d = [d] := by
  have ways := lowersTo_lowerAt final c
  generalize lowerAt final c = lowered at ways mem
  cases ways with
  | sigma =>
    cases List.mem_singleton.mp mem
    exact lowerAt_eq_self (by decide) (by decide) (by decide +kernel) final'
  | dotted =>
    rcases List.mem_pair.mp mem with rfl | rfl
    · exact lowerAt_eq_self (by decide) (by decide) (by decide) final'
    · exact lowerAt_eq_self (by decide) (by decide) (by decide +kernel) final'
  | capital least greatest =>
    cases List.mem_singleton.mp mem
    have small : ∀ n ∈ List.range 91, 65 ≤ n → lowerAt final' (Char.ofNat (n + 32)) = [Char.ofNat (n + 32)] := by
      cases final' <;> decide +kernel
    exact small c.toNat (List.mem_range.mpr (by omega)) least
  | plain low small =>
    cases List.mem_singleton.mp mem
    exact lowerAt_eq_self small (by omega) (by omega) final'
  | moved high undotted =>
    cases List.mem_singleton.mp mem
    exact lowerAt_move undotted final'

/-- A comma is the lower case of nothing else. -/
theorem comma_not_mem_lowerAt {final : Bool} (other : c ≠ ',') : ',' ∉ lowerAt final c := by
  have ways := lowersTo_lowerAt final c
  generalize lowerAt final c = lowered at ways ⊢
  have number {n : Nat} (different : n ≠ 44) (comma : ',' = Char.ofNat n) : False := by
    rcases toNat_ofNat_cases n with same | zero
    · exact different (same.symm.trans (congrArg Char.toNat comma.symm))
    · exact absurd (comma.trans zero) (by decide)
  intro mem
  cases ways with
  | sigma => exact absurd mem (by decide)
  | dotted => exact absurd mem (by decide)
  | capital => exact number (by omega) (List.mem_singleton.mp mem)
  | plain => exact other (List.mem_singleton.mp mem).symm
  | moved high =>
    exact number (Run.move_ne (by decide) (by decide +kernel) (by omega)) (List.mem_singleton.mp mem)

theorem comma_not_mem_lower {s : String} (free : ',' ∉ s.toList) : ',' ∉ (lower s).toList := by
  rw [toList_lower, lowerFrom_eq]
  intro mem
  obtain ⟨c, there, final, comma⟩ := exists_of_mem_lowerWithin mem
  exact comma_not_mem_lowerAt (fun same => free (same ▸ there)) comma

/-- **A text in lower case is its own lower case.** -/
theorem lower_lower (s : String) : lower (lower s) = lower s := by
  apply String.toList_injective
  rw [toList_lower, toList_lower, lowerFrom_eq, lowerFrom_eq]
  refine lowerWithin_eq_self (fun d mem => ?_) false false
  obtain ⟨c, -, final, mem⟩ := exists_of_mem_lowerWithin mem
  exact lowerAt_of_mem_lowerAt mem

end Parley.Text
