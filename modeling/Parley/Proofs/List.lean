import Mathlib.Data.List.Induction

/-!
# Lists that lose members

Lists of edges, of waiting runs and of turns lose members one at a time or all that fail a test, and are then asked
for those that pass another test. What comes of it depends only on how the two tests lie to each other.
-/

namespace Parley

variable {α : Type} {p q : α → Bool} {l : List α}

/-- A filter that keeps whatever passes a second test makes no difference to the second one. -/
theorem List.filter_filter_of_imp (h : ∀ a ∈ l, q a = true → p a = true) : (l.filter p).filter q = l.filter q := by
  rw [List.filter_filter]
  refine List.filter_congr fun a mem => ?_
  cases hq : q a with
  | false => rfl
  | true => rw [h a mem hq, Bool.and_self]

/-- Erasing the only member that passes a test is keeping the others. -/
theorem List.eraseP_eq_filter (h : l.Pairwise fun a b => ¬(p a = true ∧ p b = true)) :
    l.eraseP p = l.filter fun a => !p a := by
  induction l with
  | nil => rfl
  | cons a l ih =>
    rw [List.pairwise_cons] at h
    cases hp : p a with
    | true =>
      have others : ∀ b ∈ l, (!p b) = true := fun b mem => by
        simpa using fun hb => h.1 b mem ⟨hp, hb⟩
      rw [List.eraseP_cons_of_pos hp, List.filter_cons_of_neg (by simp [hp]), List.filter_eq_self.mpr others]
    | false => rw [List.eraseP_cons_of_neg (by simp [hp]), List.filter_cons_of_pos (by simp [hp]), ih h.2]

/-- A member that is erased is not missed among those that pass a test which it fails. -/
theorem List.filter_eraseP_of_imp (h : ∀ a ∈ l, p a = true → q a = false) : (l.eraseP p).filter q = l.filter q := by
  induction l with
  | nil => rfl
  | cons a l ih =>
    rw [List.forall_mem_cons] at h
    by_cases hp : p a = true
    · rw [List.eraseP_cons_of_pos hp, List.filter_cons_of_neg (by simp [h.1 hp])]
    · rw [List.eraseP_cons_of_neg hp, List.filter_cons, List.filter_cons, ih h.2]

/-- Where a list with one more element can be cut: at the element, or before. -/
theorem List.concat_eq_append_cons {early late : List α} {x z : α} (h : l ++ [z] = early ++ x :: late) :
    (late = [] ∧ x = z ∧ early = l) ∨ ∃ late', late = late' ++ [z] ∧ l = early ++ x :: late' := by
  induction late using List.reverseRecOn with
  | nil =>
    obtain ⟨same, last⟩ := List.append_inj' h rfl
    exact .inl ⟨rfl, (List.singleton_inj.mp last).symm, same.symm⟩
  | append_singleton late' y =>
    rw [← List.cons_append, ← List.append_assoc] at h
    obtain ⟨same, last⟩ := List.append_inj' h rfl
    obtain rfl := List.singleton_inj.mp last
    exact .inr ⟨late', rfl, same⟩

end Parley
