import Parley.Proofs.Foremost
import Parley.Text.Search

/-!
# Texts without repetition

Of equal texts only the first is listed. Two lists after one another give the same list whether or not their own
repetitions are left out before (`Parley.Text.distinct_append`).
-/

namespace Parley

/-! ### Leaving out repetitions -/

section EraseDups

variable {α : Type} [BEq α] [LawfulBEq α] {l : List α} {a : α}

theorem eraseDups_concat_of_mem (mem : a ∈ l) : (l ++ [a]).eraseDups = l.eraseDups := by
  rw [List.eraseDups_append, List.removeAll, List.filter_cons_of_neg (by simpa using mem)]
  exact List.append_nil _

theorem eraseDups_concat_of_not_mem (new : a ∉ l) : (l ++ [a]).eraseDups = l.eraseDups ++ [a] := by
  rw [List.eraseDups_append, List.removeAll, List.filter_cons_of_pos (by simpa using new)]
  rfl

theorem eraseDups_eraseDups (l : List α) : l.eraseDups.eraseDups = l.eraseDups := by
  induction l using List.reverseRecOn with
  | nil => rfl
  | append_singleton l a ih =>
    by_cases mem : a ∈ l
    · rw [eraseDups_concat_of_mem mem, ih]
    · rw [eraseDups_concat_of_not_mem mem, eraseDups_concat_of_not_mem (mt List.mem_eraseDups.mp mem), ih]

/-- Of two lists after one another the repetitions may be left out before. -/
theorem eraseDups_append_eraseDups (l m : List α) :
    (l.eraseDups ++ m.eraseDups).eraseDups = (l ++ m).eraseDups := by
  induction m using List.reverseRecOn with
  | nil => rw [List.eraseDups_nil, List.append_nil, List.append_nil, eraseDups_eraseDups]
  | append_singleton m a ih =>
    -- the last element counts if it is in neither list, whatever was left out
    have same : a ∈ l.eraseDups ++ m.eraseDups ↔ a ∈ l ++ m := by
      simp only [List.mem_append, List.mem_eraseDups]
    by_cases before : a ∈ m
    · rw [eraseDups_concat_of_mem before, ih, ← List.append_assoc,
        eraseDups_concat_of_mem (List.mem_append_right l before)]
    · rw [eraseDups_concat_of_not_mem before, ← List.append_assoc, ← List.append_assoc]
      by_cases mem : a ∈ l ++ m
      · rw [eraseDups_concat_of_mem mem, eraseDups_concat_of_mem (same.mpr mem), ih]
      · rw [eraseDups_concat_of_not_mem mem, eraseDups_concat_of_not_mem (mt same.mp mem), ih]

end EraseDups

namespace Text

variable {texts : List String} {t : String}

/-- The texts without repetition are the foremost of equal ones. -/
theorem distinct_eq_foremost (texts : List String) : distinct texts = foremost (· == ·) texts := by
  have step : (fun (seen : List String) t => if seen.contains t then seen else seen ++ [t]) =
      choose (· == ·) := by
    funext seen t
    rw [choose, List.contains_eq_any_beq]
  rw [distinct, foremost, step]

theorem nodup_distinct (texts : List String) : (distinct texts).Nodup := by
  rw [distinct_eq_foremost]
  exact pairwise_foremost.imp fun other => (beq_eq_false_iff_ne.mp other).symm

theorem mem_of_mem_distinct (mem : t ∈ distinct texts) : t ∈ texts := by
  rw [distinct_eq_foremost] at mem
  exact mem_of_mem_foremost mem

/-- **The first of equal texts, in order.** -/
theorem distinct_eq_eraseDups (texts : List String) : distinct texts = texts.eraseDups := by
  induction texts using List.reverseRecOn with
  | nil => rfl
  | append_singleton texts t ih =>
    rw [distinct, List.foldl_append, ← distinct, ih, List.foldl_cons, List.foldl_nil]
    by_cases before : t ∈ texts
    · rw [eraseDups_concat_of_mem before, if_pos (List.contains_iff_mem.mpr (List.mem_eraseDups.mpr before))]
    · rw [eraseDups_concat_of_not_mem before,
        if_neg (mt List.contains_iff_mem.mp (mt List.mem_eraseDups.mp before))]

/-- Of two lists after one another the repetitions may be left out before. -/
theorem distinct_append (texts more : List String) :
    distinct (texts ++ more) = (distinct texts ++ distinct more).eraseDups := by
  rw [distinct_eq_eraseDups, distinct_eq_eraseDups, distinct_eq_eraseDups, eraseDups_append_eraseDups]

end Text

end Parley
