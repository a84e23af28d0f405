import Mathlib.Data.List.Induction

/-!
# The first of its rivals

Some of the elements of a list rival each other, and only one of them can be had: each is taken in turn,
unless one that rivals it was taken before. `Parley.foremost` is the list of those that are taken.

What is left out is known by what was taken in its place (`Parley.exists_rival`). A test that does not tell
rivals apart therefore finds the same element in both lists (`Parley.find?_foremost`), and what is taken
stands in the order in which it first came up (`Parley.pairwise_findIdx_foremost`).
-/

namespace Parley

variable {α β : Type} {rival : α → α → Bool} {a : α} {l : List α}

/-- The chosen ones with another one, unless one of them rivals it. -/
def choose (rival : α → α → Bool) (chosen : List α) (a : α) : List α :=
  if chosen.any (rival a) then chosen else chosen ++ [a]

/-- The elements that no earlier choice rivals. -/
def foremost (rival : α → α → Bool) (l : List α) : List α := l.foldl (choose rival) []

theorem choose_of_rival {chosen : List α} {b : α} (mem : b ∈ chosen) (rivals : rival a b = true) :
    choose rival chosen a = chosen :=
  if_pos (List.any_eq_true.mpr ⟨b, mem, rivals⟩)

theorem choose_of_free {chosen : List α} (free : ∀ b ∈ chosen, rival a b = false) :
    choose rival chosen a = chosen ++ [a] := by
  refine if_neg fun taken => ?_
  obtain ⟨b, mem, rivals⟩ := List.any_eq_true.mp taken
  exact Bool.false_ne_true ((free b mem).symm.trans rivals)

theorem foremost_concat : foremost rival (l ++ [a]) = choose rival (foremost rival l) a := by
  rw [foremost, List.foldl_append]
  rfl

/-- What becomes of one more element: it is left out for a rival, or taken. -/
theorem foremost_concat_cases (rival : α → α → Bool) (l : List α) (a : α) :
    (foremost rival (l ++ [a]) = foremost rival l ∧ ∃ b ∈ foremost rival l, rival a b = true) ∨
    (foremost rival (l ++ [a]) = foremost rival l ++ [a] ∧ ∀ b ∈ foremost rival l, rival a b = false) := by
  rw [foremost_concat]
  by_cases taken : ∃ b ∈ foremost rival l, rival a b = true
  · obtain ⟨b, mem, rivals⟩ := taken
    exact .inl ⟨choose_of_rival mem rivals, b, mem, rivals⟩
  · have free : ∀ b ∈ foremost rival l, rival a b = false := fun b mem =>
      Bool.eq_false_iff.mpr fun rivals => taken ⟨b, mem, rivals⟩
    exact .inr ⟨choose_of_free free, free⟩

theorem mem_of_mem_foremost (mem : a ∈ foremost rival l) : a ∈ l := by
  induction l using List.reverseRecOn with
  | nil => exact mem
  | append_singleton l b ih =>
    rcases foremost_concat_cases rival l b with ⟨same, -⟩ | ⟨longer, -⟩
    · exact List.mem_append_left _ (ih (same ▸ mem))
    · rw [longer] at mem
      rcases List.mem_append.mp mem with early | last
      · exact List.mem_append_left _ (ih early)
      · exact List.mem_append_right _ last

/-- No element was taken after a rival. -/
theorem pairwise_foremost : (foremost rival l).Pairwise fun a b => rival b a = false := by
  induction l using List.reverseRecOn with
  | nil => exact .nil
  | append_singleton l b ih =>
    rcases foremost_concat_cases rival l b with ⟨same, -⟩ | ⟨longer, free⟩
    · rwa [same]
    · rw [longer, List.pairwise_append]
      refine ⟨ih, List.pairwise_singleton _ b, fun a mem b' last => ?_⟩
      rw [List.mem_singleton.mp last]
      exact free a mem

/-- Where no element rivals one before it, all are taken. -/
theorem foldl_choose_eq_append {chosen : List α}
    (free : (chosen ++ l).Pairwise fun a b => rival b a = false) :
    l.foldl (choose rival) chosen = chosen ++ l := by
  induction l generalizing chosen with
  | nil => exact (List.append_nil chosen).symm
  | cons a l ih =>
    have before : ∀ b ∈ chosen, rival a b = false := fun b mem =>
      (List.pairwise_append.mp free).2.2 b mem a List.mem_cons_self
    rw [← List.singleton_append, ← List.append_assoc] at free ⊢
    rw [List.singleton_append, List.foldl_cons, choose_of_free before, ih free]

/-- Where every element rivals one that was chosen, none is taken. -/
theorem foldl_choose_eq_self {chosen : List α}
    (taken : ∀ a ∈ l, ∃ b ∈ chosen, rival a b = true) : l.foldl (choose rival) chosen = chosen := by
  induction l with
  | nil => rfl
  | cons a l ih =>
    obtain ⟨b, mem, rivals⟩ := taken a List.mem_cons_self
    rw [List.foldl_cons, choose_of_rival mem rivals]
    exact ih fun a' later => taken a' (List.mem_cons_of_mem a later)

/-! ### What is left out -/

section Reflexive

variable (refl : ∀ a, rival a a = true)

include refl

/-- **What is not taken is left out for a rival.** -/
theorem exists_rival (mem : a ∈ l) : ∃ b ∈ foremost rival l, rival a b = true := by
  induction l using List.reverseRecOn with
  | nil => exact absurd mem List.not_mem_nil
  | append_singleton l c ih =>
    rcases List.mem_append.mp mem with early | last
    · obtain ⟨b, chosen, rivals⟩ := ih early
      rcases foremost_concat_cases rival l c with ⟨same, -⟩ | ⟨longer, -⟩
      · exact ⟨b, same ▸ chosen, rivals⟩
      · exact ⟨b, longer ▸ List.mem_append_left _ chosen, rivals⟩
    · obtain rfl := List.mem_singleton.mp last
      rcases foremost_concat_cases rival l a with ⟨same, b, chosen, rivals⟩ | ⟨longer, -⟩
      · exact ⟨b, same ▸ chosen, rivals⟩
      · exact ⟨a, longer ▸ List.mem_append_right _ List.mem_cons_self, refl a⟩

/-- **What is taken stands in the order in which it first came up**, if it was made from the elements of
another list. -/
theorem pairwise_findIdx_foremost [BEq α] [LawfulBEq α] (make : β → Option α) (offered : List β) :
    (foremost rival (offered.filterMap make)).Pairwise fun a b =>
      offered.findIdx (make · == some a) < offered.findIdx (make · == some b) := by
  induction offered using List.reverseRecOn with
  | nil => exact .nil
  | append_singleton offered c ih =>
    -- what was taken came up before the last one, so that the last one does not count for it
    have early : ∀ a ∈ foremost rival (offered.filterMap make),
        offered.findIdx (make · == some a) < offered.length := by
      intro a mem
      obtain ⟨x, there, made⟩ := List.mem_filterMap.mp (mem_of_mem_foremost mem)
      exact List.findIdx_lt_length_of_exists ⟨x, there, beq_iff_eq.mpr made⟩
    have same : (foremost rival (offered.filterMap make)).Pairwise fun a b =>
        (offered ++ [c]).findIdx (make · == some a) < (offered ++ [c]).findIdx (make · == some b) := by
      refine ih.imp_of_mem fun mem_a mem_b before => ?_
      rwa [List.findIdx_append, List.findIdx_append, if_pos (early _ mem_a), if_pos (early _ mem_b)]
    rw [List.filterMap_append, List.filterMap_cons, List.filterMap_nil]
    cases made : make c with
    | none => rwa [List.append_nil]
    | some x =>
      rcases foremost_concat_cases rival (offered.filterMap make) x with ⟨left_out, -⟩ | ⟨taken, free⟩
      · rwa [left_out]
      · rw [taken, List.pairwise_append]
        refine ⟨same, List.pairwise_singleton _ x, fun a mem b last => ?_⟩
        obtain rfl := List.mem_singleton.mp last
        -- had it come up before, there would be a rival by now
        have fresh : ¬ offered.findIdx (make · == some b) < offered.length := by
          intro found
          obtain ⟨y, there, was⟩ := List.findIdx_lt_length.mp found
          obtain ⟨b', chosen, rivals⟩ :=
            exists_rival refl (List.mem_filterMap.mpr ⟨y, there, beq_iff_eq.mp was⟩)
          exact Bool.false_ne_true ((free b' chosen).symm.trans rivals)
        rw [List.findIdx_append, List.findIdx_append, if_pos (early a mem), if_neg fresh]
        exact Nat.lt_of_lt_of_le (early a mem) (Nat.le_add_left _ _)

end Reflexive

/-- **A test that does not tell rivals apart** finds the same element among those that are taken. -/
theorem find?_foremost {p : α → Bool} (blind : ∀ a b, rival a b = true → p a = p b) :
    (foremost rival l).find? p = l.find? p := by
  induction l using List.reverseRecOn with
  | nil => rfl
  | append_singleton l a ih =>
    rcases foremost_concat_cases rival l a with ⟨same, b, chosen, rivals⟩ | ⟨longer, -⟩
    · rw [same, ih, List.find?_append]
      cases found : l.find? p with
      | some x => rfl
      | none =>
        -- the one that is left out fails the test, as the rival does
        rw [← ih, List.find?_eq_none] at found
        have fails := found b chosen
        rw [← blind a b rivals] at fails
        rw [List.find?_cons_of_neg fails]
        rfl
    · rw [longer, List.find?_append, List.find?_append, ih]

end Parley
