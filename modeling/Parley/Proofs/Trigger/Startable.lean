import Parley.Proofs.Graph.Warnings
import Parley.Proofs.Trigger.Padding

/-!
# Graphs that some message starts

A builder is told that an automation has no trigger step if it has neither a trigger step nor a step with keywords.
This is said of the steps, and it is exact for messages (`Parley.Graph.told_noTrigger_iff`): whatever a trigger step
asks for, and whatever keywords steps have, some message fits.

The message that fits is what is asked for, as the builder wrote it. It is compared in lower case and keywords are
trimmed before they are put in lower case, but white space has no part in the lower case of what it surrounds.
-/

namespace Parley

/-! ### Messages that fit -/

namespace Text

/-- A text in lower case is its trimmed lower case, with white space around. -/
theorem exists_lower_eq_padded (s : String) : ∃ front back, lower s = front ++ lower (trim s) ++ back ∧
    (∀ c ∈ front.toList, isBlank c = true) ∧ ∀ c ∈ back.toList, isBlank c = true := by
  obtain ⟨front, back, eq, blank_front, blank_back⟩ := exists_eq_padded s.toList
  have blank_front : ∀ c ∈ (String.ofList front).toList, isBlank c = true := by rwa [String.toList_ofList]
  have blank_back : ∀ c ∈ (String.ofList back).toList, isBlank c = true := by rwa [String.toList_ofList]
  have whole : s = String.ofList front ++ trim s ++ String.ofList back := by
    apply String.toList_injective
    simp only [String.toList_append, String.toList_ofList, toList_trim, List.append_assoc]
    exact eq
  refine ⟨String.ofList front, String.ofList back, ?_, blank_front, blank_back⟩
  rw [← lower_append_append blank_front blank_back, ← whole]

/-- **A keyword is found in itself**, whatever white space there is around it. -/
theorem contains_lower_trim (k : String) : contains (lower k) (lower (trim k)) = true := by
  obtain ⟨front, back, eq, -, -⟩ := exists_lower_eq_padded k
  rw [eq, contains_iff, String.toList_append, String.toList_append]
  exact List.infix_append _ _ _

/-- **A text that is asked for is the same as itself**, whatever white space there is around it. -/
theorem trim_lower (s : String) : trim (lower s) = lower (trim s) := by
  obtain ⟨front, back, eq, blank_front, blank_back⟩ := exists_lower_eq_padded s
  rw [eq, trim_append_append blank_front blank_back]
  by_cases empty : trim s = ""
  · rw [empty]
    decide
  · apply String.toList_injective
    rw [toList_trim, (trimmed_lower_trim empty).trimChars_eq]

end Text

/-- **Every rule of a trigger is fit by some message.** -/
theorem TriggerRule.exists_fits (rule : TriggerRule) : ∃ message, rule.fits (Text.lower message) = true := by
  cases rule with
  | keyword keywords =>
    by_cases asks : ∃ k ∈ keywords, Text.trim k ≠ ""
    · obtain ⟨k, mem, some_char⟩ := asks
      exact ⟨k, (Graph.fits_keyword_iff mem some_char).mpr ⟨k, mem, some_char, Text.contains_lower_trim k⟩⟩
    · -- without a keyword that is not blank, every message fits
      have none : ((keywords.map Text.trim).filter (· != "")).map Text.lower = [] := by
        refine List.eq_nil_iff_forall_not_mem.mpr fun word mem => asks ?_
        obtain ⟨k, mem, some_char, -⟩ := Text.mem_keywords_iff.mp mem
        exact ⟨k, mem, some_char⟩
      exact ⟨"", by simp only [fits, none, List.isEmpty_nil, Bool.true_or]⟩
  | exactMatch wanted => exact ⟨wanted, by rw [fits, Text.trim_lower, beq_self_eq_true]⟩
  | schedule cron => exact ⟨"", rfl⟩
  | webhook => exact ⟨"", rfl⟩
  | integration name event variableNames => exact ⟨"", rfl⟩

namespace Graph

variable {g : Graph}

/-! ### What starts a graph -/

/-- **Some message starts a graph** just if it has a trigger step or a step with keywords. -/
theorem exists_triggered_iff : (∃ message, (g.matchMessage false message).triggered = true) ↔
    g.trigger? ≠ none ∨ ∃ s ∈ g.steps, s.keywordTokens ≠ [] := by
  by_cases asks : ∃ s ∈ g.steps, s.keywordTokens ≠ []
  · refine iff_of_true ?_ (.inr asks)
    -- a keyword is called by itself
    obtain ⟨s, mem, some_word⟩ := asks
    obtain ⟨word, asked⟩ := List.exists_mem_of_ne_nil _ some_word
    obtain ⟨k, lists, some_char, -⟩ := Step.mem_keywordTokens_iff.mp asked
    exact ⟨k, (triggered_iff (.step mem lists) some_char).mpr
      ⟨k, .step mem lists, some_char, Text.contains_lower_trim k⟩⟩
  · rw [or_iff_left asks]
    have silent : ∀ s ∈ g.steps, s.keywordTokens = [] := by simpa using asks
    cases first : g.trigger? with
    | some found =>
      obtain ⟨s, t⟩ := found
      simp only [triggered_iff_fits silent first, t.rule.exists_fits, ne_eq, reduceCtorEq, not_false_eq_true]
    | none =>
      refine iff_of_false ?_ (not_not.mpr rfl)
      rintro ⟨message, triggered⟩
      rw [matchMessage_of_silent silent, matchTrigger, first] at triggered
      exact Bool.false_ne_true triggered

/-- When a builder is told that there is no trigger step. -/
theorem noTrigger_mem_findings :
    .noTrigger ∈ g.findings ↔ g.trigger? = none ∧ ∀ s ∈ g.steps, s.keywordTokens = [] := by
  rw [mem_findings_iff rfl, structureFindings]
  cases g.trigger? with
  | none =>
    have quiet : (∀ s ∈ g.steps, s.keywordTokens = []) ↔ ¬g.steps.any isEntry = true := by
      refine Iff.trans ?_ (not_congr any_keywordTokens_iff).symm
      simp only [not_exists, not_and, not_not]
    rw [quiet, and_iff_right rfl]
    dsimp only
    split
    · rename_i asks
      exact iff_of_false List.not_mem_nil fun silent => silent asks
    · rename_i silent
      exact iff_of_true (List.mem_singleton_self _) silent
  | some first => simp

/-- **The error that there is no trigger step is exact.** However a graph came about, its builder is told that it has
no trigger step just if no message whatsoever starts a run of it. -/
theorem told_noTrigger_iff (g : Graph) :
    (∃ f ∈ g.findings, f.message = "Automation has no trigger step") ↔
      ∀ message, (g.matchMessage false message).triggered = false := by
  have told : (∃ f ∈ g.findings, f.message = "Automation has no trigger step") ↔ .noTrigger ∈ g.findings := by
    simp only [Finding.message_eq_noTrigger_iff, exists_eq_right]
  have never : (∀ message, (g.matchMessage false message).triggered = false) ↔
      ¬∃ message, (g.matchMessage false message).triggered = true := by
    simp only [not_exists, Bool.not_eq_true]
  rw [told, never, noTrigger_mem_findings, exists_triggered_iff, not_or, not_not]
  simp only [not_exists, not_and, not_not]

end Graph

end Parley
