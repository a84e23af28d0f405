import Parley.Proofs.Text.Blank
import Parley.Proofs.Trigger.Keywords

/-!
# White space around messages

A message matches in the same way with and without white space around it (`Parley.Graph.matchMessage_padded`):
a keyword is trimmed, so it neither begins nor ends in the white space around a message, and a rule that asks for a
whole text trims the message.
-/

namespace Parley

namespace Text

/-! ### Texts and keywords with white space around them -/

variable {front back k : String}

/-- A keyword that is not empty is trimmed when it is in lower case, too. -/
theorem trimmed_lower_trim (some_char : trim k ≠ "") : Trimmed (lower (trim k)).toList := by
  have filled : trimChars isBlank k.toList ≠ [] := by
    rw [← toList_trim]
    exact fun nil => some_char (String.toList_eq_nil_iff.mp nil)
  rw [toList_lower, toList_trim]
  exact (trimmed_trimChars filled).lower

section Padded

variable (blank_front : ∀ c ∈ front.toList, isBlank c = true) (blank_back : ∀ c ∈ back.toList, isBlank c = true)
include blank_front blank_back

theorem lower_append_append (text : String) : lower (front ++ text ++ back) = front ++ lower text ++ back := by
  apply String.toList_injective
  simp only [toList_lower, String.toList_append, List.append_assoc]
  exact lower_padded blank_front blank_back

theorem trim_append_append (text : String) : trim (front ++ text ++ back) = trim text := by
  apply String.toList_injective
  simp only [toList_trim, String.toList_append, List.append_assoc]
  exact trimChars_padded blank_front blank_back

/-- What is trimmed is contained in a text with or without white space around it. -/
theorem contains_append_append (trimmed : Trimmed k.toList) (text : String) :
    contains (front ++ text ++ back) k = true ↔ contains text k = true := by
  rw [contains_iff, contains_iff, String.toList_append, String.toList_append, List.append_assoc]
  exact trimmed.infix_padded_iff blank_front blank_back

/-- One of some trimmed texts is contained in a text with or without white space around it. -/
theorem any_contains_append_append {wanted : List String} (trimmed : ∀ k ∈ wanted, Trimmed k.toList)
    (text : String) :
    (wanted.any fun k => contains (front ++ text ++ back) k) = wanted.any fun k => contains text k := by
  rw [Bool.eq_iff_iff, List.any_eq_true, List.any_eq_true]
  exact exists_congr fun k => and_congr_right fun mem =>
    contains_append_append blank_front blank_back (trimmed k mem) text

end Padded

end Text

/-! ### Triggers and keywords of steps -/

variable {front back : String} (blank_front : ∀ c ∈ front.toList, Text.isBlank c = true)
  (blank_back : ∀ c ∈ back.toList, Text.isBlank c = true)

include blank_front blank_back

/-- Whether a rule fits does not depend on white space around the message. -/
theorem TriggerRule.fits_append_append (rule : TriggerRule) (text : String) :
    rule.fits (front ++ text ++ back) = rule.fits text := by
  cases rule with
  | keyword keywords =>
    simp only [fits]
    rw [Text.any_contains_append_append blank_front blank_back fun word mem => ?_]
    obtain ⟨k, -, some_char, rfl⟩ := Text.mem_keywords_iff.mp mem
    exact Text.trimmed_lower_trim some_char
  | exactMatch wanted => simp only [fits, Text.trim_append_append blank_front blank_back]
  | schedule _ => rfl
  | webhook => rfl
  | integration _ _ _ => rfl

namespace Graph

/-- Whether a message calls a step does not depend on white space around it. -/
theorem calledBy_append_append (text : String) : calledBy (front ++ text ++ back) = calledBy text := by
  funext s
  refine Text.any_contains_append_append blank_front blank_back (fun word mem => ?_) text
  obtain ⟨k, -, some_char, rfl⟩ := Step.mem_keywordTokens_iff.mp mem
  exact Text.trimmed_lower_trim some_char

omit blank_front blank_back

/-- **White space around a message makes no difference.** -/
theorem matchMessage_padded (g : Graph) (everyStep : Bool) (front message back : String)
    (blank_front : ∀ c ∈ front.toList, Text.isBlank c = true)
    (blank_back : ∀ c ∈ back.toList, Text.isBlank c = true) :
    g.matchMessage everyStep (front ++ message ++ back) = g.matchMessage everyStep message := by
  have fits (rule : TriggerRule) (text : String) : rule.fits (front ++ text ++ back) = rule.fits text :=
    rule.fits_append_append blank_front blank_back text
  simp only [matchMessage, matchTrigger, Text.lower_append_append blank_front blank_back,
    calledBy_append_append blank_front blank_back, fits]

/-- A keyword at the end of a word is found there with white space around the message. -/
theorem matchMessage_padded_keyword :
    let asks : Step := { id := "asks", body := .message { text := "Yes?", triggerKeywords := some "ΠΡΟΣ" } }
    let g : Graph := { table := [("asks", asks)] }
    (∀ c ∈ "\t ".toList, Text.isBlank c = true) ∧ (∀ c ∈ "\u2003\n".toList, Text.isBlank c = true) ∧
      g.matchMessage false ("\t " ++ "ἘΝ ΠΡΟΣ" ++ "\u2003\n") = g.matchMessage false "ἘΝ ΠΡΟΣ" ∧
        (g.matchMessage false "ἘΝ ΠΡΟΣ").entries = ["asks"] := by
  intro asks g
  have blank_front : ∀ c ∈ "\t ".toList, Text.isBlank c = true := List.all_eq_true.mp (by decide)
  have blank_back : ∀ c ∈ "\u2003\n".toList, Text.isBlank c = true := List.all_eq_true.mp (by decide)
  exact ⟨blank_front, blank_back, g.matchMessage_padded false _ "ἘΝ ΠΡΟΣ" _ blank_front blank_back,
    by decide +kernel⟩

end Graph

end Parley
