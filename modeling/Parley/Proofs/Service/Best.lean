import Parley.Proofs.Service.Limits
import Parley.Proofs.Service.Sentences
import Parley.Proofs.Text.Blank

/-!
# The best sentence

The simulated service answers with a sentence of its background text. It is the first of those that have the most
different words in common with the message, without the white space around it, as long as any has one
(`Parley.ReplySimulator.compose_firstBest`). Two things are needed for the service to fall back on its default reply
exactly if none has: what has a word in it is not empty when it is trimmed, and the default reply is never such a
sentence, since it consists of two.
-/

namespace Parley

namespace Text

variable {s w : String} {piece before after : List Char}

/-- White space is no letter or digit. -/
theorem isWordChar_of_isBlank {c : Char} (blank : isBlank c = true) : isWordChar c = false := by
  have table : ∀ n ∈ blankNumbers, isWordChar (Char.ofNat n) = false := by decide
  rw [← Char.ofNat_toNat c]
  exact table _ (isBlank_iff.mp blank)

/-- What has a word is not empty when it is trimmed. -/
theorem IsWord.trim_ne_empty (word : IsWord w s) : trim s ≠ "" := by
  intro empty
  obtain ⟨front, back, eq, blank_front, blank_back⟩ := exists_eq_padded s.toList
  rw [← toList_trim, empty, String.toList_empty, List.nil_append] at eq
  have blank : ∀ c ∈ s.toList, isBlank c = true := by
    intro c mem
    rw [eq] at mem
    exact (List.mem_append.mp mem).elim (blank_front c) (blank_back c)
  -- so the text is its own lower case, and there is nothing but white space for the word to be in
  obtain ⟨filled, inside, left, right, lowered, -, -⟩ := word
  rw [toList_lower, lowerFrom_eq, lowerWithin_blank blank] at lowered
  obtain ⟨c, rest, eq'⟩ := List.exists_cons_of_ne_nil filled
  have here : c ∈ w.toList := eq' ▸ List.mem_cons_self
  have there : c ∈ s.toList := lowered ▸ List.mem_append_right left (List.mem_append_left right here)
  cases (isWordChar_of_isBlank (blank c there)).symm.trans (inside c here)

theorem commonWords_pos_iff (s t : String) : 0 < commonWords s t ↔ ∃ w, IsWord w s ∧ IsWord w t := by
  have finite : {w | IsWord w s ∧ IsWord w t}.Finite :=
    (List.finite_toSet (wordSet s)).subset fun w both => mem_wordSet_iff.mpr both.1
  exact Set.ncard_pos finite

end Text

namespace ReplySimulator

variable {message best : String} {least : Nat} {P : List String}

/-- **The score of a sentence** is the number of different words that it has in common with the message. -/
theorem score_eq_commonWords (message sentence : String) :
    score message sentence = Text.commonWords message sentence := by
  have common : {w | Text.IsWord w message ∧ Text.IsWord w sentence} =
      ((Text.wordSet message).filter fun w => (Text.wordSet sentence).contains w).toFinset := by
    ext w
    simp only [Set.mem_ofPred_eq, List.coe_toFinset, List.mem_filter, List.contains_iff_mem, Text.mem_wordSet_iff]
  have different : (Text.wordSet message).Nodup := Text.nodup_distinct _
  rw [Text.commonWords, common, Set.ncard_coe_finset]
  exact (List.toFinset_card_of_nodup (different.filter _)).symm

/-- **The first of the texts with the greatest value.** -/
def FirstBest (value : String → Nat) (P : List String) (p : String) : Prop :=
  ∃ before after, P = before ++ p :: after ∧ (∀ q ∈ before, value q < value p) ∧ ∀ q ∈ after, value q ≤ value p

namespace FirstBest

variable {value : String → Nat} {p q : String}

theorem mem (h : FirstBest value P p) : p ∈ P := by
  obtain ⟨before, after, rfl, -, -⟩ := h
  exact List.mem_append_right before List.mem_cons_self

/-- A text with a smaller value may stand in front. -/
theorem cons (h : FirstBest value P p) (worse : value q < value p) : FirstBest value (q :: P) p := by
  obtain ⟨before, after, rfl, all_worse, no_better⟩ := h
  exact ⟨q :: before, after, rfl, List.forall_mem_cons.mpr ⟨worse, all_worse⟩, no_better⟩

/-- A text is the first to have the greatest value if none behind it has a greater one. -/
theorem head (no_better : ∀ q ∈ P, value q ≤ value p) : FirstBest value (p :: P) p :=
  ⟨[], P, rfl, List.forall_mem_nil _, no_better⟩

end FirstBest

/-- **What is left at the end of the list**: what there was before, if no sentence has a greater score, or else the
first of those with the greatest one. -/
theorem bestFrom_cases (message best : String) (least : Nat) (P : List String) :
    (bestFrom message best least P = best ∧ ∀ p ∈ P, score message p ≤ least) ∨
      ∃ p, FirstBest (score message) P p ∧ least < score message p ∧ bestFrom message best least P = Text.trim p := by
  induction P generalizing best least with
  | nil => exact .inl ⟨rfl, List.forall_mem_nil _⟩
  | cons s rest ih =>
    unfold bestFrom
    by_cases better : least < score message s
    · rw [if_pos better]
      rcases ih (Text.trim s) (score message s) with ⟨same, none_better⟩ | ⟨p, first, later, found⟩
      · exact .inr ⟨s, .head none_better, better, same⟩
      · exact .inr ⟨p, first.cons later, better.trans later, found⟩
    · rw [if_neg better]
      have no_better := Nat.le_of_not_lt better
      rcases ih best least with ⟨same, none_better⟩ | ⟨p, first, later, found⟩
      · exact .inl ⟨same, List.forall_mem_cons.mpr ⟨no_better, none_better⟩⟩
      · exact .inr ⟨p, first.cons (Nat.lt_of_le_of_lt no_better later), later, found⟩

/-- **The default reply is no sentence**: it would have been cut behind its exclamation mark. -/
theorem trim_ne_defaultReply {before after : List Char} {p : String} (whole : Text.Undivided before p.toList after) :
    Text.trim p ≠ defaultReply := by
  intro same
  obtain ⟨front, back, eq, -, -⟩ := Text.exists_eq_padded p.toList
  rw [← Text.toList_trim, same] at eq
  have parts : defaultReply.toList =
      "Thanks for reaching out".toList ++ ['!'] ++ ' ' :: "A member of our team will help you shortly.".toList := by
    decide
  rw [parts] at eq
  have nothing := whole (front ++ ("Thanks for reaching out".toList ++ ['!'])) ' '
    ("A member of our team will help you shortly.".toList ++ back)
    (by rw [eq]; simp only [List.append_assoc, List.cons_append])
  rw [← List.append_assoc, ← List.append_assoc, Text.separator_cons, Text.closed_concat] at nothing
  cases nothing

/-- **The reply is the best sentence.** The background text has one way to be cut into pieces. If any of them has a word
in common with the message, the reply is the first of those with the most different common words, without the white
space around it. The reply is the default one exactly if none has, and it is never empty. -/
theorem compose_firstBest (r : ReplyRequest) :
    ∃ P : List String, (∀ Q, Text.Cut [] r.contextData.toList Q ↔ Q = P.map String.toList) ∧
      ((∃ p ∈ P, 0 < Text.commonWords r.message p) →
        ∃ p, FirstBest (Text.commonWords r.message) P p ∧ compose r = Text.trim p) ∧
      (compose r = defaultReply ↔ ∀ p ∈ P, Text.commonWords r.message p = 0) ∧ compose r ≠ "" := by
  have scores : score r.message = Text.commonWords r.message := funext (score_eq_commonWords r.message)
  refine ⟨Text.sentences r.contextData, fun Q => Text.cut_iff, ?_⟩
  rcases bestFrom_cases r.message "" 0 (Text.sentences r.contextData) with ⟨nothing, zero⟩ | ⟨p, first, positive, found⟩
  · have reply : compose r = defaultReply := by rw [compose, nothing]; rfl
    rw [scores] at zero
    refine ⟨fun ⟨p, mem, positive⟩ => absurd positive (Nat.not_lt.mpr (zero p mem)),
      ⟨fun _ p mem => Nat.le_zero.mp (zero p mem), fun _ => reply⟩, compose_ne_empty r⟩
  · rw [scores] at first positive
    obtain ⟨w, -, word⟩ := (Text.commonWords_pos_iff _ _).mp positive
    have reply : compose r = Text.trim p := by
      rw [compose, found]
      exact if_neg word.trim_ne_empty
    have pieces : Text.Cut [] r.contextData.toList _ := Text.cut_iff.mpr rfl
    obtain ⟨before, after, whole⟩ := pieces.undivided_of_mem (List.mem_map_of_mem first.mem)
    refine ⟨fun _ => ⟨p, first, reply⟩, ⟨fun default => ?_, fun zero => ?_⟩, compose_ne_empty r⟩
    · exact absurd (reply.symm.trans default) (trim_ne_defaultReply whole)
    · exact absurd (zero p first.mem) (Nat.ne_of_gt positive)

/-- Of two sentences with one common word each the first is taken. -/
example : compose { message := "refund, SHIPPING?", contextData := "Shipping takes 3 days. Thanks!\nA refund is free."
                    recipient := "r", automation := "a" } = "Shipping takes 3 days." := by
  decide +kernel

end ReplySimulator

end Parley
