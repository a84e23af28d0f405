import Parley.Proofs.Text.Lower
import Parley.Proofs.Trigger.Keywords
import Parley.Run.Perform

/-!
# Texts that are found where they stand

Keywords, and the values of conditions, are looked for in lower case. A text keeps its lower case in a message where
none of its capital sigmas comes to the end of a word, or away from it, by what surrounds it; and where it keeps it,
it is found (`Parley.literal_found`). The others are not always found: the keyword `ΠΡΟΣ` is not found in the
message `ΠΡΟΣΦΟΡΑ`, because its last sigma is a final one by itself and none in the message.
-/

namespace Parley

namespace Text

variable {part text after : String}

/-! ### Parts of texts -/

/-- A text stands in another and keeps its lower case there. -/
def StandsIn (part text : String) : Prop :=
  ∃ before after, text = before ++ part ++ after ∧ Steady before.toList part.toList after.toList

theorem startsWith_iff : startsWith text part = true ↔ part.toList <+: text.toList := List.isPrefixOf_iff_prefix

/-- A text is found where it keeps its lower case. -/
theorem StandsIn.contains_lower (h : StandsIn part text) : contains (lower text) (lower part) = true := by
  obtain ⟨before, after, rfl, steady⟩ := h
  rw [contains_iff, toList_lower, toList_lower, String.toList_append, String.toList_append, List.append_assoc]
  exact steady.lower_infix

/-- **Only a text that keeps its lower case everywhere is always found.** -/
theorem contains_lower_iff :
    (∀ before after, contains (lower (before ++ part ++ after)) (lower part) = true) ↔ StandsFast part.toList := by
  constructor
  · intro found
    refine standsFast_of_lower_infix fun before after => ?_
    have placed := contains_iff.mp (found (String.ofList before) (String.ofList after))
    simpa only [toList_lower, String.toList_append, String.toList_ofList, List.append_assoc] using placed
  · intro fast before after
    exact StandsIn.contains_lower ⟨before, after, rfl, standsFast_iff.mp fast _ _⟩

/-- A text is found at the beginning just where it keeps its lower case. -/
theorem startsWith_lower_iff :
    startsWith (lower (part ++ after)) (lower part) = true ↔ Steady [] part.toList after.toList := by
  rw [startsWith_iff, toList_lower, toList_lower, String.toList_append]
  exact lower_prefix_iff

end Text

/-! ### Keywords -/

namespace Graph

variable {g : Graph} {k message : String} {everyStep : Bool}

/-- A graph that awaits one keyword and no other. -/
structure AwaitsOnly (g : Graph) (k : String) : Prop where
  awaits : g.Awaits k
  alone : ∀ k', g.Awaits k' → Text.trim k' ≠ "" → Text.trim k' = Text.trim k

theorem AwaitsOnly.triggered_iff (only : g.AwaitsOnly k) (some_char : Text.trim k ≠ "") :
    (g.matchMessage everyStep message).triggered = true ↔
      Text.contains (Text.lower message) (Text.lower (Text.trim k)) = true := by
  rw [Graph.triggered_iff only.awaits some_char]
  constructor
  · rintro ⟨k', awaits, some_char', holds⟩
    rwa [only.alone k' awaits some_char'] at holds
  · intro holds
    exact ⟨k, only.awaits, some_char, holds⟩

/-- A trigger with one keyword, in a graph whose steps have none. -/
theorem awaitsOnly_of_trigger {s : Step} {t : TriggerSettings} (silent : ∀ s ∈ g.steps, s.keywordTokens = [])
    (first : g.trigger? = some (s, t)) (rule : t.rule = .keyword [k]) : g.AwaitsOnly k := by
  refine ⟨.trigger silent first rule (List.mem_singleton_self k), fun k' awaits some_char => ?_⟩
  rw [List.mem_singleton.mp ((awaits_iff_of_silent silent first rule some_char).mp awaits)]

end Graph

/-! ### Conditions -/

namespace Step

variable {s : Step} {rule : ConditionRule} {σ : Type} {r : Runner σ} {st : RunState} {w : σ}

/-- A condition step with one rule, which tests the message. -/
def TestsOnly (s : Step) (rule : ConditionRule) : Prop :=
  rule.field = "message_text" ∧ ∃ c, s.body = .condition c ∧ c.conditions = [rule]

/-- The report that a message meets a rule. -/
def meets (s : Step) (rule : ConditionRule) : Outcome :=
  .ofEffect (.notice s ("✅ Condition matched: \"" ++ rule.value ++ "\"")
    [("condition_matched", .bool true), ("matched_condition", rule.write)])

theorem testRules_eq_meets_iff {test : String → String → Bool} {text : String} (field : rule.field = "message_text")
    (known : operator? rule.operator = some test) :
    s.testRules text [rule] = s.meets rule ↔ test text (Text.lower rule.value) = true := by
  rw [testRules, if_pos field, known]
  dsimp only
  split
  · rename_i met
    exact iff_of_true rfl met
  · rename_i unmet
    refine iff_of_false (fun same => ?_) unmet
    have lengths := congrArg (fun o : Outcome => o.effects.map fun e => e.metadata.length) same
    simp [testRules, meets, Outcome.ofEffect, Effect.notice] at lengths

/-- **A condition step with one rule reports a match just if the test of the rule succeeds in lower case.** -/
theorem perform_eq_meets_iff {test : String → String → Bool} (tests : s.TestsOnly rule)
    (known : operator? rule.operator = some test) :
    (s.perform r st w).1 = s.meets rule ↔ test (Text.lower st.message) (Text.lower rule.value) = true := by
  obtain ⟨field, c, body, rules⟩ := tests
  rw [perform, body]
  dsimp only
  rw [testMessage, rules]
  exact testRules_eq_meets_iff field known

end Step

/-- **What stands in a message is found there where it keeps its lower case**: keywords that a graph awaits, and the
values of conditions. What does not keep it everywhere is not always found. -/
theorem literal_found (g : Graph) (everyStep : Bool) (k : String) (s : Step) (rule : ConditionRule) {σ : Type}
    (r : Runner σ) (st : RunState) (w : σ) :
    (Text.trim k ≠ "" →
      (g.Awaits k → ∀ message, Text.StandsIn (Text.trim k) message →
        (g.matchMessage everyStep message).triggered = true ∧
          ∀ s ∈ g.steps, s.Lists k → ∀ id ∈ g.entriesAt s, id ∈ (g.matchMessage everyStep message).entries) ∧
      (g.AwaitsOnly k →
        ((∀ before after, (g.matchMessage everyStep (before ++ Text.trim k ++ after)).triggered = true) ↔
          Text.StandsFast (Text.trim k).toList))) ∧
    (s.TestsOnly rule →
      (rule.operator = "equals" → st.message = rule.value → (s.perform r st w).1 = s.meets rule) ∧
      (rule.operator = "starts_with" → ∀ after, st.message = rule.value ++ after →
        ((s.perform r st w).1 = s.meets rule ↔ Text.Steady [] rule.value.toList after.toList)) ∧
      (rule.operator = "contains" →
        (Text.StandsIn rule.value st.message → (s.perform r st w).1 = s.meets rule) ∧
        ((∀ before after, (s.perform r { st with message := before ++ rule.value ++ after } w).1 = s.meets rule) ↔
          Text.StandsFast rule.value.toList))) := by
  refine ⟨fun some_char => ⟨fun awaits message stands => ⟨?_, fun s mem lists id enters => ?_⟩, fun only => ?_⟩,
    fun tests => ⟨fun equals message => ?_, fun starts after message => ?_, fun holds => ⟨fun stands => ?_, ?_⟩⟩⟩
  · exact (Graph.triggered_iff awaits some_char).mpr ⟨k, awaits, some_char, stands.contains_lower⟩
  · have calls := Graph.calledBy_iff.mpr ⟨k, lists, some_char, stands.contains_lower⟩
    exact Graph.mem_entries_of_calledBy mem calls enters
  · simp only [only.triggered_iff some_char, Text.contains_lower_iff]
  · rw [Step.perform_eq_meets_iff tests (by rw [equals]; rfl), message]
    exact beq_self_eq_true _
  · rw [Step.perform_eq_meets_iff tests (by rw [starts]; rfl), message]
    exact Text.startsWith_lower_iff
  · rw [Step.perform_eq_meets_iff tests (by rw [holds]; rfl)]
    exact stands.contains_lower
  · rw [← Text.contains_lower_iff]
    refine forall_congr' fun before => forall_congr' fun after => ?_
    exact Step.perform_eq_meets_iff tests (by rw [holds]; rfl)

/-- The keyword of a trigger is found at the end of a message and not at the beginning of a longer word, and so is
the value of a condition. -/
theorem literal_found_sigma :
    let asks : Step := { id := "asks", body := .trigger { rule := .keyword [" ΠΡΟΣ "] } }
    let g : Graph := { table := [("asks", asks)] }
    let rule : ConditionRule := { operator := "starts_with", value := "ΠΡΟΣ" }
    let tests : Step := { id := "tests", body := .condition { conditions := [rule] } }
    let st : String → RunState := fun message => { automation := "a", message, context := { recipient := "you" } }
    let r : Runner Unit := { services := {}, now := ⟨0, none⟩ }
    (g.AwaitsOnly " ΠΡΟΣ " ∧ Text.trim " ΠΡΟΣ " ≠ "" ∧ Text.StandsIn (Text.trim " ΠΡΟΣ ") "ἘΝ ΠΡΟΣ!" ∧
      (g.matchMessage false "ἘΝ ΠΡΟΣ!").triggered = true) ∧
    ((g.matchMessage false "ΠΡΟΣΦΟΡΑ").triggered = false ∧ ¬Text.StandsFast (Text.trim " ΠΡΟΣ ").toList) ∧
    tests.TestsOnly rule ∧ (tests.perform r (st ("ΠΡΟΣ" ++ "!")) ()).1 = tests.meets rule ∧
      (tests.perform r (st ("ΠΡΟΣ" ++ "ΦΟΡΑ")) ()).1 ≠ tests.meets rule := by
  intro asks g rule tests st r
  have found := fun after => literal_found g false " ΠΡΟΣ " tests rule r (st ("ΠΡΟΣ" ++ after)) ()
  have only : g.AwaitsOnly " ΠΡΟΣ " :=
    Graph.awaitsOnly_of_trigger (s := asks) (by decide) rfl rfl
  have trimmed : Text.trim " ΠΡΟΣ " = "ΠΡΟΣ" := by decide +kernel
  have some_char : Text.trim " ΠΡΟΣ " ≠ "" := by rw [trimmed]; decide
  have stands : Text.StandsIn (Text.trim " ΠΡΟΣ ") "ἘΝ ΠΡΟΣ!" :=
    ⟨"ἘΝ ", "!", by rw [trimmed]; decide, by rw [trimmed]; exact Text.steady_iff.mpr (by decide +kernel)⟩
  have lost : (g.matchMessage false "ΠΡΟΣΦΟΡΑ").triggered = false := by decide +kernel
  have unsteady : ¬Text.StandsFast (Text.trim " ΠΡΟΣ ").toList := by
    intro fast
    have placed := (((found "").1 some_char).2 only).mpr fast "" "ΦΟΡΑ"
    rw [trimmed] at placed
    exact Bool.false_ne_true (lost.symm.trans placed)
  have tests_only : tests.TestsOnly rule := ⟨rfl, _, rfl, rfl⟩
  have starts (after : String) := ((found after).2 tests_only).2.1 rfl after rfl
  refine ⟨⟨only, some_char, stands, (((found "").1 some_char).1 only.awaits _ stands).1⟩, ⟨lost, unsteady⟩,
    tests_only, (starts "!").mpr (Text.steady_iff.mpr (by decide +kernel)), fun met => ?_⟩
  exact absurd (Text.steady_iff.mp ((starts "ΦΟΡΑ").mp met)) (by decide +kernel)

end Parley
