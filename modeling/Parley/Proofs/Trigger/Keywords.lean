import Parley.Proofs.Text.Distinct
import Parley.Trigger.Match

/-!
# The keywords of a graph

A graph awaits the keywords that its steps list, and those of its first trigger step if no step has any. A message
starts a run of such a graph just if it holds one of these keywords in lower case (`Parley.Graph.triggered_iff`).
-/

namespace Parley

variable {k word : String}

/-! ### Lists of keywords -/

/-- The keywords of a list are trimmed, in lower case and not empty. -/
theorem Text.mem_keywords_iff {listed : List String} :
    word ∈ ((listed.map trim).filter (· != "")).map lower ↔ ∃ k ∈ listed, trim k ≠ "" ∧ lower (trim k) = word := by
  simp only [List.mem_map, List.mem_filter, bne_iff_ne]
  constructor
  · rintro ⟨_, ⟨⟨k, mem, rfl⟩, some_char⟩, same⟩
    exact ⟨k, mem, some_char, same⟩
  · rintro ⟨k, mem, some_char, same⟩
    exact ⟨_, ⟨⟨k, mem, rfl⟩, some_char⟩, same⟩

namespace Step

variable {s : Step}

/-- The keyword stands between commas in the list of the step. -/
def Lists (s : Step) (k : String) : Prop :=
  ∃ list, s.body.settings.triggerKeywords = some list ∧ k ∈ Text.commaPieces list

theorem mem_keywordTokens_iff :
    word ∈ s.keywordTokens ↔ ∃ k, s.Lists k ∧ Text.trim k ≠ "" ∧ Text.lower (Text.trim k) = word := by
  unfold keywordTokens Settings.keywordTokens Lists
  cases s.body.settings.triggerKeywords with
  | none => simp
  | some list => simp only [Text.mem_keywords_iff, Option.some.injEq, exists_eq_left']

end Step

namespace Graph

variable {g : Graph} {s : Step} {message text : String} {everyStep : Bool}

/-! ### What a graph listens for -/

/-- **A keyword that a graph awaits**: a step lists it, or no step has keywords and the first trigger step asks
for it. -/
inductive Awaits (g : Graph) (k : String) : Prop
  | step {s : Step} (mem : s ∈ g.steps) (lists : s.Lists k)
  | trigger {s : Step} {t : TriggerSettings} {keywords : List String}
      (silent : ∀ s ∈ g.steps, s.keywordTokens = []) (first : g.trigger? = some (s, t))
      (rule : t.rule = .keyword keywords) (mem : k ∈ keywords)

/-- The keywords that steps list in a graph whose steps have none are empty. -/
theorem trim_eq_of_silent (silent : ∀ s ∈ g.steps, s.keywordTokens = []) (mem : s ∈ g.steps) (lists : s.Lists k) :
    Text.trim k = "" := by
  by_contra some_char
  have asks := Step.mem_keywordTokens_iff.mpr ⟨k, lists, some_char, rfl⟩
  rw [silent s mem] at asks
  exact List.not_mem_nil asks

/-- A graph whose steps have no keywords awaits those of its first trigger step. -/
theorem awaits_iff_of_silent {t : TriggerSettings} {keywords : List String}
    (silent : ∀ s ∈ g.steps, s.keywordTokens = []) (first : g.trigger? = some (s, t))
    (rule : t.rule = .keyword keywords) (some_char : Text.trim k ≠ "") : g.Awaits k ↔ k ∈ keywords := by
  refine ⟨fun awaits => ?_, .trigger silent first rule⟩
  cases awaits with
  | step mem lists => exact absurd (trim_eq_of_silent silent mem lists) some_char
  | trigger _ first' rule' mem =>
    obtain ⟨rfl, rfl⟩ := Prod.mk.inj (Option.some.inj (first.symm.trans first'))
    obtain rfl := TriggerRule.keyword.inj (rule.symm.trans rule')
    exact mem

theorem calledBy_iff :
    calledBy text s = true ↔
      ∃ k, s.Lists k ∧ Text.trim k ≠ "" ∧ Text.contains text (Text.lower (Text.trim k)) = true := by
  rw [calledBy, List.any_eq_true]
  constructor
  · rintro ⟨word, mem, holds⟩
    obtain ⟨k, lists, some_char, rfl⟩ := Step.mem_keywordTokens_iff.mp mem
    exact ⟨k, lists, some_char, holds⟩
  · rintro ⟨k, lists, some_char, holds⟩
    exact ⟨_, Step.mem_keywordTokens_iff.mpr ⟨k, lists, some_char, rfl⟩, holds⟩

/-- A rule with keywords fits the texts that hold one of them. -/
theorem fits_keyword_iff {keywords : List String} (mem : k ∈ keywords) (some_char : Text.trim k ≠ "") :
    (TriggerRule.keyword keywords).fits text = true ↔
      ∃ k ∈ keywords, Text.trim k ≠ "" ∧ Text.contains text (Text.lower (Text.trim k)) = true := by
  have asks := List.ne_nil_of_mem (Text.mem_keywords_iff.mpr ⟨k, mem, some_char, rfl⟩)
  simp only [TriggerRule.fits, Bool.or_eq_true, List.isEmpty_iff, asks, false_or, List.any_eq_true]
  constructor
  · rintro ⟨word, wanted, holds⟩
    obtain ⟨k, mem, some_char, rfl⟩ := Text.mem_keywords_iff.mp wanted
    exact ⟨k, mem, some_char, holds⟩
  · rintro ⟨k, mem, some_char, holds⟩
    exact ⟨_, Text.mem_keywords_iff.mpr ⟨k, mem, some_char, rfl⟩, holds⟩

/-- Some step has keywords. -/
theorem any_keywordTokens_iff :
    (g.steps.any fun s => !s.keywordTokens.isEmpty) = true ↔ ∃ s ∈ g.steps, s.keywordTokens ≠ [] := by
  simp only [List.any_eq_true, Bool.not_eq_true', List.isEmpty_eq_false_iff]

theorem any_keywordTokens (mem : s ∈ g.steps) (lists : s.Lists k) (some_char : Text.trim k ≠ "") :
    (g.steps.any fun s => !s.keywordTokens.isEmpty) = true :=
  any_keywordTokens_iff.mpr
    ⟨s, mem, List.ne_nil_of_mem (Step.mem_keywordTokens_iff.mpr ⟨k, lists, some_char, rfl⟩)⟩

/-- If no step has keywords, the match is that with the trigger step. -/
theorem matchMessage_of_silent (silent : ∀ s ∈ g.steps, s.keywordTokens = []) :
    g.matchMessage everyStep message = g.matchTrigger everyStep (Text.lower message) := by
  refine if_neg fun asks => ?_
  obtain ⟨s, mem, some_word⟩ := any_keywordTokens_iff.mp asks
  exact some_word (silent s mem)

/-- If steps have keywords, these decide. -/
theorem triggered_iff_called (mem : s ∈ g.steps) (lists : s.Lists k) (some_char : Text.trim k ≠ "") :
    (g.matchMessage everyStep message).triggered = true ↔
      ∃ s ∈ g.steps, calledBy (Text.lower message) s = true := by
  rw [matchMessage, if_pos (any_keywordTokens mem lists some_char)]
  cases called : g.steps.filter (calledBy (Text.lower message)) with
  | nil =>
    refine iff_of_false Bool.false_ne_true ?_
    rintro ⟨s, mem, calls⟩
    exact List.filter_eq_nil_iff.mp called s mem calls
  | cons s rest =>
    have mem := called ▸ List.mem_cons_self
    exact iff_of_true rfl ⟨s, List.mem_filter.mp mem⟩

/-- If no step has keywords, the first trigger step decides. -/
theorem triggered_iff_fits {t : TriggerSettings} (silent : ∀ s ∈ g.steps, s.keywordTokens = [])
    (first : g.trigger? = some (s, t)) :
    (g.matchMessage everyStep message).triggered = true ↔ t.rule.fits (Text.lower message) = true := by
  rw [matchMessage_of_silent silent, matchTrigger, first]
  dsimp only
  split
  · rename_i fits
    exact iff_of_true rfl fits
  · rename_i unfit
    exact iff_of_false Bool.false_ne_true unfit

/-- **A graph that awaits a keyword is started by the messages that hold one it awaits.** -/
theorem triggered_iff (awaits : g.Awaits k) (some_char : Text.trim k ≠ "") :
    (g.matchMessage everyStep message).triggered = true ↔
      ∃ k, g.Awaits k ∧ Text.trim k ≠ "" ∧ Text.contains (Text.lower message) (Text.lower (Text.trim k)) = true := by
  cases awaits with
  | step mem lists =>
    rw [triggered_iff_called mem lists some_char]
    constructor
    · rintro ⟨s, mem, calls⟩
      obtain ⟨k, lists, some_char, holds⟩ := calledBy_iff.mp calls
      exact ⟨k, .step mem lists, some_char, holds⟩
    · rintro ⟨k', awaits, some_char', holds⟩
      cases awaits with
      | step mem lists => exact ⟨_, mem, calledBy_iff.mpr ⟨k', lists, some_char', holds⟩⟩
      | trigger silent => exact absurd (trim_eq_of_silent silent mem lists) some_char
  | trigger silent first rule mem =>
    rw [triggered_iff_fits silent first, rule, fits_keyword_iff mem some_char]
    constructor
    · rintro ⟨k, mem, some_char, holds⟩
      exact ⟨k, .trigger silent first rule mem, some_char, holds⟩
    · rintro ⟨k, awaits, some_char, holds⟩
      exact ⟨k, (awaits_iff_of_silent silent first rule some_char).mp awaits, some_char, holds⟩

/-- A message that calls steps enters the graph at each of them. -/
theorem mem_entries_of_calledBy (mem : s ∈ g.steps) (calls : calledBy (Text.lower message) s = true) {id : String}
    (enters : id ∈ g.entriesAt s) : id ∈ (g.matchMessage everyStep message).entries := by
  obtain ⟨k, lists, some_char, -⟩ := calledBy_iff.mp calls
  have called : s ∈ g.steps.filter (calledBy (Text.lower message)) := List.mem_filter.mpr ⟨mem, calls⟩
  rw [matchMessage, if_pos (any_keywordTokens mem lists some_char)]
  split
  · rename_i eq
    rw [eq] at called
    exact absurd called List.not_mem_nil
  · rw [Text.distinct_eq_eraseDups, List.mem_eraseDups]
    exact List.mem_flatMap.mpr ⟨s, called, enters⟩

end Graph

end Parley
