import Parley.Proofs.Graph.Warnings
import Parley.Proofs.Preview.Lines
import Parley.Proofs.Trigger.Keywords

/-!
# What is said when nothing happens

A match names the first trigger step of the graph, whether or not a run starts: a preview goes by this when it tells
its user why a message came to nothing. There is one exception. If steps have keywords and a message calls none of
them, the match names no trigger step, although the graph may have one and a message that calls a step names it
(`Parley.Graph.trigger_matchMessage_of_uncalled`).

So a preview says that a message did not match the trigger conditions just if the graph has a trigger step and none
of its steps has keywords; otherwise it says that there is no automation for the message
(`Parley.Session.receive_of_ignored`).
-/

namespace Parley

namespace Graph

variable {g : Graph} {everyStep : Bool} {message text : String}

/-! ### The trigger step that a match names -/

/-- The message calls none of the steps with keywords, and there are some. -/
structure Uncalled (g : Graph) (message : String) : Prop where
  asks : ∃ s ∈ g.steps, s.keywordTokens ≠ []
  unheard : ∀ s ∈ g.steps, calledBy (Text.lower message) s = false

theorem triggerId?_eq (g : Graph) : g.triggerId? = (g.steps.find? (·.isTrigger)).map (·.id) := by
  rw [← map_fst_trigger?, Option.map_map]
  rfl

theorem trigger_matchTrigger (g : Graph) (everyStep : Bool) (text : String) :
    (g.matchTrigger everyStep text).trigger = g.triggerId? := by
  unfold matchTrigger triggerId?
  cases g.trigger? with
  | some first =>
    dsimp only
    split <;> rfl
  | none =>
    dsimp only
    split <;> rfl

/-- **A match of an event names the first trigger step.** -/
theorem trigger_matchEvent (g : Graph) (integration event : String) :
    (g.matchEvent integration event).trigger = g.triggerId? := by
  unfold matchEvent triggerId?
  cases g.trigger? with
  | some first =>
    dsimp only
    split <;> rfl
  | none => rfl

/-- A message that calls none of the steps with keywords starts no run, and its match names no trigger step. -/
theorem matchMessage_of_uncalled (uncalled : g.Uncalled message) : g.matchMessage everyStep message = .none none := by
  have called : g.steps.filter (calledBy (Text.lower message)) = [] :=
    List.filter_eq_nil_iff.mpr fun s mem => Bool.eq_false_iff.mp (uncalled.unheard s mem)
  rw [matchMessage, if_pos (any_keywordTokens_iff.mpr uncalled.asks), called]

/-- **A match of any other message names the first trigger step.** -/
theorem trigger_matchMessage (heard : ¬g.Uncalled message) :
    (g.matchMessage everyStep message).trigger = g.triggerId? := by
  by_cases asks : ∃ s ∈ g.steps, s.keywordTokens ≠ []
  · rw [matchMessage, if_pos (any_keywordTokens_iff.mpr asks)]
    split
    · rename_i none
      refine absurd ⟨asks, fun s mem => ?_⟩ heard
      exact Bool.eq_false_iff.mpr (List.filter_eq_nil_iff.mp none s mem)
    · rfl
  · have silent : ∀ s ∈ g.steps, s.keywordTokens = [] := by simpa using asks
    rw [matchMessage_of_silent silent, trigger_matchTrigger]

/-- A message that starts no run calls no step. -/
theorem uncalled_of_ignored (asks : ∃ s ∈ g.steps, s.keywordTokens ≠ [])
    (ignored : (g.matchMessage everyStep message).triggered = false) : g.Uncalled message := by
  refine ⟨asks, fun s mem => Bool.eq_false_iff.mpr fun calls => ?_⟩
  obtain ⟨word, lists, some_char, -⟩ := calledBy_iff.mp calls
  cases ignored.symm.trans ((triggered_iff_called mem lists some_char).mpr ⟨s, mem, calls⟩)

end Graph

namespace Session

variable {σ : Type} {s : Session} {k : Stage σ} {everyStep : Bool} {message : String} {w : σ}

/-! ### What a preview says -/

/-- What a preview says of a message that starts no run. -/
def refusal (g : Graph) : String :=
  if (∃ st ∈ g.steps, st.isTrigger = true) ∧ ∀ st ∈ g.steps, st.keywordTokens = [] then noTriggerText
  else noAutomationText

theorem refusal_eq_iff {g : Graph} : refusal g = noTriggerText ↔
    (∃ st ∈ g.steps, st.isTrigger = true) ∧ ∀ st ∈ g.steps, st.keywordTokens = [] := by
  unfold refusal
  split
  · rename_i conditions
    exact iff_of_true rfl conditions
  · rename_i other
    exact iff_of_false (by decide) other

/-- **A message that starts no run** only adds a notice. -/
theorem receive_of_ignored (named : ∀ st ∈ s.graph.steps, st.id ≠ "")
    (ignored : (s.graph.matchMessage everyStep message).triggered = false) :
    s.receive k everyStep message w = (s.tell k.clock.line (refusal s.graph), w) := by
  rw [receive, if_neg (Bool.eq_false_iff.mp ignored)]
  by_cases asks : ∃ st ∈ s.graph.steps, st.keywordTokens ≠ []
  · have loud : ¬∀ st ∈ s.graph.steps, st.keywordTokens = [] := by simpa using asks
    rw [Graph.matchMessage_of_uncalled (Graph.uncalled_of_ignored asks ignored), refusal, if_neg (mt And.right loud)]
    rfl
  · have silent : ∀ st ∈ s.graph.steps, st.keywordTokens = [] := by simpa using asks
    have heard : ¬s.graph.Uncalled message := fun uncalled => asks uncalled.asks
    rw [Graph.trigger_matchMessage heard, Graph.triggerId?_eq, refusal]
    cases first : s.graph.steps.find? (·.isTrigger) with
    | none =>
      have without : ¬∃ st ∈ s.graph.steps, st.isTrigger = true := by simpa using first
      rw [if_neg (mt And.left without)]
      rfl
    | some trigger =>
      have mem := List.mem_of_find?_eq_some first
      rw [if_pos ⟨⟨trigger, mem, List.find?_some first⟩, silent⟩, Option.map_some]
      dsimp only
      rw [if_neg (named trigger mem)]

/-- A message to a session that does not wait for an answer is received like any other, after its line. -/
theorem send_of_idle (idle : s.awaiting = none) (some_text : Text.trim message ≠ "") :
    s.send k everyStep message w =
      .ok ((s.append (userLine (k.now s) (Text.trim message) [])).receive k everyStep (Text.trim message) w) := by
  have idle' : (s.append (userLine (k.now s) (Text.trim message) [])).awaiting = none := idle
  unfold send
  dsimp only
  rw [if_neg some_text, idle']

/-- Pressing a button that leads nowhere is sending its text. -/
theorem click_of_astray {entry : String} {index : Int} {e : Entry} {place : Nat} {b : Button}
    (pressed : s.button? entry index = .ok (e, place, b)) (stays : b.kind = .automation)
    (astray : s.target? e place = none) :
    s.click k everyStep entry index w =
      .ok ((s.append (userLine (k.now s) b.text [("button", .int place), ("source_entry", .str entry)])).receive k
        everyStep b.text w) := by
  let line := userLine (k.now s) b.text [("button", .int place), ("source_entry", .str entry)]
  have astray' : (s.append line).target? e place = none := astray
  unfold click
  rw [pressed]
  dsimp only
  rw [stays]
  dsimp only
  rw [astray']

/-- A line of the user and the notice that nothing came of it. -/
theorem adds_refusal (named : ∀ st ∈ s.graph.steps, st.id ≠ "")
    (ignored : (s.graph.matchMessage everyStep message).triggered = false) (line : Entry) :
    ∃ s', (s.append line).receive k everyStep message w = (s', w) ∧
      Adds s s' [line.unnamed,
        lineOf (k.clock.line (s.transcript.length + 1)) { kind := .status, text := refusal s.graph }] :=
  ⟨_, receive_of_ignored (s := s.append line) named ignored, (adds_emit _ k.clock.line _).after_line⟩

end Session

/-- **What a match names and what a preview says of it.** A match of an event names the first trigger step, and so
does a match of a message, except for a message that calls none of the steps with keywords where there are some: this
one starts no run, and no trigger step is named even if there is one. If no step has an empty id, a preview answers a
message that starts no run, typed or sent by a button that leads nowhere, with the notice that it did not match the
trigger conditions just if the graph has a trigger step and no step with keywords. -/
theorem Graph.names_trigger_unless_uncalled (g : Graph) (everyStep : Bool) :
    let first := (g.steps.find? (·.isTrigger)).map (·.id)
    (∀ integration event, (g.matchEvent integration event).trigger = first) ∧
    (∀ message, (g.matchMessage everyStep message).trigger = first ↔ ¬(first ≠ none ∧ g.Uncalled message)) ∧
    (∀ message, g.Uncalled message →
      g.matchMessage everyStep message = { triggered := false, entries := [], trigger := none, reason := .noMatch }) ∧
    ((∀ st ∈ g.steps, st.id ≠ "") → ∀ {σ : Type} (s : Session) (k : Stage σ) (w : σ), s.graph = g →
      (∀ text, s.awaiting = none → Text.trim text ≠ "" →
        (g.matchMessage everyStep (Text.trim text)).triggered = false →
        ∃ s', s.send k everyStep text w = .ok (s', w) ∧
          s.Adds s' [Session.userLine (k.now s) (Text.trim text) [],
            Session.lineOf (k.clock.line (s.transcript.length + 1)) { kind := .status, text := Session.refusal g }]) ∧
      ∀ entry index e place b, s.button? entry index = .ok (e, place, b) → b.kind = .automation →
        s.target? e place = none → (g.matchMessage everyStep b.text).triggered = false →
        ∃ s', s.click k everyStep entry index w = .ok (s', w) ∧
          s.Adds s' [Session.userLine (k.now s) b.text [("button", .int place), ("source_entry", .str entry)],
            Session.lineOf (k.clock.line (s.transcript.length + 1)) { kind := .status, text := Session.refusal g }]) ∧
    (Session.refusal g = "🤖 Message did not match trigger conditions." ↔
      first ≠ none ∧ ∀ st ∈ g.steps, st.keywordTokens = []) := by
  intro first
  have first_eq : first = g.triggerId? := g.triggerId?_eq.symm
  refine ⟨fun integration event => ?_, fun message => ?_, fun message => matchMessage_of_uncalled, fun named => ?_, ?_⟩
  · rw [first_eq, trigger_matchEvent]
  · by_cases uncalled : g.Uncalled message
    · rw [matchMessage_of_uncalled uncalled, and_iff_left uncalled, not_not, eq_comm]
      rfl
    · rw [first_eq, trigger_matchMessage uncalled]
      exact iff_of_true rfl fun both => uncalled both.2
  · rintro σ s k w rfl
    refine ⟨fun text idle some_text ignored => ?_, fun entry index e place b pressed stays astray ignored => ?_⟩
    · obtain ⟨s', received, adds⟩ := Session.adds_refusal named ignored (Session.userLine (k.now s) (Text.trim text) [])
      exact ⟨s', by rw [Session.send_of_idle idle some_text, received], adds⟩
    · obtain ⟨s', received, adds⟩ := Session.adds_refusal named ignored
        (Session.userLine (k.now s) b.text [("button", .int place), ("source_entry", .str entry)])
      exact ⟨s', by rw [Session.click_of_astray pressed stays astray, received], adds⟩
  · refine Session.refusal_eq_iff.trans (and_congr_left' ?_)
    rw [ne_eq, Option.map_eq_none_iff, List.find?_eq_none]
    simp only [not_forall, not_not, exists_prop]

/-- A graph with a trigger step, and with a step of its own for those who ask for the price. -/
def Graph.priced : Graph :=
  { table := [("in", { id := "in", body := .trigger { rule := .keyword ["hi"] } }),
      ("hello", { id := "hello", body := .message { text := "Hello" } }),
      ("price", { id := "price", body := .message { text := "It is free", triggerKeywords := some "price, cost" } })]
    edges := [⟨"in", "hello", none, none⟩] }

/-- The keyword of the trigger step does not count there, and nobody is told of the trigger conditions. -/
theorem Graph.names_trigger_unless_uncalled_priced :
    let s : Session := { graph := priced }
    let k : Stage Unit := { services := {}, clock := .counting }
    (∀ st ∈ priced.steps, st.id ≠ "") ∧ Text.trim "hi" ≠ "" ∧ priced.Uncalled "hi" ∧
    (priced.matchMessage false "hi").trigger ≠ (priced.steps.find? (·.isTrigger)).map (·.id) ∧
    (priced.matchMessage false "the price?").trigger = some "in" ∧
    ∃ s', s.send k false "hi" () = .ok (s', ()) ∧
      s.Adds s' [Session.userLine (k.now s) (Text.trim "hi") [],
        Session.lineOf (k.clock.line 1) { kind := .status, text := Session.noAutomationText }] := by
  intro s k
  have named : ∀ st ∈ priced.steps, st.id ≠ "" := by decide
  have some_text : Text.trim "hi" ≠ "" := by decide +kernel
  have uncalled : priced.Uncalled "hi" := ⟨by decide +kernel, by decide +kernel⟩
  have ignored : (priced.matchMessage false (Text.trim "hi")).triggered = false := by decide +kernel
  have refused : Session.refusal priced = Session.noAutomationText := by decide +kernel
  obtain ⟨-, names, -, told, -⟩ := priced.names_trigger_unless_uncalled false
  refine ⟨named, some_text, uncalled, fun same => (names "hi").mp same ⟨by decide, uncalled⟩, by decide +kernel, ?_⟩
  rw [← refused]
  exact (told named s k () rfl).1 "hi" rfl some_text ignored

end Parley
