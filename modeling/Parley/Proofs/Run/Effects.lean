import Parley.Proofs.Run.Rounds
import Parley.Proofs.Substitution.Values

/-!
# Where the effects of a run come from

An effect of a run is one of a step that was performed, the notice of a fault, or the notice that there is
nothing to do. What holds of all of these holds of whatever a run does.

What a step can have for an effect is told in one place (`Parley.Step.Makes`): a notice about it or a message in its
name. Each of them says something. For most of them this is because their texts begin with words of the library; a
message without text has a text of its own, what a service leaves empty is replaced by the texts of the step, and a
text that is not empty stays so when its tokens are replaced (`Parley.Bindings.resolve_ne_empty`).
-/

namespace Parley

variable {σ : Type}

/-! ### Texts -/

theorem append_ne_empty {a : String} (some_char : a ≠ "") (b : String) : a ++ b ≠ "" := by
  intro empty
  exact some_char (String.append_eq_empty_iff.mp empty).1

theorem orElseText_ne_empty (first : Option String) {other : String} (some_char : other ≠ "") :
    orElseText first other ≠ "" := by
  unfold orElseText
  split
  · split
    · exact some_char
    · assumption
  · exact some_char

/-! ### What a step does -/

/-- **What a step can have for an effect.** -/
inductive Step.Makes (s : Step) : Effect → Prop
  /-- A notice comes with some data. -/
  | notice {text : String} {metadata : Fields} (worded : text ≠ "") (data : metadata.isEmpty = false) :
      s.Makes (.notice s text metadata)
  /-- The notice of a step of no known kind comes without data. -/
  | executed (kind : String) : s.Makes (.notice s ("📝 " ++ kind ++ " step executed") [])
  | message {text : String} (worded : text ≠ "") (metadata : Fields) : s.Makes (.message s text metadata)
  /-- What a message step sends comes with the attachments and the buttons of the step. -/
  | sent {m : MessageSettings} {text : String} (body : s.body = .message m) (worded : text ≠ "") :
      s.Makes { Effect.message s text [] with attachments := m.attachments, buttons := m.buttons }

/-- The effects are what a step can have. -/
def Outcome.MadeBy (o : Outcome) (s : Step) : Prop := ∀ e ∈ o.effects, s.Makes e

theorem Outcome.madeBy_of_effects {s : Step} {o : Outcome} {e : Effect} (single : o.effects = [e])
    (made : s.Makes e) : o.MadeBy s := by
  intro e' mem
  rw [single, List.mem_singleton] at mem
  rw [mem]
  exact made

namespace Step

open Outcome

variable (s : Step)

theorem madeBy_notice {text : String} {metadata : Fields} (worded : text ≠ "") (data : metadata.isEmpty = false) :
    (ofEffect (.notice s text metadata)).MadeBy s := madeBy_of_effects rfl (.notice worded data)

theorem madeBy_misconfigured (text : String) : (misconfigured s text).MadeBy s :=
  s.madeBy_notice (append_ne_empty (by decide) text) rfl

theorem madeBy_sendMessage {m : MessageSettings} (body : s.body = .message m) (now : Moment) (context : Context) :
    (s.sendMessage m now context).MadeBy s := by
  unfold sendMessage
  dsimp only
  split
  · exact madeBy_of_effects rfl (.sent body (show noText ≠ "" by decide))
  · rename_i some_text
    split
    · have some_char : m.body ≠ "" := fun empty => some_text (by rw [empty]; rfl)
      exact madeBy_of_effects rfl (.sent body (Bindings.resolve_ne_empty _ some_char))
    · exact s.madeBy_misconfigured _

theorem makes_replyEffect (c : ReplySettings) (reply : Reply) : s.Makes (s.replyEffect c reply) := by
  have limit : orElseText c.rateLimitMessage defaultLimitMessage ≠ "" :=
    orElseText_ne_empty _ (by decide)
  have fallback : orElseText c.fallbackResponse defaultFallback ≠ "" := orElseText_ne_empty _ (by decide)
  unfold replyEffect
  dsimp only
  split
  · rename_i written
    exact .message (bne_iff_ne.mp (Bool.and_eq_true_iff.mp written).2) _
  · split
    · exact .message (orElseText_ne_empty _ limit) _
    · exact .message (orElseText_ne_empty _ fallback) _

theorem madeBy_sendReply (c : ReplySettings) (services : Services σ) (st : RunState) (w : σ) :
    (s.sendReply c services st w).1.MadeBy s := by
  unfold sendReply
  split
  · exact madeBy_of_effects rfl (s.makes_replyEffect c _)
  · exact madeBy_of_effects rfl (s.makes_replyEffect c _)

theorem madeBy_testRules (text : String) (rules : List ConditionRule) : (s.testRules text rules).MadeBy s := by
  fun_induction testRules s text rules with
  | case1 => exact s.madeBy_notice (by decide) rfl
  | case2 => exact s.madeBy_misconfigured _
  | case3 => exact s.madeBy_notice (append_ne_empty (append_ne_empty (by decide) _) _) rfl
  | case4 rule rest test found fails ih => exact ih

theorem madeBy_testMessage (c : ConditionSettings) (message : String) : (s.testMessage c message).MadeBy s := by
  unfold testMessage
  split
  · exact s.madeBy_misconfigured _
  · exact s.madeBy_testRules _ _

theorem makes_callEffect (words : CallWords) (url : String) (answer : Except ServiceFailure CallResponse) :
    s.Makes (s.callEffect words url answer) := by
  have failed (error : String) : s.Makes (callEffect.failed s words url error) :=
    .notice (append_ne_empty (append_ne_empty (append_ne_empty (append_ne_empty (append_ne_empty
      (by decide) _) _) _) _) _) rfl
  unfold callEffect
  split
  · split
    · exact .notice (append_ne_empty (append_ne_empty (append_ne_empty (append_ne_empty (append_ne_empty
        (append_ne_empty (by decide) _) _) _) _) _) _) rfl
    · exact failed _
  · exact failed _

/-- A call says something if its acknowledgement does. -/
theorem madeBy_makeCall (c : CallSettings) (words : CallWords) (services : Services σ) (now : Moment)
    (context : Context) (w : σ) (acknowledged : ∀ url, words.acknowledge url ≠ "") :
    (s.makeCall c words services now context w).1.MadeBy s := by
  unfold makeCall
  dsimp only
  generalize (if c.url = "" then "" else (context.resolve now c.url).text) = url
  split
  · exact s.madeBy_notice (acknowledged _) rfl
  · split
    · exact s.madeBy_misconfigured _
    · exact madeBy_of_effects rfl (s.makes_callEffect words url _)

theorem madeBy_wait (d : DelaySettings) : (s.wait d).MadeBy s :=
  madeBy_of_effects rfl (.notice (append_ne_empty (append_ne_empty (by decide) _) _) rfl)

theorem madeBy_askInput (i : InputSettings) (now : Moment) (context : Context) :
    (s.askInput i now context).MadeBy s := by
  have prompt : orElseText i.prompt defaultPrompt ≠ "" := orElseText_ne_empty _ (by decide)
  exact madeBy_of_effects rfl (.message (Bindings.resolve_ne_empty _ prompt) _)

/-- **Whatever a step does**, its effects are what it can have. -/
theorem madeBy_perform (r : Runner σ) (st : RunState) (w : σ) : (s.perform r st w).1.MadeBy s := by
  unfold perform
  cases body : s.body with
  | trigger t => exact fun e mem => absurd mem List.not_mem_nil
  | message m =>
    dsimp only
    exact s.madeBy_sendMessage body r.now st.context
  | reply c => exact s.madeBy_sendReply c r.services st w
  | condition c => exact s.madeBy_testMessage c st.message
  | delay d => exact s.madeBy_wait d
  | input i => exact s.madeBy_askInput i r.now st.context
  | apiCall c =>
    refine s.madeBy_makeCall c apiCallWords r.services r.now st.context w fun url => ?_
    exact append_ne_empty (append_ne_empty (by decide) _) _
  | webhook c =>
    refine s.madeBy_makeCall c webhookWords r.services r.now st.context w fun url => ?_
    exact append_ne_empty (by decide) _
  | action a => exact s.madeBy_notice (orElseText_ne_empty a.description (by decide)) rfl
  | branch b => exact s.madeBy_notice (show "🔀 Flow branched based on conditions" ≠ "" by decide) rfl
  | unknown kind settings => exact madeBy_of_effects rfl (.executed kind)

namespace Makes

variable {s : Step} {e : Effect}

/-- What a step does, it does in its name. -/
theorem step_eq (made : s.Makes e) : e.step = some s.id := by
  cases made <;> rfl

/-- It says something. -/
theorem text_ne_empty (made : s.Makes e) : e.text ≠ "" := by
  cases made with
  | notice worded data => exact worded
  | executed kind => exact append_ne_empty (append_ne_empty (by decide) _) _
  | message worded metadata => exact worded
  | sent body worded => exact worded

/-- It has the buttons of the step, or none. -/
theorem buttons_cases (made : s.Makes e) : e.buttons = [] ∨ e.buttons = s.buttons := by
  cases made with
  | notice worded data => exact .inl rfl
  | executed kind => exact .inl rfl
  | message worded metadata => exact .inl rfl
  | sent body worded => exact .inr (by rw [buttons, body])

end Makes

end Step

theorem RunFault.text_effect_ne_empty (fault : RunFault) : fault.effect.text ≠ "" := by
  cases fault <;> exact append_ne_empty (by decide) _

/-! ### What a run does -/

namespace Walker

variable {k : Walker σ} {P : Effect → Prop}

/-- What holds of all that a walker can have for an effect. -/
structure Only (k : Walker σ) (P : Effect → Prop) : Prop where
  performed : ∀ s st w, ∀ e ∈ (k.perform s st w).1.effects, P e
  fault : ∀ fault : RunFault, P fault.effect
  nothing : P noSteps

/-- The same where only the steps of a graph are performed. -/
structure OnlyOn (k : Walker σ) (g : Graph) (P : Effect → Prop) : Prop where
  performed : ∀ id s, g.step? id = some s → ∀ st w, ∀ e ∈ (k.perform s st w).1.effects, P e
  fault : ∀ fault : RunFault, P fault.effect
  nothing : P noSteps

theorem Only.on (only : k.Only P) (g : Graph) : k.OnlyOn g P :=
  ⟨fun _ s _ => only.performed s, only.fault, only.nothing⟩

namespace OnlyOn

variable {g : Graph}

theorem walk (only : k.OnlyOn g P) (st : RunState) {effects : List Effect} (before : ∀ e ∈ effects, P e)
    (w : σ) : ∀ e ∈ (k.walk g st effects w).1.effects, P e := by
  have after : ∀ {o : Outcome} {s : Step} {st entered : RunState} {effects : List Effect} {w v : σ},
      (∀ e ∈ effects, P e) → round k.maxSteps g st = .execute s entered → k.perform s entered w = (o, v) →
        ∀ e ∈ effects ++ o.effects, P e := by
    intro o s st entered effects w v before goes did e mem
    rcases List.mem_append.mp mem with early | late
    · exact before e early
    · obtain ⟨id, turned, -, there, -⟩ := execute_of_round goes
      exact only.performed id s there entered w e (did ▸ late)
  fun_induction Walker.walk k g st effects w with
  | case1 => exact before
  | case2 st effects w fault =>
    intro e mem
    rcases List.mem_append.mp mem with early | late
    · exact before e early
    · exact List.mem_singleton.mp late ▸ only.fault fault
  | case3 st effects w s entered eq o v did => exact after before eq did
  | case4 st effects w s entered eq o v did left effects' goes ih => exact ih (after before eq did)

theorem stretches (only : k.OnlyOn g P) (r : RunResult) (first : ∀ e ∈ r.effects, P e) (w : σ) :
    ∀ stretch ∈ (k.stretches g r w).1, ∀ e ∈ stretch.effects, P e := by
  fun_induction Walker.stretches k g r w with
  | case1 r w pause left waits rest u later ih =>
    have following := ih (only.walk left (fun _ none => absurd none List.not_mem_nil) w)
    rw [later] at following
    rintro stretch (_ | ⟨_, mem⟩)
    · exact first
    · exact following stretch mem
  | case2 r w ends =>
    intro stretch mem
    exact List.mem_singleton.mp mem ▸ first

/-- **What holds of every effect that a walker can have on a graph** holds of all effects of a run of the graph. -/
theorem executeAll (only : k.OnlyOn g P) (entries : List String) (message : String) (context : Context)
    (automation : String) (w : σ) :
    ∀ stretch ∈ (k.executeAll g entries message context automation w).1, ∀ e ∈ stretch.effects, P e := by
  have first : ∀ e ∈ (k.execute g entries message context automation w).1.effects, P e := by
    unfold execute
    split
    · exact fun e mem => List.mem_singleton.mp mem ▸ only.nothing
    · exact only.walk _ (fun _ none => absurd none List.not_mem_nil) w
  exact only.stretches _ first _

end OnlyOn

namespace Only

theorem walk (only : k.Only P) (g : Graph) (st : RunState) {effects : List Effect}
    (before : ∀ e ∈ effects, P e) (w : σ) : ∀ e ∈ (k.walk g st effects w).1.effects, P e :=
  (only.on g).walk st before w

/-- **What holds of every effect that a walker can have** holds of all effects of a run. -/
theorem executeAll (only : k.Only P) (g : Graph) (entries : List String) (message : String)
    (context : Context) (automation : String) (w : σ) :
    ∀ stretch ∈ (k.executeAll g entries message context automation w).1, ∀ e ∈ stretch.effects, P e :=
  (only.on g).executeAll entries message context automation w

end Only

end Walker

/-! ### The buttons of a run -/

/-- Some buttons are shown in the name of a step: those of a step of the graph with this id, or none. -/
def Graph.Renders (g : Graph) (step : Option String) (buttons : List Button) : Prop :=
  buttons = [] ∨ ∃ id s, g.step? id = some s ∧ step = some s.id ∧ buttons = s.buttons

theorem Graph.renders_nil {g : Graph} (step : Option String) : g.Renders step [] := .inl rfl

/-- **Whatever a run shows, its buttons are those of the graph**, at the step that is named with them. -/
theorem Services.only_rendered (services : Services σ) (clock : Nat → Moment) (maxSteps : Int) (g : Graph) :
    (services.walker clock maxSteps).OnlyOn g fun e => g.Renders e.step e.buttons where
  performed id s there st w e mem := by
    have made := s.madeBy_perform _ st w e mem
    rcases made.buttons_cases with none | own
    · exact .inl none
    · exact .inr ⟨id, s, there, made.step_eq, own⟩
  fault fault := by cases fault <;> exact Graph.renders_nil _
  nothing := Graph.renders_nil _

end Parley
