import Parley.Proofs.Graph.Warnings
import Parley.Proofs.Graph.Whole
import Parley.Proofs.Run.Through
import Parley.Proofs.Substitution.Values

/-!
# Calls without an address

Two kinds of steps make calls, and both read the address from their settings. A builder is warned of a step
that has none, and a run that comes to such a step says so and calls nobody. The warning looks at the address
as it is written, and the run at what becomes of it when its tokens are replaced. The two agree because the
tokens of a text never make it an empty one (`Parley.Bindings.resolve_ne_empty`): what is written at an
address is called, exactly once, and there is no other step of which the builder is warned
(`Parley.Graph.warned_iff_uncalled`).
-/

namespace Parley

namespace Step

variable {σ : Type} {s : Step} {c : CallSettings} {words : CallWords}

/-! ### Steps that make calls -/

/-- The settings of a step that makes a call, and how the call is spoken of. -/
def calls? (s : Step) : Option (CallSettings × CallWords) :=
  match s.body with
  | .apiCall c => some (c, apiCallWords)
  | .webhook c => some (c, webhookWords)
  | _ => none

theorem calls?_eq_some : s.calls? = some (c, words) ↔
    (s.body = .apiCall c ∧ words = apiCallWords) ∨ (s.body = .webhook c ∧ words = webhookWords) := by
  unfold calls?
  cases s.body <;> simp [eq_comm]

/-- Both kinds of steps that make calls are performed in one way. -/
theorem perform_of_calls? (calls : s.calls? = some (c, words)) (r : Runner σ) (st : RunState) (w : σ) :
    s.perform r st w = s.makeCall c words r.services r.now st.context w := by
  rw [perform]
  rcases calls?_eq_some.mp calls with ⟨body, rfl⟩ | ⟨body, rfl⟩ <;> rw [body]

/-- The call that a step makes at its address. -/
def addressed (c : CallSettings) (now : Moment) (context : Context) : CallRequest :=
  callRequest c (context.resolve now c.url).text now context

theorem url_addressed_ne_empty (some_char : c.url ≠ "") (now : Moment) (context : Context) :
    (addressed c now context).url ≠ "" :=
  Bindings.resolve_ne_empty _ some_char

variable {services : Services σ} {client : CallRequest → σ → Except ServiceFailure CallResponse × σ}

/-- A step without an address calls nobody. -/
theorem makeCall_of_no_url (present : services.call = some client) (nowhere : c.url = "") (now : Moment)
    (context : Context) (w : σ) :
    s.makeCall c words services now context w = (.misconfigured s "No URL configured for this step", w) := by
  simp only [makeCall, present, if_pos nowhere, ↓reduceIte]

/-- **A step with an address makes its call**, and tells what came of it. -/
theorem makeCall_of_url (present : services.call = some client) (some_char : c.url ≠ "") (now : Moment)
    (context : Context) (w : σ) :
    s.makeCall c words services now context w =
      (.ofEffect (s.callEffect words (addressed c now context).url (client (addressed c now context) w).1),
        (client (addressed c now context) w).2) := by
  have somewhere : (context.resolve now c.url).text ≠ "" := url_addressed_ne_empty some_char now context
  simp only [makeCall, present, if_neg some_char, if_neg somewhere]
  rfl

/-- What comes of a call is told in other words than that there is no address. -/
theorem text_callEffect_ne (calls : s.calls? = some (c, words)) (url : String)
    (answer : Except ServiceFailure CallResponse) :
    (s.callEffect words url answer).text ≠ "⚠️ No URL configured for this step" := by
  intro same
  -- the first letter, or the sign in front of it, is another one
  have start := congrArg (fun text => text.toList.take 4) same
  rcases calls?_eq_some.mp calls with ⟨-, rfl⟩ | ⟨-, rfl⟩
  all_goals
    cases answer with
    | error failure =>
      simp [callEffect, callEffect.failed, Effect.notice, apiCallWords, webhookWords] at start
    | ok r =>
      cases ok : r.ok <;>
        simp [callEffect, callEffect.failed, Effect.notice, apiCallWords, webhookWords, ok] at start

/-! ### What such a step says and asks -/

section Performed

variable {r : Runner σ} {st : RunState} {w : σ}

/-- **A step says that there is no address** exactly if its settings have none, whatever the service answers. -/
theorem reports_no_url_iff (calls : s.calls? = some (c, words)) (present : r.services.call.isSome = true) :
    (∃ e ∈ (s.perform r st w).1.effects, e.text = "⚠️ No URL configured for this step") ↔ c.url = "" := by
  obtain ⟨client, present⟩ := Option.isSome_iff_exists.mp present
  rw [s.perform_of_calls? calls]
  by_cases nowhere : c.url = ""
  · rw [makeCall_of_no_url present nowhere]
    exact iff_of_true ⟨_, List.mem_singleton.mpr rfl, rfl⟩ nowhere
  · rw [makeCall_of_url present nowhere]
    refine iff_of_false ?_ nowhere
    rintro ⟨e, mem, text⟩
    rw [List.mem_singleton.mp mem] at text
    exact text_callEffect_ne calls _ _ text

/-- **A step asks for one call** if its settings have an address, and for none otherwise. -/
theorem noted_of_calls? (calls : s.calls? = some (c, words)) (present : r.services.call.isSome = true) :
    (s.perform r.recording st (w, [])).2.2 =
      if c.url = "" then [] else [.call (addressed c r.now st.context)] := by
  obtain ⟨client, present⟩ := Option.isSome_iff_exists.mp present
  have recorded : r.recording.services.call = some fun request w =>
      ((client request w.1).1, (client request w.1).2, w.2 ++ [.call request]) := by
    simp only [Runner.recording, Services.recording, present, Option.map_some]
  rw [s.perform_of_calls? calls]
  by_cases nowhere : c.url = ""
  · rw [makeCall_of_no_url recorded nowhere, if_pos nowhere]
  · rw [makeCall_of_url recorded nowhere, if_neg nowhere]
    rfl

end Performed

/-! ### The warning -/

/-- The only thing that a builder is told about the settings of a call is that it has no address. -/
theorem findings_of_calls? (calls : s.calls? = some (c, words)) :
    s.findings = if c.url = "" then [.noUrl s.id] else [] := by
  rw [findings]
  rcases calls?_eq_some.mp calls with ⟨body, -⟩ | ⟨body, -⟩ <;> rw [body]

/-- **Which steps are said to have no address**: those that make calls and have none in their settings. -/
theorem noUrl_mem_findings {id : String} : .noUrl id ∈ s.findings ↔
    s.id = id ∧ ∃ c words, s.calls? = some (c, words) ∧ c.url = "" := by
  cases calls : s.calls? with
  | some call =>
    obtain ⟨c, words⟩ := call
    rw [findings_of_calls? calls]
    by_cases nowhere : c.url = ""
    · simp only [if_pos nowhere, List.mem_singleton, Finding.noUrl.injEq]
      exact ⟨fun same => ⟨same.symm, c, words, rfl, nowhere⟩, fun told => told.1.symm⟩
    · simp [nowhere]
  | none =>
    unfold calls? at calls
    unfold findings
    cases body : s.body with
    | message m => by_cases blank : Text.trim m.body = "" <;> simp [blank]
    | apiCall c => rw [body] at calls; cases calls
    | webhook c => rw [body] at calls; cases calls
    | _ => simp

end Step

namespace Graph

open Step

variable {g : Graph} {s : Step} {c : CallSettings} {words : CallWords}

/-- In a whole graph, the warning that a step has no address is about the settings of that step. -/
theorem Whole.noUrl_mem_findings (whole : g.Whole) (mem : s ∈ g.steps)
    (calls : s.calls? = some (c, words)) : .noUrl s.id ∈ g.findings ↔ c.url = "" := by
  have unstructured : .noUrl s.id ∉ g.structureFindings := by
    intro there
    unfold structureFindings at there
    split at there
    · split at there <;> simp at there
    · simp at there
  rw [findings, List.mem_append, or_iff_right unstructured, List.mem_flatMap]
  constructor
  · rintro ⟨t, there, told⟩
    obtain ⟨same, c', words', calls', nowhere⟩ := Step.noUrl_mem_findings.mp told
    -- no other step has the id
    have found := (whole.step?_eq_some_iff.mpr ⟨there, same⟩).symm.trans
      (whole.step?_eq_some_iff.mpr ⟨mem, rfl⟩)
    cases Option.some.inj found
    cases calls.symm.trans calls'
    exact nowhere
  · exact fun nowhere => ⟨s, mem, Step.noUrl_mem_findings.mpr ⟨rfl, c, words, calls, nowhere⟩⟩

/-- **The warning foretells what a run does.** Take a step that makes calls in a graph that was built in any way,
or in a snapshot of it, and perform it with a service for calls, whatever the service answers or changes. The step
says that no address is configured, and calls nobody, exactly if the builder is warned so of the step. If the
builder is not warned, the step says no such thing and makes exactly one call, at an address that is not empty. -/
theorem warned_iff_uncalled {σ : Type} (changes : List Edit) (frozen : Bool) (s : Step)
    (mem : s ∈ (edits {} changes).steps) (calls : s.calls?.isSome = true) (r : Runner σ)
    (present : r.services.call.isSome = true) (st : RunState) (w : σ) :
    let g : Graph := { edits {} changes with frozen }
    let done := s.perform r st w
    let noted := s.perform r.recording st (w, [])
    let warned := ∃ f ∈ g.findings,
      f.step? = some s.id ∧ f.severity = "warning" ∧ f.message = "No URL configured"
    let reports := ∃ e ∈ done.1.effects, e.text = "⚠️ No URL configured for this step"
    (noted.1 = done.1 ∧ noted.2.1 = done.2) ∧
    (reports ∧ noted.2.2 = [] ↔ warned) ∧
    (¬warned → ¬reports ∧ ∃ request, noted.2.2 = [.call request] ∧ request.url ≠ "") := by
  intro g done noted warned reports
  have whole : g.Whole := { Whole.empty.edits changes with }
  obtain ⟨⟨c, words⟩, calls⟩ := Option.isSome_iff_exists.mp calls
  have warns : warned ↔ c.url = "" := by
    rw [← whole.noUrl_mem_findings mem calls]
    constructor
    · rintro ⟨f, told, about, -, words⟩
      obtain ⟨id, rfl⟩ := Finding.message_eq_noUrl_iff.mp words
      cases about
      exact told
    · exact fun told => ⟨_, told, rfl, rfl, rfl⟩
  have told : reports ↔ c.url = "" := reports_no_url_iff calls present
  have asks : noted.2.2 = if c.url = "" then [] else [.call (addressed c r.now st.context)] :=
    noted_of_calls? calls present
  have same : done = (noted.1, noted.2.1) := r.recording_over.perform s st (w, [])
  refine ⟨by rw [same]; exact ⟨rfl, rfl⟩, ?_⟩
  rw [warns, told, asks]
  refine ⟨⟨And.left, fun nowhere => ⟨nowhere, if_pos nowhere⟩⟩, fun some_char => ⟨some_char, ?_⟩⟩
  exact ⟨_, if_neg some_char, url_addressed_ne_empty some_char r.now st.context⟩

/-- A step whose address is a token. -/
def pingStep : Step := { id := "ping", body := .apiCall { url := "\x7b\x7blink\x7d\x7d", method := "GET" } }

/-- An address is called even if it is a token that stands for an empty value, and the service fails. -/
theorem warned_iff_uncalled_token :
    let g : Graph := { edits {} [.addStep (.ok pingStep)] with frozen := true }
    let r : Runner Unit :=
      { services := { call := some fun _ w => (.error ⟨"out of reach", "unreachable"⟩, w) }, now := ⟨0, none⟩ }
    let st : RunState :=
      { automation := "shop", message := "hi",
        context := { recipient := "ann", values := [("link", "")] } }
    pingStep ∈ g.steps ∧ (∀ f ∈ g.findings, f.message ≠ "No URL configured") ∧
      ∃ request, (pingStep.perform r.recording st ((), [])).2.2 = [.call request] ∧ request.url ≠ "" := by
  intro g r st
  have mem : pingStep ∈ g.steps := List.mem_singleton.mpr rfl
  have quiet : ∀ f ∈ g.findings, f.message ≠ "No URL configured" := by decide +kernel
  obtain ⟨-, -, calls⟩ := warned_iff_uncalled [.addStep (.ok pingStep)] true pingStep mem rfl r rfl st ()
  refine ⟨mem, quiet, (calls ?_).2⟩
  rintro ⟨f, told, -, -, words⟩
  exact quiet f told words

end Graph

end Parley
