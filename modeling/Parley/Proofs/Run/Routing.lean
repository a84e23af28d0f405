import Parley.Proofs.Run.Trace
import Parley.Proofs.Substitution.Undefined

/-!
# What the way of a run depends on

A run goes where the graph leads. What the message says, to whom the run talks, what the clock shows and
what the services answer – or whether they answer at all – is found again in the texts of its effects, and
nowhere else.

The reason is a property of each kind of step: what it yields, apart from what is said, is known from the
step alone (`Parley.Step.perform_outline`). The loop reads nothing else of what a step yields, so two runs
that start alike go on alike, round by round. `Parley.Walker.Abreast` is the relation between two walkers
that makes this an induction; it speaks of walkers over different worlds, and the relation between the
worlds is left open so that it can say what the walkers have written down.
-/

namespace Parley

/-! ### Outlines -/

/-- An effect apart from what is said: its kind, and the id and kind of the step that has it. -/
def Effect.outline (e : Effect) : EffectKind × Option String × Option String :=
  (e.kind, e.step, e.stepType)

/-- What a step yields apart from what is said. -/
structure OutcomeOutline where
  effects : List (EffectKind × Option String × Option String) := []
  pause : Option (Float × String) := none
  awaiting : Option String := none

/-- The outcome of a step apart from what is said. -/
def Outcome.outline (o : Outcome) : OutcomeOutline :=
  { effects := o.effects.map Effect.outline, pause := o.pause, awaiting := o.awaiting }

namespace Step

/-- A single effect of a step, apart from what is said. -/
def single (s : Step) (kind : EffectKind) : OutcomeOutline :=
  { effects := [(kind, some s.id, some s.typeName)] }

/-- Whether a message can be sent: it has no text, or each positional token of its text stands for a
variable. -/
def sends (m : MessageSettings) : Bool :=
  Text.trim m.body = "" || (Text.strays m.variableNames.length m.body).isEmpty

/-- **What a step yields apart from what is said**, as it is known from the step alone. -/
def outline (s : Step) : OutcomeOutline :=
  match s.body with
  | .trigger _ => {}
  | .message m => s.single (if sends m then .message else .status)
  | .reply _ => s.single .message
  | .delay d => { s.single .status with pause := some (d.seconds, d.describe) }
  | .input i => { s.single .message with awaiting := i.targetField }
  | .condition _ => s.single .status
  | .apiCall _ => s.single .status
  | .webhook _ => s.single .status
  | .action _ => s.single .status
  | .branch _ => s.single .status
  | .unknown _ _ => s.single .status

variable {σ : Type} (s : Step)

/-- Whether a message can be sent does not depend on whom it is sent to. -/
theorem outline_sendMessage (m : MessageSettings) (now : Moment) (context : Context) :
    (s.sendMessage m now context).outline = s.single (if sends m then .message else .status) := by
  unfold sendMessage sends
  dsimp only
  by_cases blank : Text.trim m.body = ""
  · rw [if_pos blank, decide_eq_true blank, Bool.true_or, if_pos rfl]
    rfl
  · rw [if_neg blank, decide_eq_false blank, Bool.false_or, Bindings.ok_resolve]
    show Outcome.outline (if (Text.strays m.variableNames.length m.body).isEmpty = true then _ else _) = _
    split <;> rfl

/-- Whatever the service answers, a message is sent. -/
theorem outline_replyEffect (c : ReplySettings) (reply : Reply) :
    (Outcome.ofEffect (s.replyEffect c reply)).outline = s.single .message := by
  unfold replyEffect
  dsimp only
  split
  · rfl
  · split <;> rfl

theorem outline_sendReply (c : ReplySettings) (services : Services σ) (st : RunState) (w : σ) :
    (s.sendReply c services st w).1.outline = s.single .message := by
  unfold sendReply
  split
  · exact s.outline_replyEffect c _
  · exact s.outline_replyEffect c _

/-- Whichever rule the message meets, there is a notice. -/
theorem outline_testRules (text : String) (rules : List ConditionRule) :
    (s.testRules text rules).outline = s.single .status := by
  fun_induction testRules s text rules with
  | case1 => rfl
  | case2 rule rest untestable => rfl
  | case3 rule rest test found meets => rfl
  | case4 rule rest test found fails ih => exact ih

theorem outline_testMessage (c : ConditionSettings) (message : String) :
    (s.testMessage c message).outline = s.single .status := by
  unfold testMessage
  split
  · rfl
  · exact s.outline_testRules _ _

theorem outline_callEffect (words : CallWords) (url : String) (answer : Except ServiceFailure CallResponse) :
    (Outcome.ofEffect (s.callEffect words url answer)).outline = s.single .status := by
  unfold callEffect
  split
  · split <;> rfl
  · rfl

/-- Whatever comes of a call, and whether or not it is made, there is a notice. -/
theorem outline_makeCall (c : CallSettings) (words : CallWords) (services : Services σ) (now : Moment)
    (context : Context) (w : σ) :
    (s.makeCall c words services now context w).1.outline = s.single .status := by
  unfold makeCall
  dsimp only
  generalize (if c.url = "" then "" else (context.resolve now c.url).text) = url
  split
  · rfl
  · split
    · rfl
    · exact s.outline_callEffect words url _

/-- **What a step yields apart from what is said is known from the step alone.** -/
theorem perform_outline (r : Runner σ) (st : RunState) (w : σ) :
    (s.perform r st w).1.outline = s.outline := by
  unfold perform outline
  cases s.body with
  | trigger t => rfl
  | message m =>
    dsimp only
    exact s.outline_sendMessage m r.now st.context
  | reply c => exact s.outline_sendReply c r.services st w
  | condition c => exact s.outline_testMessage c st.message
  | delay d => rfl
  | input i => rfl
  | apiCall c => exact s.outline_makeCall c apiCallWords r.services r.now st.context w
  | webhook c => exact s.outline_makeCall c webhookWords r.services r.now st.context w
  | action a => rfl
  | branch b => rfl
  | unknown kind settings => rfl

end Step

/-! ### States apart from what is said -/

/-- Whether two runs stand at the same place, with the same places to come and behind them. -/
structure RunState.SamePlace (st st' : RunState) : Prop where
  current : st.current = st'.current
  pending : st.pending = st'.pending
  visited : st.visited = st'.visited
  executed : st.executed = st'.executed
  awaiting : st.awaiting = st'.awaiting

namespace RunState.SamePlace

variable {st st' : RunState} {g : Graph}

theorem turn (same : st.SamePlace st') :
    (st.turn = none ∧ st'.turn = none) ∨
    ∃ id next next', st.turn = some (id, next) ∧ st'.turn = some (id, next') ∧ next.SamePlace next' := by
  obtain ⟨current, pending, visited, executed, awaiting⟩ := same
  unfold RunState.turn
  rw [← current, ← pending]
  cases at_step : st.current with
  | some id => exact .inr ⟨id, st, st', rfl, rfl, current, pending, visited, executed, awaiting⟩
  | none =>
    cases entries : st.pending with
    | nil => exact .inl ⟨rfl, rfl⟩
    | cons id rest => exact .inr ⟨id, _, _, rfl, rfl, rfl, rfl, rfl, executed, awaiting⟩

theorem enter (same : st.SamePlace st') (id : String) : (st.enter id).SamePlace (st'.enter id) where
  current := same.current
  pending := same.pending
  visited := congrArg (· ++ [id]) same.visited
  executed := congrArg (· + 1) same.executed
  awaiting := same.awaiting

/-- A step leaves both runs at the same place if it yields the same apart from what is said. -/
theorem leave (same : st.SamePlace st') (id : String) {o o' : Outcome} (alike : o.outline = o'.outline) :
    (st.leave g id o).SamePlace (st'.leave g id o') := by
  have asks : o.awaiting = o'.awaiting := congrArg OutcomeOutline.awaiting alike
  refine ⟨rfl, same.pending, same.visited, same.executed, ?_⟩
  unfold RunState.leave
  rw [asks, same.awaiting]

theorem hasMore (same : st.SamePlace st') : st.hasMore = st'.hasMore := by
  unfold RunState.hasMore
  rw [same.current, same.pending]

/-- **From the same place, both runs do the same next.** -/
theorem round (same : st.SamePlace st') (maxSteps : Int) :
    (Walker.round maxSteps g st = .finish ∧ Walker.round maxSteps g st' = .finish) ∨
    (∃ fault, Walker.round maxSteps g st = .stop fault ∧ Walker.round maxSteps g st' = .stop fault) ∨
    ∃ s entered entered', Walker.round maxSteps g st = .execute s entered ∧
      Walker.round maxSteps g st' = .execute s entered' ∧ entered.SamePlace entered' := by
  unfold Walker.round
  rcases same.turn with ⟨none_left, none_left'⟩ | ⟨id, next, next', turned, turned', same⟩
  · rw [none_left, none_left']
    exact .inl ⟨rfl, rfl⟩
  · rw [turned, turned']
    dsimp only
    rw [← same.visited, ← same.executed]
    -- the tests of a round read the graph and the place, and both runs pass or fail them together
    cases g.step? id with
    | none => exact .inr (.inl ⟨_, rfl, rfl⟩)
    | some s =>
      dsimp only
      by_cases passed : next.visited.contains id = true
      · rw [if_pos passed, if_pos passed]
        exact .inr (.inl ⟨_, rfl, rfl⟩)
      · rw [if_neg passed, if_neg passed]
        by_cases long : maxSteps ≤ next.executed
        · rw [if_pos long, if_pos long]
          exact .inr (.inl ⟨_, rfl, rfl⟩)
        · rw [if_neg long, if_neg long]
          exact .inr (.inr ⟨s, _, _, rfl, rfl, same.enter id⟩)

end RunState.SamePlace

/-! ### Results apart from what is said -/

/-- What comes of a run, or of a stretch of it, apart from what is said. -/
structure RunOutline where
  effects : List (EffectKind × Option String × Option String)
  status : String
  suspension : Option Suspension
  error : Option String
  awaiting : Option String

/-- The result of a run apart from what is said. -/
def RunResult.outline (r : RunResult) : RunOutline :=
  { effects := r.effects.map Effect.outline
    status := r.ending.word
    suspension := r.suspension?.map (·.1)
    error := r.fault?.map (·.message)
    awaiting := r.awaiting }

/-- Whether two stretches have come to the same place, where they wait or end alike. -/
inductive Ending.SamePlace : Ending → Ending → Prop
  | completed : SamePlace .completed .completed
  | stopped (fault : RunFault) : SamePlace (.stopped fault) (.stopped fault)
  | suspended (pause : Suspension) {left left' : RunState} (same : left.SamePlace left') :
    SamePlace (.suspended pause left) (.suspended pause left')

/-- Whether two stretches are the same apart from what is said. -/
structure RunResult.Matches (r r' : RunResult) : Prop where
  effects : r.effects.map Effect.outline = r'.effects.map Effect.outline
  ending : r.ending.SamePlace r'.ending
  awaiting : r.awaiting = r'.awaiting

theorem RunResult.Matches.outline {r r' : RunResult} (same : r.Matches r') : r.outline = r'.outline := by
  obtain ⟨effects, ending, awaiting⟩ := r
  obtain ⟨effects', ending', awaiting'⟩ := r'
  obtain ⟨kinds, ends, asks⟩ := same
  dsimp only at kinds ends asks
  unfold RunResult.outline RunResult.suspension? RunResult.fault?
  cases ends with
  | completed => simp only [kinds, asks]
  | stopped fault => simp only [kinds, asks]
  | suspended pause same => simp only [kinds, asks, Ending.word, Option.map_some]

/-! ### Walkers abreast -/

namespace Walker

variable {σ τ : Type} {k : Walker σ} {l : Walker τ} {R : σ → τ → Prop} {g : Graph}

/-- **Two walkers abreast**: they may take as many steps, what steps yield is the same apart from what is
said, and the worlds stay in some relation. -/
structure Abreast (k : Walker σ) (l : Walker τ) (R : σ → τ → Prop) : Prop where
  limit : k.maxSteps = l.maxSteps
  perform : ∀ s st st' w v, R w v → (k.perform s st w).1.outline = (l.perform s st' v).1.outline ∧
    R (k.perform s st w).2 (l.perform s st' v).2

namespace Abreast

/-- **Walkers abreast walk abreast** from the same place. -/
theorem walk (h : Abreast k l R) {st st' : RunState} (same : st.SamePlace st')
    {effects effects' : List Effect} (before : effects.map Effect.outline = effects'.map Effect.outline)
    {w : σ} {v : τ} (worlds : R w v) :
    (k.walk g st effects w).1.Matches (l.walk g st' effects' v).1 ∧
    R (k.walk g st effects w).2 (l.walk g st' effects' v).2 := by
  -- the induction is on the rounds of the one walk, with which the other keeps up
  induction allowed : (k.maxSteps - st.executed).toNat using Nat.strongRecOn
    generalizing st st' effects effects' w v with
  | ind n ih =>
    rcases same.round (g := g) k.maxSteps with
      ⟨finishes, finishes'⟩ | ⟨fault, stops, stops'⟩ | ⟨s, entered, entered', goes, goes', inside⟩
    · rw [walk_finish finishes, walk_finish (h.limit ▸ finishes')]
      exact ⟨⟨before, .completed, same.awaiting⟩, worlds⟩
    · rw [walk_stop stops, walk_stop (h.limit ▸ stops')]
      refine ⟨⟨?_, .stopped fault, same.awaiting⟩, worlds⟩
      rw [List.map_append, List.map_append, before]
    · obtain ⟨o, w', did⟩ : ∃ o w', k.perform s entered w = (o, w') := ⟨_, _, rfl⟩
      obtain ⟨o', v', did'⟩ : ∃ o' v', l.perform s entered' v = (o', v') := ⟨_, _, rfl⟩
      obtain ⟨alike, worlds'⟩ := h.perform s entered entered' w v worlds
      rw [did, did'] at alike worlds'
      have left := inside.leave (g := g) s.id alike
      have after : (effects ++ o.effects).map Effect.outline =
          (effects' ++ o'.effects).map Effect.outline := by
        have own : o.effects.map Effect.outline = o'.effects.map Effect.outline :=
          congrArg OutcomeOutline.effects alike
        rw [List.map_append, List.map_append, before, own]
      have pauses : pause (entered.leave g s.id o) o = pause (entered'.leave g s.id o') o' := by
        have waits : o.pause = o'.pause := congrArg OutcomeOutline.pause alike
        rw [pause, pause, left.hasMore, waits]
      cases waits : pause (entered.leave g s.id o) o with
      | some wait =>
        rw [walk_wait goes did waits, walk_wait (h.limit ▸ goes') did' (pauses ▸ waits), left.current]
        exact ⟨⟨after, .suspended _ left, left.awaiting⟩, worlds'⟩
      | none =>
        rw [walk_on goes did waits, walk_on (h.limit ▸ goes') did' (pauses ▸ waits)]
        have count := round_executed goes
        have less : (k.maxSteps - (entered.leave g s.id o).executed).toNat < n := by
          show (k.maxSteps - entered.executed).toNat < n
          omega
        exact ih _ less left after worlds' rfl

/-- All stretches of two runs are the same apart from what is said, if the first ones are. -/
theorem stretches (h : Abreast k l R) {r r' : RunResult} (same : r.Matches r') {w : σ} {v : τ}
    (worlds : R w v) :
    (k.stretches g r w).1.map RunResult.outline = (l.stretches g r' v).1.map RunResult.outline ∧
    R (k.stretches g r w).2 (l.stretches g r' v).2 := by
  fun_induction Walker.stretches k g r w generalizing r' v with
  | case1 r w wait left waits rest u later ih =>
    -- both wait at the same place, and are resumed from there
    obtain ⟨left', waits', place⟩ : ∃ left', r'.ending = .suspended wait left' ∧ left.SamePlace left' := by
      have ends := same.ending
      rw [waits] at ends
      generalize r'.ending = ending at ends
      cases ends with
      | suspended pause place => exact ⟨_, rfl, place⟩
    obtain ⟨next, worlds'⟩ := h.walk (g := g) place (List.map_nil.trans List.map_nil.symm) worlds
    obtain ⟨following, worlds''⟩ := ih next worlds'
    rw [later] at following worlds''
    rw [stretches_waits waits']
    constructor
    · rw [List.map_cons, List.map_cons, same.outline]
      exact congrArg _ following
    · exact worlds''
  | case2 r w ends =>
    have ends' : ∀ wait left, r'.ending ≠ .suspended wait left := by
      intro wait left waits'
      have ends'' := same.ending
      rw [waits'] at ends''
      generalize ending : r.ending = ending' at ends''
      cases ends'' with
      | suspended pause place => exact ends _ _ ending
    rw [stretches_ends ends', List.map_singleton, List.map_singleton, same.outline]
    exact ⟨rfl, worlds⟩

/-- **Runs of walkers abreast are the same apart from what is said**, whatever they are told. -/
theorem executeAll (h : Abreast k l R) (entries : List String) (message message' : String)
    (context context' : Context) (automation automation' : String) {w : σ} {v : τ} (worlds : R w v) :
    (k.executeAll g entries message context automation w).1.map RunResult.outline =
      (l.executeAll g entries message' context' automation' v).1.map RunResult.outline ∧
    R (k.executeAll g entries message context automation w).2
      (l.executeAll g entries message' context' automation' v).2 := by
  have first : (k.execute g entries message context automation w).1.Matches
        (l.execute g entries message' context' automation' v).1 ∧
      R (k.execute g entries message context automation w).2
        (l.execute g entries message' context' automation' v).2 := by
    unfold execute
    split
    · exact ⟨⟨rfl, .completed, rfl⟩, worlds⟩
    · have start : RunState.SamePlace { automation, message, context, pending := entries }
          { automation := automation', message := message', context := context', pending := entries } :=
        ⟨rfl, rfl, rfl, rfl, rfl⟩
      have nothing : ([] : List Effect).map Effect.outline = ([] : List Effect).map Effect.outline := rfl
      exact h.walk start nothing worlds
  exact h.stretches first.1 first.2

/-- Walkers abreast write down the same steps. -/
theorem noting (h : Abreast k l R) :
    Abreast k.noting l.noting fun w v => R w.1 v.1 ∧ w.2 = v.2 where
  limit := h.limit
  perform := by
    rintro s st st' ⟨w, log⟩ ⟨v, _⟩ ⟨worlds, rfl⟩
    obtain ⟨alike, worlds'⟩ := h.perform s st st' w v worlds
    exact ⟨alike, worlds', rfl⟩

end Abreast

end Walker

/-! ### Runs -/

variable {σ τ : Type}

theorem Services.abreast (services : Services σ) (services' : Services τ) (clock clock' : Nat → Moment)
    (maxSteps : Int) :
    Walker.Abreast (services.walker clock maxSteps) (services'.walker clock' maxSteps)
      fun _ _ => True where
  limit := rfl
  perform s st st' w v _ :=
    ⟨(s.perform_outline _ st w).trans (s.perform_outline _ st' v).symm, trivial⟩

/-- **The way of a run does not depend on data.** Let two runs start at the same entries of the same graph,
with as many steps allowed, and let everything else be different: the messages, the recipients, the
automations, the clocks from step to step, and the services with all that they answer or fail to answer.
Each run is executed and then resumed whenever it waits. Then both perform the same steps in the same
order, and stretch by stretch they have effects of the same kinds by the same steps, wait at the same
delays for as long, and end with the same status, error and field still to be answered. -/
theorem Services.executeAll_outline (services : Services σ) (services' : Services τ)
    (clock clock' : Nat → Moment) (maxSteps : Int) (g : Graph) (entries : List String)
    (message message' : String) (context context' : Context) (automation automation' : String)
    (w : σ) (v : τ) :
    let k := services.walker clock maxSteps
    let l := services'.walker clock' maxSteps
    let run := k.executeAll g entries message context automation w
    let run' := l.executeAll g entries message' context' automation' v
    let noted := k.noting.executeAll g entries message context automation (w, [])
    let noted' := l.noting.executeAll g entries message' context' automation' (v, [])
    (noted.1 = run.1 ∧ noted'.1 = run'.1 ∧ noted.2.2 = noted'.2.2) ∧
    run.1.map RunResult.outline = run'.1.map RunResult.outline := by
  intro k l run run' noted noted'
  have abreast : k.Abreast l fun _ _ => True := services.abreast services' clock clock' maxSteps
  have told : run = (noted.1, noted.2.1) :=
    k.noting_over.executeAll g entries message context automation (w, [])
  have told' : run' = (noted'.1, noted'.2.1) :=
    l.noting_over.executeAll g entries message' context' automation' (v, [])
  obtain ⟨same, -, steps⟩ := abreast.noting.executeAll (g := g) entries message message' context context'
    automation automation' (w := (w, [])) (v := (v, [])) ⟨trivial, rfl⟩
  refine ⟨⟨by rw [told], by rw [told'], steps⟩, ?_⟩
  rw [told, told']
  exact same

end Parley
