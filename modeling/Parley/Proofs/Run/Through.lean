import Parley.Proofs.Run.Rounds

/-!
# Runs that wait and runs that do not

Delays cut a run into stretches, and between two of them nothing is left of the run but its state. Here
the run is compared with one that takes no notice of its delays: `Parley.Walker.walkThrough` is the loop of
`Parley.Walker.walk` without the question whether to wait. Told one after the other, the stretches are that
uncut run, effect by effect and request by request (`Parley.Services.executeAll_eq_through`).

The reason is that the loop looks at nothing but the state of the run, the world, and the effects so far,
and that it only ever adds to the effects. A stretch that waits therefore stops in the middle of the
uncut walk (`Parley.Walker.walkThrough_of_walk`), and the next stretch takes up the rest of it.
-/

namespace Parley

namespace Walker

variable {σ τ : Type} {k : Walker σ} {g : Graph} {st entered : RunState} {s : Step} {w v : σ}
  {effects : List Effect} {r : RunResult}

/-! ### The loop without waiting -/

/-- A walk on from a state, after some effects, that does not wait at delays. -/
def walkThrough (k : Walker σ) (g : Graph) (st : RunState) (effects : List Effect) (w : σ) :
    RunResult × σ :=
  match _h : round k.maxSteps g st with
  | .finish => ({ effects, ending := .completed, awaiting := st.awaiting }, w)
  | .stop fault =>
    ({ effects := effects ++ [fault.effect], ending := .stopped fault, awaiting := st.awaiting }, w)
  | .execute s entered =>
    let (o, w) := k.perform s entered w
    walkThrough k g (entered.leave g s.id o) (effects ++ o.effects) w
termination_by (k.maxSteps - st.executed).toNat
decreasing_by
  have bound := round_executed _h
  simp only [RunState.leave]
  omega

/-- Runs a graph from some entries for one message without waiting at delays. -/
def executeThrough (k : Walker σ) (g : Graph) (entries : List String) (message : String)
    (context : Context) (automation : String) (w : σ) : RunResult × σ :=
  if entries.isEmpty then ({ effects := [noSteps], ending := .completed }, w)
  else k.walkThrough g { automation, message, context, pending := entries } [] w

theorem walkThrough_finish (h : round k.maxSteps g st = .finish) :
    k.walkThrough g st effects w = ({ effects, ending := .completed, awaiting := st.awaiting }, w) := by
  rw [walkThrough]
  split
  · rfl
  · rename_i eq
    cases h.symm.trans eq
  · rename_i eq
    cases h.symm.trans eq

theorem walkThrough_stop {fault : RunFault} (h : round k.maxSteps g st = .stop fault) :
    k.walkThrough g st effects w =
      ({ effects := effects ++ [fault.effect], ending := .stopped fault, awaiting := st.awaiting }, w) := by
  rw [walkThrough]
  split
  · rename_i eq
    cases h.symm.trans eq
  · rename_i eq
    cases h.symm.trans eq
    rfl
  · rename_i eq
    cases h.symm.trans eq

theorem walkThrough_on {o : Outcome} (h : round k.maxSteps g st = .execute s entered)
    (did : k.perform s entered w = (o, v)) :
    k.walkThrough g st effects w =
      k.walkThrough g (entered.leave g s.id o) (effects ++ o.effects) v := by
  rw [walkThrough]
  split
  · rename_i eq
    cases h.symm.trans eq
  · rename_i eq
    cases h.symm.trans eq
  · rename_i eq
    cases h.symm.trans eq
    simp only [did]

/-- Effects that were there before stay in front, and make no other difference. -/
theorem walkThrough_append (k : Walker σ) (g : Graph) (st : RunState) (before effects : List Effect)
    (w : σ) :
    k.walkThrough g st (before ++ effects) w =
      ({ (k.walkThrough g st effects w).1 with
          effects := before ++ (k.walkThrough g st effects w).1.effects },
        (k.walkThrough g st effects w).2) := by
  fun_induction Walker.walkThrough k g st effects w with
  | case1 st effects w eq => rw [walkThrough_finish eq]
  | case2 st effects w fault eq => rw [walkThrough_stop eq, List.append_assoc]
  | case3 st effects w s entered eq o v did ih => rw [walkThrough_on eq did, List.append_assoc, ih]

/-- A walk that does not wait does not end as one that waits. -/
theorem walkThrough_ne_suspended (k : Walker σ) (g : Graph) (st : RunState) (effects : List Effect)
    (w : σ) (wait : Suspension) (left : RunState) :
    (k.walkThrough g st effects w).1.ending ≠ .suspended wait left := by
  fun_induction Walker.walkThrough k g st effects w with
  | case1 => exact fun eq => Ending.noConfusion eq
  | case2 => exact fun eq => Ending.noConfusion eq
  | case3 st effects w s entered eq o v did ih => exact ih

/-- Walkers of which one does what the other does also walk through alike. -/
theorem Over.walkThrough {l : Walker τ} {view : τ → σ} (h : l.Over k view) (g : Graph) (st : RunState)
    (effects : List Effect) (u : τ) :
    k.walkThrough g st effects (view u) =
      ((l.walkThrough g st effects u).1, view (l.walkThrough g st effects u).2) := by
  fun_induction Walker.walkThrough l g st effects u with
  | case1 st effects u eq => rw [walkThrough_finish (h.limit ▸ eq)]
  | case2 st effects u fault eq => rw [walkThrough_stop (h.limit ▸ eq)]
  | case3 st effects u s entered eq o u' did ih =>
    have same := h.perform s entered u
    rw [did] at same
    rw [walkThrough_on (h.limit ▸ eq) same, ih]

theorem Over.executeThrough {l : Walker τ} {view : τ → σ} (h : l.Over k view) (g : Graph)
    (entries : List String) (message : String) (context : Context) (automation : String) (u : τ) :
    k.executeThrough g entries message context automation (view u) =
      ((l.executeThrough g entries message context automation u).1,
        view (l.executeThrough g entries message context automation u).2) := by
  unfold Walker.executeThrough
  split
  · rfl
  · exact h.walkThrough g _ [] u

/-! ### Stretches of an uncut walk -/

/-- **Where a stretch stops in the uncut walk**: if it waits, the uncut walk is then in the same state, with
the same effects behind it and the same world around it; if it does not wait, the uncut walk is over. -/
theorem walkThrough_of_walk (did : k.walk g st effects w = (r, v)) :
    (∃ wait left, r.ending = .suspended wait left ∧
      k.walkThrough g st effects w = k.walkThrough g left r.effects v) ∨
    ((∀ wait left, r.ending ≠ .suspended wait left) ∧ k.walkThrough g st effects w = (r, v)) := by
  fun_induction Walker.walk k g st effects w with
  | case1 st effects w eq =>
    cases did
    exact .inr ⟨fun _ _ eq => Ending.noConfusion eq, walkThrough_finish eq⟩
  | case2 st effects w fault eq =>
    cases did
    exact .inr ⟨fun _ _ eq => Ending.noConfusion eq, walkThrough_stop eq⟩
  | case3 st effects w s entered eq o u performed left effects' seconds label waits =>
    cases did
    exact .inl ⟨_, _, rfl, walkThrough_on eq performed⟩
  | case4 st effects w s entered eq o u performed left effects' goes ih =>
    rw [walkThrough_on eq performed]
    exact ih did

/-- **Stretches that make up a whole**: one after the other they have its effects, all but the last wait,
and the last ends as the whole does. -/
structure Joins (stretches : List RunResult) (whole : RunResult) : Prop where
  effects : stretches.flatMap (·.effects) = whole.effects
  ending : ∃ waits last, stretches = waits ++ [last] ∧
    (∀ stretch ∈ waits, ∃ wait left, stretch.ending = .suspended wait left) ∧
    last.ending = whole.ending ∧ last.awaiting = whole.awaiting

theorem Joins.single (r : RunResult) : Joins [r] r :=
  ⟨List.append_nil _, [], r, rfl, fun _ mem => absurd mem List.not_mem_nil, rfl, rfl⟩

/-- One more stretch in front that waits. -/
theorem Joins.cons {rest : List RunResult} {whole : RunResult} {wait : Suspension} {left : RunState}
    (h : Joins rest whole) (waits : r.ending = .suspended wait left) :
    Joins (r :: rest) { whole with effects := r.effects ++ whole.effects } := by
  obtain ⟨effects, others, last, rfl, all, ending, awaiting⟩ := h
  refine ⟨?_, r :: others, last, rfl, ?_, ending, awaiting⟩
  · rw [List.flatMap_cons, effects]
  · rintro r' (_ | ⟨_, mem⟩)
    · exact ⟨wait, left, waits⟩
    · exact all r' mem

theorem joins_stretches (did : k.walk g st effects w = (r, v)) :
    Joins (k.stretches g r v).1 (k.walkThrough g st effects w).1 ∧
    (k.stretches g r v).2 = (k.walkThrough g st effects w).2 := by
  fun_induction Walker.stretches k g r v generalizing st effects w with
  | case1 r v wait left waits rest u later ih =>
    -- the stretches to come make up the uncut walk from where this one waits
    obtain ⟨joins, world⟩ := ih rfl
    rw [later] at joins world
    rcases walkThrough_of_walk did with ⟨wait', left', waits', same⟩ | ⟨ends, -⟩
    · cases waits.symm.trans waits'
      have front := k.walkThrough_append g left r.effects [] v
      rw [List.append_nil] at front
      rw [same, front]
      exact ⟨joins.cons waits, world⟩
    · exact absurd waits (ends wait left)
  | case2 r v ends =>
    rcases walkThrough_of_walk did with ⟨wait, left, waits, -⟩ | ⟨-, same⟩
    · exact absurd waits (ends wait left)
    · rw [same]
      exact ⟨.single r, rfl⟩

theorem joins_executeAll (k : Walker σ) (g : Graph) (entries : List String) (message : String)
    (context : Context) (automation : String) (w : σ) :
    Joins (k.executeAll g entries message context automation w).1
      (k.executeThrough g entries message context automation w).1 ∧
    (k.executeAll g entries message context automation w).2 =
      (k.executeThrough g entries message context automation w).2 := by
  cases entries with
  | nil =>
    -- without entries there is a single stretch, which says that there is nothing to do
    have only : k.executeAll g [] message context automation w =
        ([{ effects := [noSteps], ending := .completed }], w) :=
      stretches_ends fun _ _ eq => Ending.noConfusion eq
    rw [only]
    exact ⟨.single _, rfl⟩
  | cons first rest => exact joins_stretches rfl

end Walker

/-! ### What the services are asked -/

/-- Services that do in the part `view` of their world what others do in their own. -/
structure Services.Over {σ τ : Type} (l : Services τ) (k : Services σ) (view : τ → σ) : Prop where
  reply : Option.Rel (fun ask told => ∀ q v, told q (view v) = ((ask q v).1, view (ask q v).2))
    l.reply k.reply
  call : Option.Rel (fun ask told => ∀ q v, told q (view v) = ((ask q v).1, view (ask q v).2))
    l.call k.call

namespace Services.Over

variable {σ τ : Type} {l : Services τ} {k : Services σ} {view : τ → σ}

theorem sendReply (h : l.Over k view) (s : Step) (c : ReplySettings) (st : RunState) (v : τ) :
    s.sendReply c k st (view v) = ((s.sendReply c l st v).1, view (s.sendReply c l st v).2) := by
  have same := h.reply
  unfold Step.sendReply
  generalize l.reply = asked, k.reply = told at same
  cases same with
  | none => rfl
  | some agree => simp only [agree]

theorem makeCall (h : l.Over k view) (s : Step) (c : CallSettings) (words : Step.CallWords) (now : Moment)
    (context : Context) (v : τ) :
    s.makeCall c words k now context (view v) =
      ((s.makeCall c words l now context v).1, view (s.makeCall c words l now context v).2) := by
  have same := h.call
  unfold Step.makeCall
  generalize (if c.url = "" then "" else (context.resolve now c.url).text) = url
  generalize l.call = asked, k.call = told at same
  cases same with
  | none => rfl
  | some agree =>
    by_cases nowhere : url = ""
    · simp only [if_pos nowhere]
    · simp only [if_neg nowhere, agree]

/-- Services that do the same are walked with alike by the same clock. -/
theorem walker (h : l.Over k view) (clock : Nat → Moment) (maxSteps : Int) :
    (l.walker clock maxSteps).Over (k.walker clock maxSteps) view where
  limit := rfl
  perform s st v := by
    let now := clock st.executed
    change s.perform ⟨k, now, maxSteps⟩ st (view v) =
      ((s.perform ⟨l, now, maxSteps⟩ st v).1, view (s.perform ⟨l, now, maxSteps⟩ st v).2)
    -- only steps that ask a service have a part in the world
    unfold Step.perform
    cases s.body with
    | reply c => exact h.sendReply s c st v
    | apiCall c => exact h.makeCall s c _ now st.context v
    | webhook c => exact h.makeCall s c _ now st.context v
    | _ => dsimp only

end Services.Over

/-- What a run asks of its services. -/
inductive ServiceRequest where
  | reply (request : ReplyRequest)
  | call (request : CallRequest)

variable {σ : Type}

/-- Services that answer as others do, and write down what they are asked. -/
def Services.recording (s : Services σ) : Services (σ × List ServiceRequest) :=
  { reply := s.reply.map fun ask request w =>
      ((ask request w.1).1, (ask request w.1).2, w.2 ++ [.reply request])
    call := s.call.map fun ask request w =>
      ((ask request w.1).1, (ask request w.1).2, w.2 ++ [.call request]) }

/-- Writing down what they are asked changes nothing else about services. -/
theorem Services.recording_over (s : Services σ) : s.recording.Over s Prod.fst where
  reply := by
    unfold Services.recording
    cases s.reply with
    | none => exact .none
    | some ask => exact .some fun _ _ => rfl
  call := by
    unfold Services.recording
    cases s.call with
    | none => exact .none
    | some ask => exact .some fun _ _ => rfl

namespace Runner

/-- The runner whose services write down what they are asked. -/
def recording (r : Runner σ) : Runner (σ × List ServiceRequest) :=
  { services := r.services.recording, now := r.now, maxSteps := r.maxSteps }

theorem recording_over (r : Runner σ) : r.recording.walker.Over r.walker Prod.fst :=
  r.services.recording_over.walker (fun _ => r.now) r.maxSteps

end Runner

/-- **Waiting makes no difference.** Executed and then resumed whenever it waits, a run has stretch by
stretch the effects of the run that does not wait, asks its services the same in the same order, leaves
the same world behind, and ends in the same way: completed or stopped by the same fault, and with the same
field still to be answered. The clock may go on from step to step; it shows the same to both of them. -/
theorem Services.executeAll_eq_through (services : Services σ) (clock : Nat → Moment) (maxSteps : Int) (g : Graph)
    (entries : List String) (message : String) (context : Context) (automation : String) (w : σ) :
    let k := services.walker clock maxSteps
    let recording := services.recording.walker clock maxSteps
    let run := k.executeAll g entries message context automation w
    let whole := k.executeThrough g entries message context automation w
    let asked := recording.executeAll g entries message context automation (w, [])
    let askedWhole := recording.executeThrough g entries message context automation (w, [])
    run.1.flatMap (·.effects) = whole.1.effects ∧
    (asked.1 = run.1 ∧ askedWhole.1 = whole.1 ∧ asked.2.2 = askedWhole.2.2) ∧
    run.2 = whole.2 ∧
    ∃ waits last, run.1 = waits ++ [last] ∧
      (∀ stretch ∈ waits, ∃ wait left, stretch.ending = .suspended wait left) ∧
      (∀ wait left, last.ending ≠ .suspended wait left) ∧
      last.ending = whole.1.ending ∧ last.awaiting = whole.1.awaiting := by
  intro k recording run whole asked askedWhole
  obtain ⟨⟨effects, waits, last, all, waiting, ending, awaiting⟩, world⟩ :=
    k.joins_executeAll g entries message context automation w
  have requests : asked.2 = askedWhole.2 :=
    (recording.joins_executeAll g entries message context automation (w, [])).2
  have alike : recording.Over k Prod.fst := services.recording_over.walker clock maxSteps
  have same : run = (asked.1, asked.2.1) := alike.executeAll g entries message context automation (w, [])
  have sameWhole : whole = (askedWhole.1, askedWhole.2.1) :=
    alike.executeThrough g entries message context automation (w, [])
  refine ⟨effects, ⟨by rw [same], by rw [sameWhole], by rw [requests]⟩, world, waits, last, all, waiting,
    ?_, ending, awaiting⟩
  intro wait left eq
  -- the uncut run ends like the last stretch, and it never waits
  have whole_waits : whole.1.ending = .suspended wait left := ending.symm.trans eq
  simp only [whole, Walker.executeThrough] at whole_waits
  split at whole_waits
  · cases whole_waits
  · exact Walker.walkThrough_ne_suspended _ _ _ _ _ _ _ whole_waits

end Parley
