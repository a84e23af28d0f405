import Parley.Proofs.Run.Rounds

/-!
# In whose name a run goes

A run knows to which automation it belongs, but only a service that writes replies is ever told. If that
service answers the same for two automations (`Parley.Services.Alike`), then a run of the one and the same
run of the other differ in nothing but the name that their states carry.
-/

namespace Parley

/-! ### Names of automations -/

/-- The state of the same run of another automation. -/
def RunState.named (automation : String) (st : RunState) : RunState := { st with automation }

/-- The end of the same run of another automation. -/
def Ending.named (automation : String) : Ending → Ending
  | suspended pause st => suspended pause (st.named automation)
  | completed => completed
  | stopped fault => stopped fault

/-- The result of the same run of another automation. -/
def RunResult.named (automation : String) (r : RunResult) : RunResult :=
  { r with ending := r.ending.named automation }

variable {σ : Type} {a b : String}

/-- The service that writes replies, if there is one, answers the same for two automations. -/
def Services.Alike (s : Services σ) (a b : String) : Prop :=
  ∀ ask ∈ s.reply, ∀ (q : ReplyRequest) (w : σ),
    ask { q with automation := a } w = ask { q with automation := b } w

@[simp] theorem Services.alike_refl (s : Services σ) (a : String) : s.Alike a a := fun _ _ _ _ => rfl

/-- What a step does in the name of one automation it does in the name of the other. -/
theorem Step.perform_named {r : Runner σ} (alike : r.services.Alike a b) (s : Step) (st : RunState)
    (w : σ) : s.perform r (st.named a) w = s.perform r (st.named b) w := by
  unfold Step.perform
  -- no other step has a look at the name
  cases s.body with
  | reply c =>
    dsimp only
    unfold Step.sendReply
    cases asked : r.services.reply with
    | none => rfl
    | some ask =>
      have same := alike ask asked (Step.replyRequest c st) w
      change ask (Step.replyRequest c (st.named a)) w = ask (Step.replyRequest c (st.named b)) w at same
      simp only [same]
  | _ => rfl

namespace Walker

variable {k : Walker σ} {g : Graph} {st entered : RunState}

/-! ### Rounds and walks -/

/-- The next round of the same run of another automation. -/
def Round.named (automation : String) : Round → Round
  | finish => finish
  | stop fault => stop fault
  | execute s st => execute s (st.named automation)

theorem round_named (maxSteps : Int) (g : Graph) (st : RunState) (automation : String) :
    round maxSteps g (st.named automation) = (round maxSteps g st).named automation := by
  have turned : (st.named automation).turn = st.turn.map fun x => (x.1, x.2.named automation) := by
    obtain ⟨_, _, _, current, pending, _, _, _⟩ := st
    cases current with
    | some id => rfl
    | none => cases pending <;> rfl
  unfold round
  rw [turned]
  cases st.turn with
  | none => rfl
  | some x =>
    obtain ⟨id, turned⟩ := x
    simp only [Option.map_some, RunState.named]
    split
    · rfl
    · split
      · rfl
      · split <;> rfl

theorem automation_of_round {maxSteps : Int} {s : Step} (h : round maxSteps g st = .execute s entered) :
    entered.automation = st.automation := by
  show entered.occasion.automation = st.occasion.automation
  rw [(kept_of_round h).1]

/-- A walker that does the same in the name of either automation. -/
def Alike (k : Walker σ) (a b : String) : Prop :=
  ∀ s (st : RunState) w, k.perform s (st.named a) w = k.perform s (st.named b) w

/-- A round of the same run of another automation performs the same step, to the same effect. -/
theorem Alike.round (alike : k.Alike a b) (named : st.automation = b) {s : Step} (w : σ)
    (eq : round k.maxSteps g st = .execute s entered) :
    Walker.round k.maxSteps g (st.named a) = .execute s (entered.named a) ∧
    k.perform s (entered.named a) w = k.perform s entered w ∧ entered.automation = b := by
  have own : entered.automation = b := (automation_of_round eq).trans named
  have named_eq : entered.named b = entered := by rw [RunState.named, ← own]
  exact ⟨by rw [round_named, eq]; rfl, by rw [alike, named_eq], own⟩

theorem Alike.walk (alike : k.Alike a b) (g : Graph) (st : RunState) (named : st.automation = b)
    (effects : List Effect) (w : σ) :
    k.walk g (st.named a) effects w =
      ((k.walk g st effects w).1.named a, (k.walk g st effects w).2) := by
  fun_induction Walker.walk k g st effects w with
  | case1 st effects w eq =>
    have eq' : Walker.round k.maxSteps g (st.named a) = .finish := by rw [round_named, eq]; rfl
    rw [walk_finish eq']
    rfl
  | case2 st effects w fault eq =>
    have eq' : Walker.round k.maxSteps g (st.named a) = .stop fault := by rw [round_named, eq]; rfl
    rw [walk_stop eq']
    rfl
  | case3 st effects w s entered eq o v did left effects' seconds label waits =>
    obtain ⟨eq', same, -⟩ := alike.round named w eq
    rw [walk_wait eq' (same.trans did) waits]
    rfl
  | case4 st effects w s entered eq o v did left effects' goes ih =>
    obtain ⟨eq', same, own⟩ := alike.round named w eq
    rw [walk_on eq' (same.trans did) goes]
    exact ih own

/-- A run that waits keeps its name. -/
theorem automation_of_walk {r : RunResult} {v w : σ} {effects : List Effect}
    (did : k.walk g st effects w = (r, v)) {pause : Suspension} {left : RunState}
    (waits : r.ending = .suspended pause left) : left.automation = st.automation := by
  fun_induction Walker.walk k g st effects w with
  | case1 => cases did; cases waits
  | case2 => cases did; cases waits
  | case3 st effects w s entered eq o u performed left' effects' seconds label pauses =>
    cases did
    injection waits with _ same
    rw [← same]
    have kept := automation_of_round eq
    exact kept
  | case4 st effects w s entered eq o u performed left' effects' goes ih =>
    have kept := automation_of_round eq
    exact (ih did).trans kept

theorem Alike.stretches (alike : k.Alike a b) (g : Graph) (r : RunResult)
    (named : ∀ pause left, r.ending = .suspended pause left → left.automation = b) (w : σ) :
    k.stretches g (r.named a) w =
      ((k.stretches g r w).1.map (RunResult.named a), (k.stretches g r w).2) := by
  fun_induction Walker.stretches k g r w with
  | case1 r w pause left waits rest u later ih =>
    have waits' : (r.named a).ending = .suspended pause (left.named a) := by
      rw [RunResult.named, waits]
      rfl
    have own := named pause left waits
    rw [stretches_waits waits', resume, alike.walk g left own, ← resume, ih ?_, later]
    · rfl
    · exact fun pause' left' waits'' => (automation_of_walk rfl waits'').trans own
  | case2 r w ends =>
    have ends' : ∀ pause left, (r.named a).ending ≠ .suspended pause left := by
      intro pause left eq
      unfold RunResult.named Ending.named at eq
      split at eq
      · rename_i waits
        exact ends _ _ waits
      · cases eq
      · cases eq
    rw [stretches_ends ends']
    rfl

end Walker

/-- **In whose name a run goes makes no difference** but to the name, if the service that writes replies
answers the same. -/
theorem Runner.executeAll_named {r : Runner σ} (alike : r.services.Alike a b) (g : Graph)
    (entries : List String) (message : String) (context : Context) (w : σ) :
    r.executeAll g entries message context a w =
      ((r.executeAll g entries message context b w).1.map (RunResult.named a),
        (r.executeAll g entries message context b w).2) := by
  have alike' : r.walker.Alike a b := fun s st v => s.perform_named alike st v
  cases entries with
  | nil =>
    have only : ∀ pause left, Ending.completed = .suspended pause left → left.automation = b :=
      fun _ _ eq => Ending.noConfusion eq
    exact alike'.stretches g { effects := [Walker.noSteps], ending := .completed } only w
  | cons first rest =>
    let st : RunState := { automation := b, message, context, pending := first :: rest }
    have walked := alike'.walk g st rfl [] w
    have later := alike'.stretches g (r.walker.walk g st [] w).1
      (fun pause left waits => Walker.automation_of_walk rfl waits) (r.walker.walk g st [] w).2
    change r.walker.stretches g (r.walker.walk g (st.named a) [] w).1
      (r.walker.walk g (st.named a) [] w).2 = _
    rw [walked]
    exact later

end Parley
