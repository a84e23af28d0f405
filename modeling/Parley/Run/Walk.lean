import Parley.Run.Perform

/-!
# Walking through a graph

A run takes its entries one after the other. From each it walks along the plain edges, and it stops for
good when it would come to a step a second time in the same walk, when it would take more steps than it
may, or when a step is not there. A delay suspends it, provided that anything is left to do.

Each round of the walk executes one step, so the steps still allowed bound the number of rounds.
-/

namespace Parley

namespace RunState

/-- The state in which the step to come is known, if there is one: at the end of a walk the next entry
begins a fresh one. -/
def turn (st : RunState) : Option (String × RunState) :=
  match st.current with
  | some id => some (id, st)
  | none =>
    match st.pending with
    | [] => none
    | id :: rest => some (id, { st with current := some id, pending := rest, visited := [] })

/-- The state in which a step counts as passed. -/
def enter (st : RunState) (id : String) : RunState :=
  { st with visited := st.visited ++ [id], executed := st.executed + 1 }

/-- The state after a step: where its plain edge leads, and the field that it asked for, if any. -/
def leave (st : RunState) (g : Graph) (id : String) (o : Outcome) : RunState :=
  { st with
    current := g.next? id none
    awaiting := match o.awaiting with
      | some field => if field = "" then st.awaiting else some field
      | none => st.awaiting }

/-- Whether anything is left to do. -/
def hasMore (st : RunState) : Bool :=
  (match st.current with
    | some id => id != ""
    | none => false) || !st.pending.isEmpty

end RunState

/-- A way to perform steps over a world that it changes, and how many of them a run may take. -/
structure Walker (σ : Type) where
  perform : Step → RunState → σ → Outcome × σ
  maxSteps : Int

namespace Walker

variable {σ : Type}

/-- What the next round of a walk does. -/
inductive Round where
  | finish
  | stop (fault : RunFault)
  | execute (step : Step) (state : RunState)

/-- The next round of a walk. -/
def round (maxSteps : Int) (g : Graph) (st : RunState) : Round :=
  match st.turn with
  | none => .finish
  | some (id, st) =>
    match g.step? id with
    | none => .stop (.missingStep id)
    | some s =>
      if st.visited.contains id then .stop (.loop id)
      else if maxSteps ≤ st.executed then .stop (.tooLong maxSteps)
      else .execute s (st.enter id)

/-- The next entry does not change how many steps were executed. -/
theorem turn_executed {st st' : RunState} {id : String} (h : st.turn = some (id, st')) :
    st'.executed = st.executed := by
  unfold RunState.turn at h
  split at h
  · cases h; rfl
  · split at h <;> cases h; rfl

/-- A round that executes a step uses up one of the steps allowed. -/
theorem round_executed {maxSteps : Int} {g : Graph} {st st' : RunState} {s : Step}
    (h : round maxSteps g st = .execute s st') :
    st'.executed = st.executed + 1 ∧ (st.executed : Int) < maxSteps := by
  unfold round at h
  split at h
  · cases h
  · rename_i id turned eq
    have same := turn_executed eq
    split at h
    · cases h
    · split at h
      · cases h
      · split at h
        · cases h
        · cases h
          simp only [RunState.enter]
          omega

/-- A walk on from a state, after some effects. -/
def walk (k : Walker σ) (g : Graph) (st : RunState) (effects : List Effect) (w : σ) : RunResult × σ :=
  match _h : round k.maxSteps g st with
  | .finish => ({ effects, ending := .completed, awaiting := st.awaiting }, w)
  | .stop fault =>
    ({ effects := effects ++ [fault.effect], ending := .stopped fault, awaiting := st.awaiting }, w)
  | .execute s entered =>
    let (o, w) := k.perform s entered w
    let left := entered.leave g s.id o
    let effects := effects ++ o.effects
    match (if left.hasMore then o.pause else none) with
    | some (seconds, label) =>
      ({ effects
         ending := .suspended ⟨s.id, left.current, seconds, label⟩ left
         awaiting := left.awaiting }, w)
    | none => walk k g left effects w
termination_by (k.maxSteps - st.executed).toNat
decreasing_by
  have bound := round_executed _h
  simp only [RunState.leave]
  omega

/-- What a run without entries says. -/
def noSteps : Effect :=
  { kind := .status, text := "🤖 Automation triggered but no steps configured." }

/-- Runs a graph from some entries for one message. -/
def execute (k : Walker σ) (g : Graph) (entries : List String) (message : String) (context : Context)
    (automation : String) (w : σ) : RunResult × σ :=
  if entries.isEmpty then ({ effects := [noSteps], ending := .completed }, w)
  else k.walk g { automation, message, context, pending := entries } [] w

/-- Goes on with a suspended run. -/
def resume (k : Walker σ) (g : Graph) (st : RunState) (w : σ) : RunResult × σ :=
  k.walk g st [] w

end Walker

/-- The walker of some services by a clock that goes on from step to step: `clock n` is what it shows at a
step that is the `n`-th of its run. -/
def Services.walker {σ : Type} (services : Services σ) (clock : Nat → Moment) (maxSteps : Int) : Walker σ :=
  { perform := fun s st w => s.perform { services, now := clock st.executed, maxSteps } st w
    maxSteps }

namespace Runner

variable {σ : Type}

/-- The walker of a runner, whose clock stands still. -/
def walker (r : Runner σ) : Walker σ := r.services.walker (fun _ => r.now) r.maxSteps

/-- Runs a graph from some entries for one message. -/
def execute (r : Runner σ) (g : Graph) (entries : List String) (message : String) (context : Context)
    (automation : String) (w : σ) : RunResult × σ :=
  r.walker.execute g entries message context automation w

/-- Goes on with a suspended run. -/
def resume (r : Runner σ) (g : Graph) (st : RunState) (w : σ) : RunResult × σ :=
  r.walker.resume g st w

end Runner

end Parley
