import Parley.Run.Walk

/-!
# Runs to their end

A run that meets delays comes in *stretches*: the first one from its entries to the first delay, the next
ones from delay to delay. Each stretch executes a step, so a run has at most as many stretches as it may
take steps, and one more.
-/

namespace Parley

namespace Walker

variable {σ : Type}

/-- A stretch that ends at a delay has executed at least one step, and no more than allowed. -/
theorem walk_suspended (k : Walker σ) (g : Graph) (st : RunState) (effects : List Effect) (w : σ)
    {pause : Suspension} {st' : RunState}
    (h : (k.walk g st effects w).1.ending = .suspended pause st') :
    st.executed < st'.executed ∧ (st'.executed : Int) ≤ k.maxSteps := by
  fun_induction Walker.walk k g st effects w with
  | case1 => cases h
  | case2 => cases h
  | case3 st effects w s entered eq o w' performed left effects' seconds label paused =>
    have bound := round_executed eq
    simp only [Ending.suspended.injEq] at h
    obtain ⟨_, rfl⟩ := h
    simp only [left, RunState.leave]
    omega
  | case4 st effects w s entered eq o w' performed left effects' unpaused ih =>
    have bound := round_executed eq
    have later := ih h
    simp only [left, RunState.leave] at later
    omega

/-- A stretch of a run and all that follow it, each resumed where the one before it waits. -/
def stretches (k : Walker σ) (g : Graph) (result : RunResult) (w : σ) : List RunResult × σ :=
  match _h : result.ending with
  | .suspended _ st =>
    let (rest, w) := k.stretches g (k.resume g st w).1 (k.resume g st w).2
    (result :: rest, w)
  | _ => ([result], w)
termination_by match result.ending with
  | .suspended _ st => (k.maxSteps - st.executed).toNat + 1
  | _ => 0
decreasing_by
  rw [_h]
  simp only
  split
  · rename_i pause st' eq
    have bound := walk_suspended k g st [] w eq
    omega
  · omega

/-- Runs a graph from some entries to the end. -/
def executeAll (k : Walker σ) (g : Graph) (entries : List String) (message : String) (context : Context)
    (automation : String) (w : σ) : List RunResult × σ :=
  let (first, w) := k.execute g entries message context automation w
  k.stretches g first w

end Walker

/-- Runs a graph from some entries to the end. -/
def Runner.executeAll {σ : Type} (r : Runner σ) (g : Graph) (entries : List String) (message : String)
    (context : Context) (automation : String) (w : σ) : List RunResult × σ :=
  r.walker.executeAll g entries message context automation w

end Parley
