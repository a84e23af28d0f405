import Parley.Proofs.Run.Asked
import Parley.Proofs.Run.Effects

/-!
# What a run has to show for its steps

For each step that it executes, a run has one effect to show, with the id and the kind of the step; only for
trigger steps it has none. If it is stopped it has one more at the end, a notice that belongs to no step. So the
effects of a run are an account of the steps that it executed (`Parley.Services.accounts_of_run`), whatever the
services answer and wherever the run was resumed.

Each of these effects says something (`Parley.Step.Makes`).
-/

namespace Parley

/-- Every effect says something. -/
def Outcome.Speaks (o : Outcome) : Prop := ∀ e ∈ o.effects, e.text ≠ ""

/-- **Whatever a step does, it says something.** -/
theorem Step.speaks_perform {σ : Type} (s : Step) (r : Runner σ) (st : RunState) (w : σ) :
    (s.perform r st w).1.Speaks := fun e mem => (s.madeBy_perform r st w e mem).text_ne_empty

/-! ### Accounts -/

/-- Whose an effect is: the id and the kind of its step. -/
def Effect.owner (e : Effect) : Option String × Option String := (e.step, e.stepType)

/-- The owners of the effects that are due for some steps: one for each that is no trigger. -/
def due (steps : List Step) : List (Option String × Option String) :=
  (steps.filter fun s => !s.isTrigger).map fun s => (some s.id, some s.typeName)

theorem due_append (steps more : List Step) : due (steps ++ more) = due steps ++ due more := by
  rw [due, List.filter_append, List.map_append]
  rfl

/-- The notice at the end of a run that is stopped. -/
def RunResult.notice (r : RunResult) : List Effect := r.fault?.toList.map RunFault.effect

/-- A step has the effects that are due for it. -/
theorem Step.owners_perform {σ : Type} (s : Step) (r : Runner σ) (st : RunState) (w : σ) :
    (s.perform r st w).1.effects.map Effect.owner = due [s] := by
  have outlines : (s.perform r st w).1.effects.map Effect.outline = s.outline.effects :=
    congrArg OutcomeOutline.effects (s.perform_outline r st w)
  calc (s.perform r st w).1.effects.map Effect.owner
      = ((s.perform r st w).1.effects.map Effect.outline).map (·.2) := by rw [List.map_map]; rfl
    _ = s.outline.effects.map (·.2) := by rw [outlines]
    _ = due [s] := by
      obtain ⟨id, _, _, _, body⟩ := s
      cases body <;> rfl

namespace Walker

variable {σ : Type} {k : Walker σ} {g : Graph}

/-- A walker has the effects that are due for its steps. -/
def Pays (k : Walker σ) : Prop := ∀ s st w, (k.perform s st w).1.effects.map Effect.owner = due [s]

/-- **What a stretch adds to the effects** is what is due for the steps that it executes, and then the notice of
the fault, if there is one. -/
theorem Pays.walk (h : k.Pays) (st : RunState) (effects : List Effect) (w : σ × List Step) :
    ∃ own done, (k.watched.walk g st effects w).2.2 = w.2 ++ done ∧ own.map Effect.owner = due done ∧
      (k.watched.walk g st effects w).1.effects =
        effects ++ own ++ (k.watched.walk g st effects w).1.notice := by
  have performs {s : Step} {entered : RunState} {w v : σ × List Step} {o : Outcome}
      (did : k.watched.perform s entered w = (o, v)) :
      v.2 = w.2 ++ [s] ∧ o.effects.map Effect.owner = due [s] := by
    obtain ⟨u, did', rfl⟩ := exists_of_watched did
    have owners := h s entered w.1
    rw [did'] at owners
    exact ⟨rfl, owners⟩
  fun_induction Walker.walk k.watched g st effects w with
  | case1 => exact ⟨[], [], by simp, rfl, by simp [RunResult.notice, RunResult.fault?]⟩
  | case2 => exact ⟨[], [], by simp, rfl, by simp [RunResult.notice, RunResult.fault?]⟩
  | case3 st effects w s entered goes o v did left effects' seconds label waits =>
    obtain ⟨log, owners⟩ := performs did
    exact ⟨o.effects, [s], log, owners, by simp [effects', RunResult.notice, RunResult.fault?]⟩
  | case4 st effects w s entered goes o v did left effects' goes_on ih =>
    obtain ⟨log, owners⟩ := performs did
    obtain ⟨own, done, log', owners', added⟩ := ih
    refine ⟨o.effects ++ own, s :: done, ?_, ?_, ?_⟩
    · rw [log', log, List.append_assoc, List.singleton_append]
    · rw [List.map_append, owners, owners', ← due_append, List.singleton_append]
    · rw [added]
      simp only [effects', List.append_assoc]

end Walker

/-- **The result of a run is an account of some steps**: its effects are one for each of the steps that is no
trigger, in order and with the id and the kind of the step, and then the notice of the fault, if there is one;
this belongs to no step. There is a fault, and with it an error, exactly if the run is aborted or has failed. No
effect is without text. -/
structure RunResult.Accounts (r : RunResult) (steps : List Step) : Prop where
  effects : ∃ own, r.effects = own ++ r.notice ∧ own.map Effect.owner = due steps
  notice : ∀ fault ∈ r.fault?, fault.effect.kind = .status ∧ fault.effect.step = none
  stopped : r.fault?.isSome = true ↔ r.ending.word = "aborted" ∨ r.ending.word = "failed"
  speaks : ∀ e ∈ r.effects, e.text ≠ ""

theorem RunResult.isSome_fault?_iff (r : RunResult) :
    r.fault?.isSome = true ↔ r.ending.word = "aborted" ∨ r.ending.word = "failed" := by
  unfold fault?
  cases r.ending with
  | completed => simp [Ending.word]
  | suspended pause left => simp [Ending.word]
  | stopped fault => cases fault <;> simp [Ending.word]

namespace Services

variable {σ : Type} (services : Services σ) (clock : Nat → Moment) (maxSteps : Int)

theorem pays : (services.walker clock maxSteps).Pays :=
  fun s st w => s.owners_perform { services, now := clock st.executed, maxSteps } st w

theorem speaks : (services.walker clock maxSteps).watched.Only fun e => e.text ≠ "" where
  performed s st w := s.speaks_perform { services, now := clock st.executed, maxSteps } st w.1
  fault := RunFault.text_effect_ne_empty
  nothing := by decide

/-- A stretch of a run accounts for the steps that it executes. -/
theorem accounts_of_walk (g : Graph) (st : RunState) (w : σ) :
    let k := services.walker clock maxSteps
    (k.watched.walk g st [] (w, [])).1 = (k.walk g st [] w).1 ∧
      (k.watched.walk g st [] (w, [])).1.Accounts (k.watched.walk g st [] (w, [])).2.2 := by
  intro k
  have told : k.walk g st [] w = _ := k.watched_over.walk g st [] (w, [])
  obtain ⟨own, done, log, owners, added⟩ := (services.pays clock maxSteps).walk (g := g) st [] (w, [])
  refine ⟨by rw [told], ⟨⟨own, added, ?_⟩, ?_, RunResult.isSome_fault?_iff _, ?_⟩⟩
  · rw [owners, log, List.nil_append]
  · rintro fault -
    cases fault <;> exact ⟨rfl, rfl⟩
  · exact (services.speaks clock maxSteps).walk g st (fun _ none => absurd none List.not_mem_nil) (w, [])

/-- **What a run has to show for its steps.** Whatever the message, the recipient, the services and the clock, a
run that is executed from some entries, or resumed in any state, accounts for the steps that it executes on this
occasion. -/
theorem accounts_of_run (g : Graph) :
    let k := services.walker clock maxSteps
    (∀ first rest message context automation w,
      let run := k.execute g (first :: rest) message context automation w
      let noted := k.watched.execute g (first :: rest) message context automation (w, [])
      noted.1 = run.1 ∧ run.1.Accounts noted.2.2) ∧
    ∀ st w,
      let run := k.resume g st w
      let noted := k.watched.resume g st (w, [])
      noted.1 = run.1 ∧ run.1.Accounts noted.2.2 := by
  intro k
  refine ⟨fun first rest message context automation w => ?_, fun st w => ?_⟩
  · let st : RunState := { automation, message, context, pending := first :: rest }
    obtain ⟨same, accounts⟩ := services.accounts_of_walk clock maxSteps g st w
    exact ⟨same, same ▸ accounts⟩
  · obtain ⟨same, accounts⟩ := services.accounts_of_walk clock maxSteps g st w
    exact ⟨same, same ▸ accounts⟩

end Services

end Parley
