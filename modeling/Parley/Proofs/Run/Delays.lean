import Parley.Proofs.Run.Routing

/-!
# Where delays suspend a run

A delay suspends a run if anything is left to do: a step that follows it, or an entry that is still to come. The
run is then resumed at the step that follows, or else at the next entry. So a delay is the last step that a call
executes, and whether a call suspends the run can be told from the last step that it executed
(`Parley.Services.pauses_of_run`).

There is one exception. The question whether a step follows is put to its id, and a step whose id is empty is
taken for none. If such a step follows a delay and no entry is to come, the delay is *overlooked*: the run is not
suspended, and goes on with the step at once.
-/

namespace Parley

/-- A step that a run executed, and the entries that were then still to come. -/
structure Visit where
  step : Step
  pending : List String

namespace Visit

variable {g : Graph} {t : Visit}

/-- The step is a delay. -/
def Delays (t : Visit) : Prop := ∃ d, t.step.body = .delay d

/-- Something is left to do after the step. -/
def Leaves (t : Visit) (g : Graph) : Prop := (g.next? t.step.id none).isSome = true ∨ t.pending ≠ []

/-- All that is left to do after the step is another step, and its id is empty. -/
def Overlooked (t : Visit) (g : Graph) : Prop := g.next? t.step.id none = some "" ∧ t.pending = []

end Visit

/-- In a graph without a step whose id is empty no delay is overlooked. -/
theorem Graph.Closed.not_overlooked {g : Graph} (h : g.Closed) (absent : "" ∉ g.ids) (t : Visit) :
    ¬t.Overlooked g :=
  fun overlooked => absent (h.next?_mem_ids overlooked.1)

/-- **Delays pause a run** that has visited some steps one after the other. If a step was executed right after a
delay, then the delay was overlooked, and the step is the one whose id is empty. The run is suspended exactly if
the last step is a delay after which something is left to do, and which is not overlooked. It is then to be
resumed at the step that follows the delay, if there is one, and else at the next entry. Otherwise it has nothing
to be resumed from. -/
structure RunResult.Pauses (r : RunResult) (g : Graph) (visits : List Visit) : Prop where
  after : ∀ before t next later, visits = before ++ t :: next :: later → t.Delays →
    t.Overlooked g ∧ g.step? "" = some next.step
  suspended : r.ending.word = "suspended" ↔
    ∃ t ∈ visits.getLast?, t.Delays ∧ t.Leaves g ∧ ¬t.Overlooked g
  resumes : ∀ wait left, r.suspension? = some (wait, left) →
    ∃ t ∈ visits.getLast?, wait.step = t.step.id ∧ wait.resumeStep = g.next? t.step.id none ∧
      left.current = g.next? t.step.id none ∧ left.pending = t.pending
  otherwise : r.ending.word ≠ "suspended" → r.suspension? = none

/-- A run is suspended exactly if it has something to be resumed from. -/
theorem RunResult.word_eq_suspended_iff (r : RunResult) :
    r.ending.word = "suspended" ↔ r.suspension?.isSome = true := by
  unfold suspension?
  cases r.ending with
  | completed => simp [Ending.word]
  | suspended wait left => simp [Ending.word]
  | stopped fault => cases fault <;> simp [Ending.word]

namespace RunResult.Pauses

variable {g : Graph} {r : RunResult} {visits : List Visit} {t : Visit}

theorem otherwise_of_word (other : r.ending.word ≠ "suspended") : r.suspension? = none := by
  rw [ne_eq, word_eq_suspended_iff, Bool.not_eq_true, Option.isSome_eq_false_iff,
    Option.isNone_iff_eq_none] at other
  exact other

/-- A run that has executed nothing is not suspended. -/
theorem nil (ends : r.suspension? = none) : r.Pauses g [] where
  after before t next later eq := absurd eq.symm (by simp)
  suspended := by
    rw [word_eq_suspended_iff, ends]
    simp
  resumes wait left waits := by
    rw [ends] at waits
    cases waits
  otherwise := otherwise_of_word

/-- A run that is suspended after its only visit, to a delay. -/
theorem single {wait : Suspension} {left : RunState} (waits : r.suspension? = some (wait, left))
    (holds : t.Delays ∧ t.Leaves g ∧ ¬t.Overlooked g) (step : wait.step = t.step.id)
    (resumes : wait.resumeStep = g.next? t.step.id none) (current : left.current = g.next? t.step.id none)
    (pending : left.pending = t.pending) : r.Pauses g [t] where
  after before u next later eq := by
    have lengths := congrArg List.length eq
    simp only [List.length_append, List.length_cons, List.length_nil] at lengths
    omega
  suspended := by
    rw [word_eq_suspended_iff, waits]
    exact ⟨fun _ => ⟨t, rfl, holds⟩, fun _ => rfl⟩
  resumes wait' left' waits' := by
    obtain ⟨rfl, rfl⟩ := Prod.mk.inj (Option.some.inj (waits.symm.trans waits'))
    exact ⟨t, rfl, step, resumes, current, pending⟩
  otherwise := otherwise_of_word

/-- A visit after which the run goes on comes before those that follow. -/
theorem cons (later : r.Pauses g visits) (goes : ¬(t.Delays ∧ t.Leaves g ∧ ¬t.Overlooked g))
    (follows : ∀ next ∈ visits.head?, t.Delays → t.Overlooked g ∧ g.step? "" = some next.step) :
    r.Pauses g (t :: visits) where
  after before u next rest eq delays := by
    cases before with
    | nil =>
      obtain ⟨rfl, rfl⟩ := List.cons.inj eq
      exact follows next rfl delays
    | cons first before => exact later.after before u next rest (List.cons.inj eq).2 delays
  suspended := by
    cases visits with
    | nil => simpa [goes] using later.suspended
    | cons next rest =>
      rw [List.getLast?_cons_cons]
      exact later.suspended
  resumes wait left waits := by
    cases visits with
    | nil =>
      obtain ⟨u, last, -⟩ := later.resumes wait left waits
      cases last
    | cons next rest =>
      rw [List.getLast?_cons_cons]
      exact later.resumes wait left waits
  otherwise := later.otherwise

end RunResult.Pauses

namespace Walker

variable {σ : Type} {k : Walker σ} {g : Graph} {st entered : RunState} {s : Step}

/-! ### Visits -/

/-- The walker that writes down which steps it visits. -/
def visiting (k : Walker σ) : Walker (σ × List Visit) :=
  { perform := fun s st w =>
      let (o, v) := k.perform s st w.1
      (o, (v, w.2 ++ [⟨s, st.pending⟩]))
    maxSteps := k.maxSteps }

/-- A walker that writes down its visits does what it does without them. -/
theorem visiting_over (k : Walker σ) : k.visiting.Over k Prod.fst :=
  ⟨rfl, fun _ _ _ => rfl⟩

/-- Where nothing is left to do, the only step that can come next is one whose id is empty. -/
theorem turn_of_not_hasMore {left turned : RunState} {id : String} (nothing : left.hasMore = false)
    (h : left.turn = some (id, turned)) : id = "" ∧ left.current = some "" ∧ left.pending = [] := by
  unfold RunState.hasMore at nothing
  rw [Bool.or_eq_false_iff, Bool.not_eq_false', List.isEmpty_iff] at nothing
  obtain ⟨no_step, no_entry⟩ := nothing
  rcases RunState.turn_cases h with ⟨at_id, -⟩ | ⟨-, rest, entries, -⟩
  · rw [at_id, bne_eq_false_iff_eq] at no_step
    exact ⟨no_step, no_step ▸ at_id, no_entry⟩
  · rw [no_entry] at entries
    cases entries

/-- What is left to do in the state after a step is what is left after the visit, unless that is overlooked. -/
theorem hasMore_leave_iff (g : Graph) (entered : RunState) (s : Step) (o : Outcome) :
    (entered.leave g s.id o).hasMore = true ↔
      (Visit.mk s entered.pending).Leaves g ∧ ¬(Visit.mk s entered.pending).Overlooked g := by
  unfold RunState.hasMore RunState.leave Visit.Leaves Visit.Overlooked
  dsimp only
  rw [Bool.or_eq_true, Bool.not_eq_true', List.isEmpty_eq_false_iff]
  cases g.next? s.id none with
  | none => simp
  | some next => by_cases blank : next = "" <;> simp [blank]

/-! ### Walkers that wait at delays -/

/-- A walker asks for a pause at the delays and nowhere else. -/
def Waits (k : Walker σ) : Prop :=
  ∀ s st w, (k.perform s st w).1.pause.isSome = true ↔ ∃ d, s.body = .delay d

namespace Waits

/-- A run pauses after a visit exactly if it is to a delay that is not overlooked. -/
theorem isSome_pause_iff (h : k.Waits) {w v : σ × List Visit} {o : Outcome}
    (did : k.visiting.perform s entered w = (o, v)) :
    (pause (entered.leave g s.id o) o).isSome = true ↔
      (Visit.mk s entered.pending).Delays ∧ (Visit.mk s entered.pending).Leaves g ∧
        ¬(Visit.mk s entered.pending).Overlooked g := by
  have asks : o.pause.isSome = true ↔ (Visit.mk s entered.pending).Delays := by
    have own := h s entered w.1
    cases did
    exact own
  rw [← hasMore_leave_iff g entered s o, ← asks, pause]
  cases (entered.leave g s.id o).hasMore <;> simp

/-- **How a stretch pauses**: by the steps that it visits, of which the first is the step to come. -/
theorem walk (h : k.Waits) (st : RunState) (effects : List Effect) (w : σ × List Visit) :
    ∃ done, (k.visiting.walk g st effects w).2.2 = w.2 ++ done ∧
      (∀ t ∈ done.head?, ∃ id turned, st.turn = some (id, turned) ∧ g.step? id = some t.step) ∧
      (k.visiting.walk g st effects w).1.Pauses g done := by
  have log {s : Step} {entered : RunState} {w v : σ × List Visit} {o : Outcome}
      (did : k.visiting.perform s entered w = (o, v)) : v.2 = w.2 ++ [⟨s, entered.pending⟩] := by
    cases did
    rfl
  have step_to_come {st entered : RunState} {s : Step} (goes : round k.visiting.maxSteps g st = .execute s entered) :
      ∃ id turned, st.turn = some (id, turned) ∧ g.step? id = some s := by
    obtain ⟨id, turned, turn, found, -⟩ := execute_of_round goes
    exact ⟨id, turned, turn, found⟩
  fun_induction Walker.walk k.visiting g st effects w with
  | case1 => exact ⟨[], (List.append_nil _).symm, fun t none => absurd none (Option.not_mem_none t), .nil rfl⟩
  | case2 => exact ⟨[], (List.append_nil _).symm, fun t none => absurd none (Option.not_mem_none t), .nil rfl⟩
  | case3 st effects w s entered goes o v did left effects' seconds label waits =>
    have holds := (h.isSome_pause_iff (g := g) did).mp (Option.isSome_of_eq_some waits)
    refine ⟨[⟨s, entered.pending⟩], log did, ?_, .single rfl holds rfl rfl rfl rfl⟩
    rintro _ ⟨⟩
    exact step_to_come goes
  | case4 st effects w s entered goes o v did left effects' goes_on ih =>
    obtain ⟨done, log', first, pauses⟩ := ih
    have passes : ¬((Visit.mk s entered.pending).Delays ∧ (Visit.mk s entered.pending).Leaves g ∧
        ¬(Visit.mk s entered.pending).Overlooked g) := fun holds => by
      have goes_on' : pause (entered.leave g s.id o) o = none := goes_on
      have waits := (h.isSome_pause_iff (g := g) did).mpr holds
      rw [goes_on'] at waits
      cases waits
    refine ⟨⟨s, entered.pending⟩ :: done, ?_, ?_, pauses.cons passes fun next mem delays => ?_⟩
    · rw [log', log did, List.append_assoc]
      rfl
    · rintro _ ⟨⟩
      exact step_to_come goes
    · -- the run goes on after a delay, so nothing else than a step without an id can be left
      have nothing : left.hasMore = false := by
        rw [← Bool.not_eq_true, hasMore_leave_iff]
        exact fun more => passes ⟨delays, more⟩
      obtain ⟨id, turned, turn, found⟩ := first next mem
      obtain ⟨rfl, follows, no_entry⟩ := turn_of_not_hasMore nothing turn
      exact ⟨⟨follows, no_entry⟩, found⟩

end Waits

end Walker

namespace Services

variable {σ : Type} (services : Services σ) (clock : Nat → Moment) (maxSteps : Int)

/-- Of all kinds of steps only delays ask for a pause. -/
theorem waits : (services.walker clock maxSteps).Waits := by
  intro s st w
  have alike : ((services.walker clock maxSteps).perform s st w).1.pause = s.outline.pause :=
    congrArg OutcomeOutline.pause (s.perform_outline { services, now := clock st.executed, maxSteps } st w)
  rw [alike, Step.outline]
  cases s.body <;> simp [Step.single]

/-- A stretch of a run pauses by the steps that it visits. -/
theorem pauses_of_walk (g : Graph) (st : RunState) (w : σ) :
    let k := services.walker clock maxSteps
    (k.visiting.walk g st [] (w, [])).1 = (k.walk g st [] w).1 ∧
      (k.visiting.walk g st [] (w, [])).1.Pauses g (k.visiting.walk g st [] (w, [])).2.2 := by
  intro k
  have told : k.walk g st [] w = _ := k.visiting_over.walk g st [] (w, [])
  obtain ⟨done, log, -, pauses⟩ := (services.waits clock maxSteps).walk (g := g) st [] (w, [])
  refine ⟨by rw [told], ?_⟩
  rw [log, List.nil_append]
  exact pauses

/-- **Where delays suspend a run.** Whatever the services and the clock, delays pause a run that is executed from
some entries, or resumed in any state, by the steps that it visits on this occasion. They are never overlooked if
the edges of the graph lead to steps and no step has an empty id. -/
theorem pauses_of_run (g : Graph) :
    let k := services.walker clock maxSteps
    (∀ entries message context automation w,
      let run := k.execute g entries message context automation w
      let noted := k.visiting.execute g entries message context automation (w, [])
      noted.1 = run.1 ∧ run.1.Pauses g noted.2.2) ∧
    (∀ st w,
      let run := k.resume g st w
      let noted := k.visiting.resume g st (w, [])
      noted.1 = run.1 ∧ run.1.Pauses g noted.2.2) ∧
    (g.Closed → "" ∉ g.ids → ∀ t : Visit, ¬t.Overlooked g) := by
  intro k
  refine ⟨fun entries message context automation w => ?_, fun st w => ?_, fun h => h.not_overlooked⟩
  · cases entries with
    | nil => exact ⟨rfl, .nil rfl⟩
    | cons first rest =>
      let st : RunState := { automation, message, context, pending := first :: rest }
      obtain ⟨same, pauses⟩ := services.pauses_of_walk clock maxSteps g st w
      exact ⟨same, same ▸ pauses⟩
  · obtain ⟨same, pauses⟩ := services.pauses_of_walk clock maxSteps g st w
    exact ⟨same, same ▸ pauses⟩

/-- A graph in which a delay leads to a branch. -/
def forkAfterDelay (fork : String) : Graph :=
  { table := [("wait", { id := "wait", body := .delay {} }), (fork, { id := fork, body := .branch {} })]
    edges := [⟨"wait", fork, none, none⟩] }

/-- A run waits at its delay if the branch that follows has a name, and does not wait if the id of the branch is
empty. -/
theorem pauses_of_run_nameless :
    let k := Services.walker ({} : Services Unit) (fun _ => ⟨0, none⟩) 10
    let run := fun fork => k.execute (forkAfterDelay fork) ["wait"] "hi" ⟨"you", none, []⟩ "a" ()
    let noted := fun fork =>
      k.visiting.execute (forkAfterDelay fork) ["wait"] "hi" ⟨"you", none, []⟩ "a" ((), [])
    ((noted "").2.2.map (fun t => t.step.id) = ["wait", ""] ∧ (run "").1.ending.word = "completed" ∧
      ∃ t ∈ (noted "").2.2, t.Delays ∧ t.Overlooked (forkAfterDelay "")) ∧
    (forkAfterDelay "fork").Closed ∧ "" ∉ (forkAfterDelay "fork").ids ∧
      (noted "fork").2.2.map (fun t => t.step.id) = ["wait"] ∧
      (run "fork").1.ending.word = "suspended" := by
  intro k run noted
  let st : RunState := { automation := "a", message := "hi", context := ⟨"you", none, []⟩, pending := ["wait"] }
  let wait : Visit := ⟨{ id := "wait", body := .delay {} }, []⟩
  let fork : Visit := ⟨{ id := "", body := .branch {} }, []⟩
  have delays : wait.Delays := ⟨{}, rfl⟩
  constructor
  · obtain ⟨log, word⟩ : (noted "").2.2 = [wait, fork] ∧ (noted "").1.ending.word = "completed" := by
      show (k.visiting.walk (forkAfterDelay "") st [] ((), [])).2.2 = _ ∧
        (k.visiting.walk (forkAfterDelay "") st [] ((), [])).1.ending.word = _
      rw [Walker.walk_on (show Walker.round 10 (forkAfterDelay "") st = .execute _ _ from rfl) rfl rfl,
        Walker.walk_on (show Walker.round 10 (forkAfterDelay "") _ = .execute _ _ from rfl) rfl rfl,
        Walker.walk_finish (show Walker.round 10 (forkAfterDelay "") _ = .finish from rfl)]
      exact ⟨rfl, rfl⟩
    obtain ⟨executed, -, -⟩ := pauses_of_run ({} : Services Unit) (fun _ => ⟨0, none⟩) 10 (forkAfterDelay "")
    obtain ⟨same, pauses⟩ := executed ["wait"] "hi" ⟨"you", none, []⟩ "a" ()
    have overlooked := (pauses.after [] wait fork [] log delays).1
    have same : (noted "").1 = (run "").1 := same
    refine ⟨?_, same ▸ word, wait, ?_, delays, overlooked⟩
    · rw [log]
      rfl
    · rw [log]
      exact List.mem_cons_self
  · have log : (noted "fork").2.2 = [wait] := by
      show (k.visiting.walk (forkAfterDelay "fork") st [] ((), [])).2.2 = _
      rw [Walker.walk_wait (show Walker.round 10 (forkAfterDelay "fork") st = .execute _ _ from rfl) rfl rfl]
      rfl
    have closed : (forkAfterDelay "fork").Closed :=
      ⟨by simp [forkAfterDelay], by simp [forkAfterDelay, Graph.ids, Dict.keys]⟩
    have named : "" ∉ (forkAfterDelay "fork").ids := by decide
    obtain ⟨executed, -, minded⟩ :=
      pauses_of_run ({} : Services Unit) (fun _ => ⟨0, none⟩) 10 (forkAfterDelay "fork")
    obtain ⟨-, pauses⟩ := executed ["wait"] "hi" ⟨"you", none, []⟩ "a" ()
    refine ⟨closed, named, by rw [log]; rfl, pauses.suspended.mpr ⟨wait, ?_, delays, .inl rfl, ?_⟩⟩
    · rw [show (k.visiting.execute _ _ _ _ _ _).2.2 = [wait] from log]
      rfl
    · exact minded closed named wait

end Services

end Parley
