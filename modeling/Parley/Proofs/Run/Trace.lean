import Parley.Proofs.Graph.Course
import Parley.Proofs.Run.Rounds

/-!
# Which steps a run executes

Whatever the steps of a run say and wherever it has to wait, the steps that it executes are known in
advance: they are those of the course of its entries (`Parley.Graph.course`), cut off at the number of
steps that a run may take. The course also tells how the run ends.

The state of a run determines what part of the course is still to come (`Parley.RunState.ahead`). One
round takes the first step off it, whatever the step does, and this is all that the proofs need to know
of a round (`Parley.Walker.round_cases`): a stretch of the run and then the whole of it follow by
induction on the number of steps still allowed.
-/

namespace Parley

open Parley.Graph

variable {g : Graph} {st : RunState} {id : String}

/-! ### What is ahead of a run -/

namespace RunState

/-- The part of its course that a run has still to take. -/
def ahead (g : Graph) (st : RunState) : Course :=
  match st.current with
  | none => g.course st.pending
  | some id =>
    if id ∈ st.visited then ⟨[], some id⟩
    else (g.orbitFrom st.visited id).followedBy (g.course st.pending)

theorem ahead_of_entry (h : st.current = none) : st.ahead g = g.course st.pending := by
  rw [ahead, h]

theorem ahead_of_passed (h : st.current = some id) (passed : id ∈ st.visited) :
    st.ahead g = ⟨[], some id⟩ := by
  rw [ahead, h]
  exact if_pos passed

theorem ahead_of_fresh (h : st.current = some id) (fresh : id ∉ st.visited) :
    st.ahead g = (g.orbitFrom st.visited id).followedBy (g.course st.pending) := by
  rw [ahead, h]
  exact if_neg fresh

/-- Whether the steps to come are steps of the graph. -/
structure Ready (g : Graph) (st : RunState) : Prop where
  current : ∀ id, st.current = some id → id ∈ g.ids
  pending : ∀ id ∈ st.pending, id ∈ g.ids

/-- A run without a turn has nothing ahead. -/
theorem ahead_of_turn_eq_none (h : st.turn = none) : st.ahead g = {} := by
  unfold turn at h
  split at h
  · cases h
  · rename_i eq
    split at h
    · rename_i last
      rw [ahead_of_entry eq, last]
      rfl
    · cases h

/-- Turning to the next entry leaves what is ahead as it is. -/
theorem turn_eq_some {turned : RunState} (h : st.turn = some (id, turned)) (ready : st.Ready g) :
    turned.current = some id ∧ turned.Ready g ∧ turned.ahead g = st.ahead g := by
  rcases turn_cases h with ⟨at_id, rfl⟩ | ⟨at_end, rest, entries, rfl⟩
  · exact ⟨at_id, ready, rfl⟩
  · refine ⟨rfl, ⟨?_, fun k mem => ready.pending k ?_⟩, ?_⟩
    · rintro _ ⟨⟩
      exact ready.pending _ (entries ▸ List.mem_cons_self)
    · exact entries ▸ List.mem_cons_of_mem _ mem
    · rw [ahead_of_entry at_end, entries, ahead_of_fresh rfl List.not_mem_nil]
      rfl

/-- **A step takes itself off what is ahead**, whatever it yields. -/
theorem ahead_leave (at_id : st.current = some id) (fresh : id ∉ st.visited) (o : Outcome) :
    st.ahead g = (((st.enter id).leave g id o).ahead g).after id := by
  rw [ahead_of_fresh at_id fresh]
  -- what is left ahead depends on where the plain edge of the step leads
  cases next : g.next? id none with
  | none =>
    rw [ahead_of_entry (show ((st.enter id).leave g id o).current = none from next), orbitFrom_end next]
    rfl
  | some goal =>
    have current : ((st.enter id).leave g id o).current = some goal := next
    by_cases again : goal ∈ st.visited ++ [id]
    · rw [ahead_of_passed current again, orbitFrom_back next again]
      rfl
    · rw [ahead_of_fresh current again, orbitFrom_on next again, Course.followedBy_after]
      rfl

theorem Ready.leave (h : g.Closed) (ready : st.Ready g) (o : Outcome) :
    ((st.enter id).leave g id o).Ready g :=
  ⟨fun _ eq => h.next?_mem_ids eq, ready.pending⟩

end RunState

/-- How a run ends that has this course ahead and may take so many more steps. -/
def Course.ending (c : Course) (limit : Int) (more : Nat) : Ending :=
  if more < c.steps.length then .stopped (.tooLong limit)
  else
    match c.back with
    | some id => .stopped (.loop id)
    | none => .completed

namespace Course

/-- Steps that are already done do not change how a run ends. -/
theorem ending_append {c : Course} {done : List String} {limit : Int} {more : Nat}
    (h : done.length ≤ more) :
    (⟨done ++ c.steps, c.back⟩ : Course).ending limit more = c.ending limit (more - done.length) := by
  unfold ending
  have same : more < (done ++ c.steps).length ↔ more - done.length < c.steps.length := by
    rw [List.length_append]
    omega
  simp only [same]

/-- The word and the fault of the end of a run. -/
theorem ending_word {c : Course} {limit : Int} {more : Nat} :
    (c.ending limit more).word =
      if c.back = none ∧ c.steps.length ≤ more then "completed" else "aborted" := by
  unfold ending
  by_cases long : more < c.steps.length
  · rw [if_pos long, if_neg (by omega)]
    rfl
  · rw [if_neg long]
    cases c.back with
    | none => rw [if_pos ⟨rfl, by omega⟩]; rfl
    | some id => rw [if_neg (by simp)]; rfl

theorem fault?_of_ending {c : Course} {r : RunResult} {limit : Int} {more : Nat}
    (h : r.ending = c.ending limit more) :
    r.fault? = if c.steps.length ≤ more then c.back.map .loop else some (.tooLong limit) := by
  rw [RunResult.fault?, h]
  unfold ending
  by_cases long : more < c.steps.length
  · rw [if_pos long, if_neg (by omega)]
  · rw [if_neg long, if_pos (by omega)]
    cases c.back <;> rfl

/-- A run that has come to its end does not wait. -/
theorem ending_ne_suspended {c : Course} {limit : Int} {more : Nat} (wait : Suspension)
    (left : RunState) : c.ending limit more ≠ .suspended wait left := by
  unfold ending
  split
  · nofun
  · split <;> nofun

end Course

namespace Walker

open RunState

variable {σ : Type} {limit : Nat}

/-- **What a round does**, in terms of what is ahead of the run. -/
theorem round_cases (limit : Nat) (h : g.Closed) (ready : st.Ready g) :
    (st.ahead g = {} ∧ round limit g st = .finish) ∨
    (∃ id, st.ahead g = ⟨[], some id⟩ ∧ round limit g st = .stop (.loop id)) ∨
    ((st.ahead g).steps ≠ [] ∧ limit ≤ st.executed ∧ round limit g st = .stop (.tooLong limit)) ∨
    ∃ s entered, st.executed < limit ∧ round limit g st = .execute s entered ∧
      entered.executed = st.executed + 1 ∧
      ∀ o, (entered.leave g s.id o).Ready g ∧
        st.ahead g = ((entered.leave g s.id o).ahead g).after s.id := by
  cases turn : st.turn with
  | none => exact .inl ⟨ahead_of_turn_eq_none turn, by rw [round, turn]⟩
  | some turned =>
    obtain ⟨id, turned⟩ := turned
    obtain ⟨at_id, ready', same⟩ := turn_eq_some turn ready
    obtain ⟨s, there, rfl⟩ := h.exists_step? (ready'.current id at_id)
    have count := turn_executed turn
    -- the step was passed before, or is performed, or comes after too many others
    by_cases passed : s.id ∈ turned.visited
    · refine .inr (.inl ⟨s.id, ?_, ?_⟩)
      · rw [← same, ahead_of_passed at_id passed]
      · simp only [round, turn, there, List.contains_iff_mem, if_pos passed]
    · have split := fun o => same ▸ ahead_leave (g := g) at_id passed o
      rcases Nat.lt_or_ge st.executed limit with lt | ge
      · refine .inr (.inr (.inr ⟨s, turned.enter s.id, lt, ?_, ?_, fun o => ⟨ready'.leave h o, split o⟩⟩))
        · simp only [round, turn, there, List.contains_iff_mem, if_neg passed, count]
          rw [if_neg (by omega)]
        · rw [enter, count]
      · refine .inr (.inr (.inl ⟨?_, ge, ?_⟩))
        · rw [split {}]
          exact List.cons_ne_nil _ _
        · simp only [round, turn, there, List.contains_iff_mem, if_neg passed, count]
          rw [if_pos (by omega)]

/-! ### Walkers that take notes -/

/-- The walker that also writes down which steps it performs. -/
def noting (k : Walker σ) : Walker (σ × List String) :=
  { perform := fun s st w =>
      let (o, v) := k.perform s st w.1
      (o, (v, w.2 ++ [s.id]))
    maxSteps := k.maxSteps }

/-- A walker that takes notes does what it does without them. -/
theorem noting_over (k : Walker σ) : k.noting.Over k Prod.fst :=
  ⟨rfl, fun _ _ _ => rfl⟩

/-! ### Stretches and runs -/

/-- **What a stretch of a run executes**: all that is ahead of the run but for what is ahead of it where
it waits, or, if it does not wait, all that is ahead as far as the number of steps allows. -/
theorem walk_noting (k : Walker σ) (h : g.Closed) (enough : k.maxSteps = limit) (ready : st.Ready g)
    (within : st.executed ≤ limit) (effects : List Effect) (w : σ) (log : List String)
    {r : RunResult} {v : σ} {log' : List String}
    (did : k.noting.walk g st effects (w, log) = (r, v, log')) :
    (∃ wait left done, r.ending = .suspended wait left ∧ left.Ready g ∧ left.executed ≤ limit ∧
      left.executed = st.executed + done.length ∧ done ≠ [] ∧ log' = log ++ done ∧
      st.ahead g = ⟨done ++ (left.ahead g).steps, (left.ahead g).back⟩) ∨
    (r.ending = (st.ahead g).ending limit (limit - st.executed) ∧
      log' = log ++ (st.ahead g).steps.take (limit - st.executed)) := by
  -- the induction is on the steps still allowed, of which every round that goes on takes one
  induction allowed : limit - st.executed using Nat.strongRecOn generalizing st effects w log with
  | ind n ih =>
    have enough' : k.noting.maxSteps = limit := enough
    rcases round_cases limit h ready with
      ⟨nothing, eq⟩ | ⟨id, loops, eq⟩ | ⟨some_left, long, eq⟩ | ⟨s, entered, lt, eq, count, goes⟩
    · rw [walk_finish (enough'.symm ▸ eq)] at did
      cases did
      right
      simp [nothing, Course.ending]
    · rw [walk_stop (enough'.symm ▸ eq)] at did
      cases did
      right
      simp [loops, Course.ending]
    · rw [walk_stop (enough'.symm ▸ eq)] at did
      cases did
      right
      have none_left : n = 0 := by omega
      simp [none_left, Course.ending, List.length_pos_iff.mpr some_left, enough']
    · -- The step is written down, whatever it yields, and then the run waits or goes on.
      obtain ⟨o, v', did'⟩ : ∃ o v', k.perform s entered w = (o, v') := ⟨_, _, rfl⟩
      have noted : k.noting.perform s entered (w, log) = (o, v', log ++ [s.id]) := by
        simp only [noting, did']
      obtain ⟨ready', split⟩ := goes o
      have count' : (entered.leave g s.id o).executed = st.executed + 1 := count
      cases waits : pause (entered.leave g s.id o) o with
      | some wait =>
        rw [walk_wait (enough'.symm ▸ eq) noted waits] at did
        cases did
        exact .inl ⟨_, _, [s.id], rfl, ready', by omega, count', by simp, rfl, split⟩
      | none =>
        rw [walk_on (enough'.symm ▸ eq) noted waits] at did
        -- the rest of the stretch, before which the step is put again
        rcases ih (n - 1) (by omega) ready' (by omega) _ _ _ did (by omega) with
          ⟨wait, left, done, ending, ready, within, count, -, rfl, rest⟩ | ⟨ending, rfl⟩
        · left
          refine ⟨wait, left, s.id :: done, ending, ready, within, ?_, by simp, by simp, ?_⟩
          · rw [List.length_cons]
            omega
          · rw [split, rest]
            rfl
        · right
          obtain ⟨m, rfl⟩ : ∃ m, n = m + 1 := ⟨n - 1, by omega⟩
          have one_done : [s.id].length ≤ m + 1 := Nat.le_add_left 1 m
          refine ⟨?_, by rw [split]; simp⟩
          rw [ending, split]
          exact (Course.ending_append one_done).symm

/-- **What a run executes on its way through all its stretches**: all that is ahead of it, as far as the
number of steps allows. -/
theorem stretches_noting (k : Walker σ) (h : g.Closed) (enough : k.maxSteps = limit) (ready : st.Ready g)
    (within : st.executed ≤ limit) (effects : List Effect) (w : σ) (log : List String)
    {rs : List RunResult} {v : σ} {log' : List String}
    (did : k.noting.stretches g (k.noting.walk g st effects (w, log)).1
      (k.noting.walk g st effects (w, log)).2 = (rs, v, log')) :
    log' = log ++ (st.ahead g).steps.take (limit - st.executed) ∧
    ∃ waits last, rs = waits ++ [last] ∧ waits.length ≤ limit - st.executed ∧
      (∀ r ∈ waits, ∃ wait left, r.ending = .suspended wait left) ∧
      last.ending = (st.ahead g).ending limit (limit - st.executed) := by
  -- a stretch that waits has performed a step, so the next one is allowed fewer
  induction allowed : limit - st.executed using Nat.strongRecOn generalizing st effects w log rs with
  | ind n ih =>
    obtain ⟨r, u, middle, first⟩ : ∃ r u middle, k.noting.walk g st effects (w, log) = (r, u, middle) :=
      ⟨_, _, _, rfl⟩
    rw [first] at did
    rcases walk_noting k h enough ready within effects w log first with
      ⟨wait, left, done, waits, ready', within', count, some_done, rfl, split⟩ | ⟨ending, rfl⟩
    · have progress : 0 < done.length := List.length_pos_iff.mpr some_done
      rw [stretches_waits waits] at did
      obtain ⟨rs', u', log'', later⟩ : ∃ rs' u' log'', k.noting.stretches g
          (k.noting.walk g left [] (u, log ++ done)).1 (k.noting.walk g left [] (u, log ++ done)).2 =
            (rs', u', log'') := ⟨_, _, _, rfl⟩
      simp only [resume, later, Prod.mk.injEq] at did
      obtain ⟨rfl, rfl, rfl⟩ := did
      obtain ⟨rfl, waits', last, rfl, few, all, ending⟩ :=
        ih (n - done.length) (by omega) ready' within' [] u (log ++ done) later (by omega)
      have more : limit - left.executed = n - done.length := by omega
      refine ⟨?_, r :: waits', last, rfl, ?_, ?_, ?_⟩
      · rw [split, List.take_append, List.append_assoc, List.take_of_length_le (l := done) (by omega)]
      · rw [List.length_cons]
        omega
      · rintro r' (_ | ⟨_, mem⟩)
        · exact ⟨_, _, waits⟩
        · exact all r' mem
      · rw [ending, split, Course.ending_append (by omega)]
    · rw [stretches_ends (fun _ _ eq => Course.ending_ne_suspended _ _ (ending.symm.trans eq))] at did
      cases did
      rw [allowed] at ending ⊢
      exact ⟨rfl, [], r, rfl, Nat.zero_le _, fun _ mem => absurd mem List.not_mem_nil, ending⟩

end Walker

namespace Services

open Walker

variable {σ : Type}

/-- **The exact trace of a run.** Executed from entries that are steps of the graph, and resumed whenever
it waits, a run comes to its end after at most as many waits as it may take steps, whatever its services
answer and however its clock goes on. The steps that it performs, written down by a walker that otherwise
does the same, are those of the course of its entries as far as the limit allows. It is completed if the
course ends and is not longer than the limit. Otherwise it is aborted: at the step to which the course comes
back, or because the course is too long. -/
theorem executeAll_trace (services : Services σ) (clock : Nat → Moment) (h : g.Closed) (entries : List String)
    (present : ∀ id ∈ entries, id ∈ g.ids) (limit : Nat) (message : String) (context : Context)
    (automation : String) (w : σ) :
    let k := services.walker clock limit
    let run := k.executeAll g entries message context automation w
    let noted := k.noting.executeAll g entries message context automation (w, [])
    let course := g.course entries
    noted.1 = run.1 ∧ noted.2.1 = run.2 ∧
    noted.2.2 = course.steps.take limit ∧
    (∃ waits last, run.1 = waits ++ [last] ∧ waits.length ≤ limit ∧
      (∀ stretch ∈ waits, ∃ wait left, stretch.ending = .suspended wait left) ∧
      (last.ending.word =
        if course.back = none ∧ course.steps.length ≤ limit then "completed" else "aborted") ∧
      last.fault? =
        if course.steps.length ≤ limit then course.back.map .loop else some (.tooLong limit)) ∧
    (entries = [] → run.1 = [{ effects := [noSteps], ending := .completed }]) := by
  intro k run noted course
  have same : run = (noted.1, noted.2.1) :=
    k.noting_over.executeAll g entries message context automation (w, [])
  cases entries with
  | nil =>
    -- without entries there is a single stretch, which says that there is nothing to do
    have only : noted = ([{ effects := [noSteps], ending := .completed }], w, []) :=
      stretches_ends fun _ _ eq => Ending.noConfusion eq
    rw [same, only]
    refine ⟨rfl, rfl, List.take_nil.symm, ⟨[], _, rfl, Nat.zero_le _, ?_, ?_, ?_⟩, fun _ => rfl⟩
    · exact fun _ mem => absurd mem List.not_mem_nil
    · rw [if_pos ⟨rfl, Nat.zero_le _⟩]
      rfl
    · exact (if_pos (Nat.zero_le limit)).symm
  | cons first rest =>
    let st : RunState := { automation, message, context, pending := first :: rest }
    have ready : st.Ready g := ⟨nofun, present⟩
    obtain ⟨log, waits, last, all, few, waiting, ending⟩ :=
      stretches_noting k h rfl ready (Nat.zero_le _) [] w []
        (show _ = (noted.1, noted.2.1, noted.2.2) from rfl)
    rw [same]
    refine ⟨rfl, rfl, log, ⟨waits, last, all, few, waiting, ?_, Course.fault?_of_ending ending⟩,
      fun eq => absurd eq (List.cons_ne_nil _ _)⟩
    rw [ending]
    exact Course.ending_word

/-- A graph that leads from a trigger into a circle of a delay and a branch. -/
def waitingCircle : Graph :=
  { table := [("in", { id := "in", body := .trigger {} }), ("wait", { id := "wait", body := .delay {} }),
      ("fork", { id := "fork", body := .branch {} })]
    edges := [⟨"in", "wait", none, none⟩, ⟨"wait", "fork", none, none⟩, ⟨"fork", "wait", none, none⟩] }

/-- A run that waits once and is stopped where it would wait again, by a clock that shows another time at every
step. -/
theorem executeAll_trace_waitingCircle :
    let services : Services Unit := {}
    let k := services.walker (fun n => ⟨n, none⟩) 10
    let noted := k.noting.executeAll waitingCircle ["in"] "hi" ⟨"you", none, []⟩ "a" ((), [])
    waitingCircle.Closed ∧ (∀ id ∈ ["in"], id ∈ waitingCircle.ids) ∧
    noted.2.2 = ["in", "wait", "fork"] ∧
    ∃ waits last, (k.executeAll waitingCircle ["in"] "hi" ⟨"you", none, []⟩ "a" ()).1 = waits ++ [last] ∧
      last.ending.word = "aborted" ∧ last.fault? = some (.loop "wait") := by
  intro services k noted
  have closed : waitingCircle.Closed := ⟨by simp [waitingCircle], by simp [waitingCircle, ids, Dict.keys]⟩
  have present : ∀ id ∈ ["in"], id ∈ waitingCircle.ids := by simp [waitingCircle, ids, Dict.keys]
  have course : waitingCircle.course ["in"] = ⟨["in", "wait", "fork"], some "wait"⟩ := by
    have first : waitingCircle.next? "in" none = some "wait" := rfl
    have second : waitingCircle.next? "wait" none = some "fork" := rfl
    have third : waitingCircle.next? "fork" none = some "wait" := rfl
    rw [Graph.course, orbit, orbitFrom_on first (by decide), orbitFrom_on second (by decide),
      orbitFrom_back third (by decide)]
    rfl
  obtain ⟨-, -, log, ⟨waits, last, all, -, -, word, fault⟩, -⟩ :=
    executeAll_trace services (fun n => ⟨n, none⟩) closed ["in"] present 10 "hi" ⟨"you", none, []⟩ "a" ()
  rw [course] at log word fault
  exact ⟨closed, present, log, waits, last, all, word, fault⟩

end Services

end Parley
