import Parley.Proofs.Graph.RoundTrip
import Parley.Proofs.Run.Trace
import Parley.Proofs.Trigger.Entries

/-!
# Runs that find every step

A run looks a step up by its id, and it fails if the graph has none. In a graph whose edges lead to steps
this cannot happen to a run that began at steps: what a run has before it are its entries and the targets
of edges (`Parley.RunState.Ready`), one round keeps that so whatever its step yields, and a run that
waits keeps it in its state. So it does not matter when, how often, and with which services a run is
resumed.
-/

namespace Parley

variable {σ : Type} {g : Graph} {st : RunState}

/-! ### Rounds and stretches -/

namespace Walker

/-- **A round that has steps before it** finds the step to come, and again has steps before it after that. -/
theorem round_of_ready (maxSteps : Int) (h : g.Closed) (ready : st.Ready g) :
    (∀ id, round maxSteps g st ≠ .stop (.missingStep id)) ∧
    ∀ s entered, round maxSteps g st = .execute s entered → ∀ o, (entered.leave g s.id o).Ready g := by
  cases turn : st.turn with
  | none =>
    have ends : round maxSteps g st = .finish := by rw [round, turn]
    rw [ends]
    exact ⟨fun _ eq => Round.noConfusion eq, fun _ _ eq => Round.noConfusion eq⟩
  | some turned =>
    obtain ⟨id, turned⟩ := turned
    obtain ⟨at_id, ready', -⟩ := RunState.turn_eq_some turn ready
    obtain ⟨s, there, rfl⟩ := h.exists_step? (ready'.current id at_id)
    simp only [round, turn, there]
    by_cases passed : turned.visited.contains s.id = true
    · rw [if_pos passed]
      exact ⟨fun _ eq => RunFault.noConfusion (Round.stop.inj eq), fun _ _ eq => Round.noConfusion eq⟩
    · rw [if_neg passed]
      by_cases enough : maxSteps ≤ turned.executed
      · rw [if_pos enough]
        exact ⟨fun _ eq => RunFault.noConfusion (Round.stop.inj eq), fun _ _ eq => Round.noConfusion eq⟩
      · rw [if_neg enough]
        refine ⟨fun _ eq => Round.noConfusion eq, fun _ _ eq o => ?_⟩
        cases eq
        exact ready'.leave h o

/-- A stretch of a run never fails, and where it waits it has steps before it. -/
theorem walk_of_ready (k : Walker σ) (h : g.Closed) (ready : st.Ready g) (effects : List Effect) (w : σ) :
    (∀ id, (k.walk g st effects w).1.ending ≠ .stopped (.missingStep id)) ∧
    ∀ wait left, (k.walk g st effects w).1.ending = .suspended wait left → left.Ready g := by
  fun_induction Walker.walk k g st effects w with
  | case1 => exact ⟨fun _ eq => Ending.noConfusion eq, fun _ _ eq => Ending.noConfusion eq⟩
  | case2 st effects w fault eq =>
    refine ⟨fun id missing => ?_, fun _ _ eq => Ending.noConfusion eq⟩
    cases missing
    exact (round_of_ready k.maxSteps h ready).1 id eq
  | case3 st effects w s entered eq o v did left effects' seconds label waits =>
    refine ⟨fun _ eq => Ending.noConfusion eq, fun _ _ same => ?_⟩
    cases same
    exact (round_of_ready k.maxSteps h ready).2 s entered eq o
  | case4 st effects w s entered eq o v did left effects' goes ih =>
    exact ih ((round_of_ready k.maxSteps h ready).2 s entered eq o)

end Walker

/-! ### All that can come of a run -/

/-- Only a run that misses a step fails. -/
theorem Ending.word_ne_failed {ending : Ending} (h : ∀ id, ending ≠ .stopped (.missingStep id)) :
    ending.word ≠ "failed" := by
  cases ending with
  | completed => decide
  | suspended wait left => simp [Ending.word]
  | stopped fault =>
    cases fault with
    | missingStep id => exact absurd rfl (h id)
    | loop id => simp [Ending.word]
    | tooLong limit => simp [Ending.word]

namespace Graph

/-- What can come of a run from some entries: the result of its first stretch, and of each stretch that
goes on where one waits – whatever the services, their world, the clock and the limit then are. -/
inductive Yields (g : Graph) (entries : List String) : RunResult → Prop where
  | executed {σ : Type} (r : Runner σ) (message : String) (context : Context) (automation : String)
      (w : σ) : Yields g entries (r.execute g entries message context automation w).1
  | resumed {σ : Type} {result : RunResult} {wait : Suspension} {left : RunState}
      (earlier : Yields g entries result) (waits : result.ending = .suspended wait left)
      (r : Runner σ) (w : σ) : Yields g entries (r.resume g left w).1

theorem Yields.ready {entries : List String} {result : RunResult} (h : g.Closed)
    (present : ∀ id ∈ entries, id ∈ g.ids) (yields : g.Yields entries result) :
    (∀ id, result.ending ≠ .stopped (.missingStep id)) ∧
    ∀ wait left, result.ending = .suspended wait left → left.Ready g := by
  induction yields with
  | executed r message context automation w =>
    cases entries with
    | nil => exact ⟨fun _ eq => Ending.noConfusion eq, fun _ _ eq => Ending.noConfusion eq⟩
    | cons first rest =>
      have ready : RunState.Ready g { automation, message, context, pending := first :: rest } :=
        ⟨(fun _ eq => nomatch eq), present⟩
      exact r.walker.walk_of_ready h ready [] w
  | resumed earlier waits r w ih => exact r.walker.walk_of_ready h (ih.2 _ _ waits) [] w

/-- **Entries from which no run fails**: they are different steps of the graph, and whatever comes of a run
from them, however often it is resumed, is no failure. -/
structure Runnable (g : Graph) (entries : List String) : Prop where
  distinct : entries.Nodup
  present : ∀ id ∈ entries, ∃ s ∈ g.steps, s.id = id
  never_fails : ∀ result, g.Yields entries result → result.ending.word ≠ "failed"

theorem Whole.runnable (h : g.Whole) {entries : List String} (entrances : g.Entrances entries) :
    g.Runnable entries where
  distinct := entrances.distinct
  present := entrances.present
  never_fails result yields := by
    have present : ∀ id ∈ entries, id ∈ g.ids := fun id mem =>
      h.mem_ids_iff.mpr (entrances.present id mem)
    exact Ending.word_ne_failed (yields.ready h.closed present).1

/-- A graph stays whole when it is taken as a snapshot. -/
theorem Whole.snapshot (h : g.Whole) : g.snapshot.Whole := { h with }

/-- **No run that is started ever misses a step.** However a graph was built, a message and an event enter
its snapshot at different steps that are there, and neither a run from them nor one from the step to which
a button leads ever fails. -/
theorem runnable_of_edits (changes : List Edit) :
    let g := (Graph.edits {} changes).snapshot
    (∀ everyStep message, g.Runnable (g.matchMessage everyStep message).entries) ∧
    (∀ integration event, g.Runnable (g.matchEvent integration event).entries) ∧
    ∀ id i, ∀ target ∈ g.next? id (some i), g.Runnable [target] := by
  intro g
  have whole : g.Whole := (Whole.empty.edits changes).snapshot
  refine ⟨fun everyStep message => ?_, fun integration event => ?_, fun id i target leads => ?_⟩
  · exact whole.runnable (whole.entrances_matchMessage everyStep message)
  · exact whole.runnable (whole.entrances_matchEvent integration event)
  · exact whole.runnable (.single (whole.exists_next leads))

/-- A question behind a trigger: a message enters at the question, and its button leads on. -/
theorem runnable_of_edits_asking :
    let g := (Graph.edits {} askingChanges).snapshot
    (g.matchMessage false "hi").entries = ["ask"] ∧ g.next? "ask" (some 0) = some "yes" ∧
    g.Runnable ["ask"] ∧ g.Runnable ["yes"] := by
  intro g
  have enters : (g.matchMessage false "hi").entries = ["ask"] := by decide +kernel
  have leads : g.next? "ask" (some 0) = some "yes" := by decide +kernel
  obtain ⟨messages, -, buttons⟩ := runnable_of_edits askingChanges
  exact ⟨enters, leads, enters ▸ messages false "hi", buttons "ask" 0 "yes" leads⟩

end Graph

end Parley
