import Parley.Run.Stretches

/-!
# Rounds of a walk, and walks that are watched

A walk is a loop over rounds. The four equations of a walk say what it does when it finishes, when it stops,
when it waits and when it goes on; nothing else about the loop is used elsewhere. What a round looked at before
it executes a step is said once as well (`Parley.Walker.execute_of_round`).

A walker may do more than another one does and still walk in the same way, for example because it also
writes down what it does. `Parley.Walker.Over` says so of two walkers, and such walkers have the same
results.
-/

namespace Parley

theorem RunResult.suspension?_eq_some {r : RunResult} {pause : Suspension} {left : RunState} :
    r.suspension? = some (pause, left) ↔ r.ending = .suspended pause left := by
  unfold suspension?
  cases r.ending <;> simp

theorem RunResult.suspension?_eq_none {r : RunResult} :
    r.suspension? = none ↔ ∀ pause left, r.ending ≠ .suspended pause left := by
  unfold suspension?
  cases r.ending <;> simp

/-- Whether a run waits at the end of a stretch. -/
def RunResult.waits (r : RunResult) : Bool := r.suspension?.isSome

/-- **What comes next in a run** is the step that an edge has led to, or else the next entry, with which a fresh
walk begins. -/
theorem RunState.turn_cases {st turned : RunState} {id : String} (h : st.turn = some (id, turned)) :
    (st.current = some id ∧ turned = st) ∨
      st.current = none ∧ ∃ rest, st.pending = id :: rest ∧
        turned = { st with current := some id, pending := rest, visited := [] } := by
  unfold turn at h
  split at h
  · rename_i at_id
    cases h
    exact .inl ⟨at_id, rfl⟩
  · rename_i at_end
    split at h
    · cases h
    · rename_i first rest entries
      cases h
      exact .inr ⟨at_end, rest, entries, rfl⟩

/-- For whom and for what a run takes place: the state of a run without what changes from step to step. -/
def RunState.occasion (st : RunState) : RunState :=
  { automation := st.automation, message := st.message, context := st.context }

namespace Walker

variable {σ τ : Type} {k : Walker σ} {g : Graph} {st entered : RunState} {s : Step} {w : σ}
  {effects : List Effect}

/-- **A round that executes a step** has found it under the id that comes next, as one that the walk has not come
to before, and as one that the run may still take. -/
theorem execute_of_round {limit : Int} (h : round limit g st = .execute s entered) :
    ∃ id turned, st.turn = some (id, turned) ∧ g.step? id = some s ∧ id ∉ turned.visited ∧
      (turned.executed : Int) < limit ∧ entered = turned.enter id := by
  unfold round at h
  split at h
  · cases h
  · rename_i id turned turn
    split at h
    · cases h
    · rename_i found
      split at h
      · cases h
      · rename_i fresh
        split at h
        · cases h
        · rename_i few
          cases h
          rw [List.contains_iff_mem] at fresh
          exact ⟨id, turned, turn, found, fresh, Int.not_le.mp few, rfl⟩

/-- A round keeps the occasion of the run, and asks for nothing. -/
theorem kept_of_round {limit : Int} (h : round limit g st = .execute s entered) :
    entered.occasion = st.occasion ∧ entered.awaiting = st.awaiting := by
  obtain ⟨id, turned, turn, -, -, -, rfl⟩ := execute_of_round h
  rcases RunState.turn_cases turn with ⟨-, rfl⟩ | ⟨-, rest, -, rfl⟩
  · exact ⟨rfl, rfl⟩
  · exact ⟨rfl, rfl⟩

/-! ### The equations of a walk -/

theorem walk_finish (h : round k.maxSteps g st = .finish) :
    k.walk g st effects w = ({ effects, ending := .completed, awaiting := st.awaiting }, w) := by
  rw [walk]
  split
  · rfl
  · rename_i eq
    cases h.symm.trans eq
  · rename_i eq
    cases h.symm.trans eq

theorem walk_stop {fault : RunFault} (h : round k.maxSteps g st = .stop fault) :
    k.walk g st effects w =
      ({ effects := effects ++ [fault.effect], ending := .stopped fault, awaiting := st.awaiting }, w) := by
  rw [walk]
  split
  · rename_i eq
    cases h.symm.trans eq
  · rename_i eq
    cases h.symm.trans eq
    rfl
  · rename_i eq
    cases h.symm.trans eq

/-- How long a run waits after a step that left it in some state. -/
def pause (left : RunState) (o : Outcome) : Option (Float × String) :=
  if left.hasMore then o.pause else none

theorem walk_wait {o : Outcome} {v : σ} {seconds : Float} {label : String}
    (h : round k.maxSteps g st = .execute s entered) (did : k.perform s entered w = (o, v))
    (waits : pause (entered.leave g s.id o) o = some (seconds, label)) :
    k.walk g st effects w =
      ({ effects := effects ++ o.effects
         ending := .suspended ⟨s.id, (entered.leave g s.id o).current, seconds, label⟩
           (entered.leave g s.id o)
         awaiting := (entered.leave g s.id o).awaiting }, v) := by
  rw [pause] at waits
  rw [walk]
  split
  · rename_i eq
    cases h.symm.trans eq
  · rename_i eq
    cases h.symm.trans eq
  · rename_i eq
    cases h.symm.trans eq
    simp only [did, waits]

theorem walk_on {o : Outcome} {v : σ}
    (h : round k.maxSteps g st = .execute s entered) (did : k.perform s entered w = (o, v))
    (goes : pause (entered.leave g s.id o) o = none) :
    k.walk g st effects w = k.walk g (entered.leave g s.id o) (effects ++ o.effects) v := by
  rw [pause] at goes
  rw [walk]
  split
  · rename_i eq
    cases h.symm.trans eq
  · rename_i eq
    cases h.symm.trans eq
  · rename_i eq
    cases h.symm.trans eq
    simp only [did, goes]

/-! ### Stretches -/

theorem stretches_waits {r : RunResult} {wait : Suspension} (h : r.ending = .suspended wait st) :
    k.stretches g r w =
      (r :: (k.stretches g (k.resume g st w).1 (k.resume g st w).2).1,
        (k.stretches g (k.resume g st w).1 (k.resume g st w).2).2) := by
  rw [stretches]
  split
  · rename_i eq
    cases h.symm.trans eq
    rfl
  · rename_i other
    exact absurd h (other _ _)

theorem stretches_ends {r : RunResult} (h : ∀ wait left, r.ending ≠ .suspended wait left) :
    k.stretches g r w = ([r], w) := by
  rw [stretches]
  split
  · rename_i eq
    exact absurd eq (h _ _)
  · rfl

/-- The stretches that follow a stretch come after it. -/
theorem exists_stretches_eq_cons (k : Walker σ) (g : Graph) (r : RunResult) (w : σ) :
    ∃ rest, (k.stretches g r w).1 = r :: rest := by
  unfold stretches
  split
  · exact ⟨_, rfl⟩
  · exact ⟨[], rfl⟩

/-- Of the stretches of a run, all wait but the last. -/
theorem length_stretches (k : Walker σ) (g : Graph) (r : RunResult) (w : σ) :
    (k.stretches g r w).1.length = (k.stretches g r w).1.countP (·.waits) + 1 := by
  fun_induction Walker.stretches k g r w with
  | case1 r w wait left waits rest u later ih =>
    rw [later] at ih
    have counts : r.waits = true := by rw [RunResult.waits, RunResult.suspension?_eq_some.mpr waits]; rfl
    simp only [List.length_cons, List.countP_cons_of_pos counts, ih]
  | case2 r w ends =>
    have out : r.waits = false := by rw [RunResult.waits, RunResult.suspension?_eq_none.mpr ends]; rfl
    simp only [List.countP_singleton, out, List.length_singleton]
    rfl

/-! ### Watched walks -/

/-- A walker that does in the part `view` of its world what another walker does in its own. -/
structure Over (l : Walker τ) (k : Walker σ) (view : τ → σ) : Prop where
  limit : l.maxSteps = k.maxSteps
  perform : ∀ s st v, k.perform s st (view v) = ((l.perform s st v).1, view (l.perform s st v).2)

namespace Over

variable {l : Walker τ} {view : τ → σ}

theorem walk (h : l.Over k view) (g : Graph) (st : RunState) (effects : List Effect) (v : τ) :
    k.walk g st effects (view v) = ((l.walk g st effects v).1, view (l.walk g st effects v).2) := by
  fun_induction Walker.walk l g st effects v with
  | case1 st effects v eq => rw [walk_finish (h.limit ▸ eq)]
  | case2 st effects v fault eq => rw [walk_stop (h.limit ▸ eq)]
  | case3 st effects v s entered eq o u did left effects' seconds label waits =>
    have same := h.perform s entered v
    rw [did] at same
    rw [walk_wait (h.limit ▸ eq) same waits]
  | case4 st effects v s entered eq o u did left effects' goes ih =>
    have same := h.perform s entered v
    rw [did] at same
    rw [walk_on (h.limit ▸ eq) same goes, ih]

theorem stretches (h : l.Over k view) (g : Graph) (r : RunResult) (v : τ) :
    k.stretches g r (view v) = ((l.stretches g r v).1, view (l.stretches g r v).2) := by
  fun_induction Walker.stretches l g r v with
  | case1 r v wait st eq rest u later ih =>
    rw [stretches_waits eq, resume, h.walk, ← resume, ih, later]
  | case2 r v ends => rw [stretches_ends ends]

/-- **Both walkers have the same results**, and leave behind the same part of the world. -/
theorem executeAll (h : l.Over k view) (g : Graph) (entries : List String) (message : String)
    (context : Context) (automation : String) (v : τ) :
    k.executeAll g entries message context automation (view v) =
      ((l.executeAll g entries message context automation v).1,
        view (l.executeAll g entries message context automation v).2) := by
  have first : k.execute g entries message context automation (view v) =
      ((l.execute g entries message context automation v).1,
        view (l.execute g entries message context automation v).2) := by
    unfold execute
    split
    · rfl
    · exact h.walk g _ [] v
  simp only [Walker.executeAll, first, h.stretches]

end Over

end Walker

end Parley
