import Parley.Graph.Reach
import Parley.Proofs.Graph.Whole

/-!
# Courses through a graph

From a step, a run goes along the first plain edge, from there along the first plain edge again, and so
on: the *orbit* of the step. It either comes to a step that nothing leaves, or it would come back to a
step that it has passed, and there a run gives up. The *course* of a run takes the orbits of its entries
one after the other, up to the first one that comes back.

The definitions here know nothing of runs: they speak of steps and edges only, and
`Parley.Graph.orbit_steps_getElem?` and the lemmas next to it say that orbits are what they are meant to
be.
-/

namespace Parley

/-- A way along plain edges. -/
structure Course where
  /-- The steps passed, in order. -/
  steps : List String := []
  /-- The passed step to which the way would come back; none if it comes to an end. -/
  back : Option String := none
  deriving DecidableEq, Repr

namespace Course

/-- A course with one more step in front. -/
def after (c : Course) (id : String) : Course := { c with steps := id :: c.steps }

/-- One course and then another, unless the first one comes back. -/
def followedBy (c d : Course) : Course :=
  match c.back with
  | some _ => c
  | none => ⟨c.steps ++ d.steps, d.back⟩

@[simp] theorem steps_after (c : Course) (id : String) : (c.after id).steps = id :: c.steps := rfl

@[simp] theorem back_after (c : Course) (id : String) : (c.after id).back = c.back := rfl

theorem followedBy_after (c d : Course) (id : String) :
    (c.after id).followedBy d = (c.followedBy d).after id := by
  unfold followedBy
  rw [back_after]
  cases c.back with
  | none => rfl
  | some _ => rfl

end Course

namespace Graph

variable {g : Graph} {id next : String} {passed : List String}

/-! ### Graphs that lead to steps -/

/-- Graphs whose steps stand under their own ids and whose edges lead to steps. -/
structure Closed (g : Graph) : Prop where
  keyed : ∀ entry ∈ g.table, entry.1 = entry.2.id
  leads : ∀ e ∈ g.edges, e.target ∈ g.ids

/-- A whole graph leads to steps only. -/
theorem Whole.closed (h : g.Whole) : g.Closed :=
  ⟨h.keyed, fun e mem => (h.joined e mem).2.1⟩

theorem Closed.next?_mem_ids (h : g.Closed) {slot : Option Nat} (eq : g.next? id slot = some next) :
    next ∈ g.ids := by
  obtain ⟨e, mem, -, -, rfl⟩ := exists_edge_of_next? eq
  exact h.leads e mem

theorem Closed.exists_step? (h : g.Closed) (mem : id ∈ g.ids) : ∃ s, g.step? id = some s ∧ s.id = id := by
  obtain ⟨s, eq⟩ := Dict.mem_keys_iff.mp mem
  exact ⟨s, eq, (h.keyed _ (Dict.mem_of_get? eq)).symm⟩

/-! ### Orbits -/

theorem outside_append (edges : List Edge) (seen : List String) (id : String) :
    outside edges (seen ++ [id]) = outside edges (id :: seen) := by
  unfold outside
  refine List.countP_congr fun e _ => ?_
  simp [and_comm]

/-- A plain edge to a step not yet passed leaves fewer edges that lead to such steps. -/
theorem outside_lt_of_next? (h : g.next? id none = some next) (fresh : next ∉ passed ++ [id]) :
    outside g.edges (passed ++ [id] ++ [next]) < outside g.edges (passed ++ [id]) := by
  obtain ⟨e, mem, -, -, rfl⟩ := exists_edge_of_next? h
  rw [outside_append]
  refine outside_lt mem ?_
  rwa [← Bool.not_eq_true, List.contains_iff_mem]

/-- The orbit of a step when some other steps have been passed before. -/
def orbitFrom (g : Graph) (passed : List String) (id : String) : Course :=
  match _h : g.next? id none with
  | none => ⟨[id], none⟩
  | some next =>
    if _fresh : next ∈ passed ++ [id] then ⟨[id], some next⟩
    else (g.orbitFrom (passed ++ [id]) next).after id
termination_by outside g.edges (passed ++ [id])
decreasing_by exact outside_lt_of_next? _h _fresh

/-- The orbit of a step. -/
def orbit (g : Graph) (id : String) : Course := g.orbitFrom [] id

/-- The orbits of some entries one after the other, up to the first that comes back. -/
def course (g : Graph) : List String → Course
  | [] => {}
  | id :: rest => (g.orbit id).followedBy (g.course rest)

theorem orbitFrom_end (h : g.next? id none = none) : g.orbitFrom passed id = ⟨[id], none⟩ := by
  rw [orbitFrom]
  split
  · rfl
  · rename_i eq
    cases h.symm.trans eq

theorem orbitFrom_back (h : g.next? id none = some next) (again : next ∈ passed ++ [id]) :
    g.orbitFrom passed id = ⟨[id], some next⟩ := by
  rw [orbitFrom]
  split
  · rename_i eq
    cases h.symm.trans eq
  · rename_i eq
    cases h.symm.trans eq
    rw [dif_pos again]

theorem orbitFrom_on (h : g.next? id none = some next) (fresh : next ∉ passed ++ [id]) :
    g.orbitFrom passed id = (g.orbitFrom (passed ++ [id]) next).after id := by
  rw [orbitFrom]
  split
  · rename_i eq
    cases h.symm.trans eq
  · rename_i eq
    cases h.symm.trans eq
    rw [dif_neg fresh]

/-! ### What orbits are -/

/-- The step that lies a number of plain edges further. -/
def further (g : Graph) (id : String) : Nat → Option String
  | 0 => some id
  | n + 1 =>
    match g.next? id none with
    | none => none
    | some next => g.further next n

theorem orbitFrom_further (g : Graph) (passed : List String) (id : String) :
    (∀ n < (g.orbitFrom passed id).steps.length,
      (g.orbitFrom passed id).steps[n]? = g.further id n) ∧
    g.further id (g.orbitFrom passed id).steps.length = (g.orbitFrom passed id).back := by
  -- the cases are those of the orbit: it ends, comes back, or goes on
  fun_induction orbitFrom g passed id with
  | case1 passed id h =>
    refine ⟨fun n lt => ?_, by simp [further, h]⟩
    obtain rfl : n = 0 := by simpa using lt
    rfl
  | case2 passed id next h again =>
    refine ⟨fun n lt => ?_, by simp [further, h]⟩
    obtain rfl : n = 0 := by simpa using lt
    rfl
  | case3 passed id next h fresh ih =>
    refine ⟨fun n lt => ?_, ?_⟩
    · cases n with
      | zero => rfl
      | succ n =>
        simp only [Course.steps_after, List.length_cons] at lt
        simpa only [further, h, Course.steps_after, List.getElem?_cons_succ] using ih.1 n (by omega)
    · simpa only [further, h, Course.steps_after, Course.back_after, List.length_cons] using ih.2

theorem orbitFrom_nodup (g : Graph) (passed : List String) (id : String)
    (once : (passed ++ [id]).Nodup) :
    (passed ++ (g.orbitFrom passed id).steps).Nodup ∧
    ∀ again, (g.orbitFrom passed id).back = some again →
      again ∈ passed ++ (g.orbitFrom passed id).steps := by
  -- what was passed stays without repetition, since the orbit only goes on to a fresh step
  fun_induction orbitFrom g passed id with
  | case1 passed id h => exact ⟨once, nofun⟩
  | case2 passed id next h again =>
    refine ⟨once, ?_⟩
    rintro _ ⟨⟩
    exact again
  | case3 passed id next h fresh ih =>
    simpa only [Course.steps_after, Course.back_after, List.append_assoc, List.singleton_append] using
      ih (once.append (List.nodup_singleton next) (List.disjoint_singleton.mpr fresh))

/-- **The steps of an orbit** are the steps that lie one, two, three plain edges further, and so on. -/
theorem orbit_steps_getElem? {n : Nat} (lt : n < (g.orbit id).steps.length) :
    (g.orbit id).steps[n]? = g.further id n :=
  (g.orbitFrom_further [] id).1 n lt

/-- Behind the steps of an orbit lies nothing, or the step to which it comes back. -/
theorem further_orbit_length : g.further id (g.orbit id).steps.length = (g.orbit id).back :=
  (g.orbitFrom_further [] id).2

/-- An orbit is cut before it repeats a step. -/
theorem orbit_nodup : (g.orbit id).steps.Nodup :=
  (g.orbitFrom_nodup [] id (List.nodup_singleton id)).1

/-- What an orbit comes back to is one of its steps. -/
theorem orbit_back_mem {again : String} (h : (g.orbit id).back = some again) :
    again ∈ (g.orbit id).steps :=
  (g.orbitFrom_nodup [] id (List.nodup_singleton id)).2 again h

end Graph

end Parley
