import Parley.Graph.Basic

/-!
# What can be reached

The steps that can be reached from a step are found by a search. It keeps the steps that it has found, and
those of them that are waiting to be taken up. In every round it takes up the one that has waited longest and
follows the edges that leave it, plain or of a button: their targets are found, and wait, unless they were found
before.

A step that is found is the target of an edge that led outside, and such an edge leads outside never again. So
what a round adds to the steps that wait it takes from the edges that lead outside, and as it takes up one step,
less is left to be done after it. The search ends on every list of edges.
-/

namespace Parley.Graph

/-- How many edges lead to a step outside a set. -/
def outside (edges : List Edge) (seen : List String) : Nat :=
  edges.countP fun e => !seen.contains e.target

/-- Taking in the target of an edge that leads outside leaves fewer edges that do. -/
theorem outside_lt {edges : List Edge} {seen : List String} {e : Edge} (mem : e ∈ edges)
    (fresh : seen.contains e.target = false) : outside edges (e.target :: seen) < outside edges seen := by
  have mono : ∀ x : Edge, (!(e.target :: seen).contains x.target) = true →
      (!seen.contains x.target) = true := by
    intro x hx
    simp only [List.contains_cons, Bool.not_or, Bool.and_eq_true] at hx
    exact hx.2
  induction edges with
  | nil => cases mem
  | cons head tail ih =>
    have le : outside tail (e.target :: seen) ≤ outside tail seen :=
      List.countP_mono_left fun x _ hx => mono x hx
    simp only [outside, List.countP_cons] at le ⊢
    rcases List.mem_cons.mp mem with same | later
    · subst same
      have gone : (!(e.target :: seen).contains e.target) = false := by simp
      rw [gone, fresh]
      simp only [Bool.false_eq_true, if_false, Bool.not_false, if_true]
      omega
    · have lt := ih later
      simp only [outside] at lt
      by_cases hx : (!(e.target :: seen).contains head.target) = true
      · rw [if_pos hx, if_pos (mono head hx)]
        omega
      · rw [if_neg hx]
        split <;> omega

/-- A search under way. -/
structure Search where
  /-- The steps found so far. -/
  seen : List String
  /-- Those of them that are still to be taken up, in the order in which they were found. -/
  waiting : List String
  deriving DecidableEq, Repr

namespace Search

/-- A search that begins at a step. -/
def start (id : String) : Search := { seen := [id], waiting := [id] }

/-- Follows an edge, if it leaves the step that is taken up and leads to one not found before. -/
def follow (current : String) (s : Search) (e : Edge) : Search :=
  if e.source == current && !s.seen.contains e.target then
    { seen := e.target :: s.seen, waiting := s.waiting ++ [e.target] }
  else s

/-- Takes up the step that has waited longest. -/
def round (edges : List Edge) (s : Search) : Search :=
  match s.waiting with
  | [] => s
  | current :: rest => edges.foldl (follow current) { s with waiting := rest }

/-- How many rounds there can still be, at most: each takes up a step that waits or one that is found later. -/
def remaining (edges : List Edge) (s : Search) : Nat := outside edges s.seen + s.waiting.length

/-- Following an edge leaves no more to be done. -/
theorem remaining_follow {edges : List Edge} {e : Edge} (mem : e ∈ edges) (current : String) (s : Search) :
    (s.follow current e).remaining edges ≤ s.remaining edges := by
  unfold follow
  split
  · rename_i out
    rw [Bool.and_eq_true, Bool.not_eq_true'] at out
    have fewer := outside_lt mem out.2
    simp only [remaining, List.length_append, List.length_singleton]
    omega
  · exact Nat.le_refl _

/-- Following some of the edges leaves no more to be done. -/
theorem remaining_foldl {edges part : List Edge} (subset : ∀ e ∈ part, e ∈ edges) (current : String)
    (s : Search) : (part.foldl (follow current) s).remaining edges ≤ s.remaining edges := by
  induction part generalizing s with
  | nil => exact Nat.le_refl _
  | cons e rest ih =>
    have later := ih (fun x mem => subset x (List.mem_cons_of_mem e mem)) (s.follow current e)
    exact Nat.le_trans later (remaining_follow (subset e List.mem_cons_self) current s)

/-- **A round leaves less to be done.** -/
theorem remaining_round {edges : List Edge} {s : Search} {current : String} {rest : List String}
    (waits : s.waiting = current :: rest) : (s.round edges).remaining edges < s.remaining edges := by
  rw [round, waits]
  refine Nat.lt_of_le_of_lt (remaining_foldl (fun _ mem => mem) current _) ?_
  simp only [remaining, waits, List.length_cons]
  omega

/-- The steps found when none waits any more. -/
def found (edges : List Edge) (s : Search) : List String :=
  match _h : s.waiting with
  | [] => s.seen
  | _ :: _ => found edges (s.round edges)
termination_by s.remaining edges
decreasing_by exact remaining_round _h

end Search

/-- The steps that can be reached from a step, which itself is one of them. -/
def reach (g : Graph) (start : String) : List String := (Search.start start).found g.edges

end Parley.Graph
