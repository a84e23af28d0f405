import Mathlib.Logic.Function.Iterate
import Mathlib.Logic.Relation
import Parley.Graph.Reach
import Parley.Proofs.Graph.Course

/-!
# What the search finds

The search from a step goes over the edges in rounds until no step waits to be taken up. What it has found then are
exactly the steps to which some path of edges leads (`Parley.Graph.mem_reach_iff`), over edges of buttons as well as
over plain ones, and it comes to its end in at most one round more than there are edges
(`Parley.Graph.exists_rounds_eq_reach`).

The first of these rests on what holds between two rounds (`Parley.Graph.Search.Sound`): a path leads to everything
that was found, and the edges of a step that was found and does not wait lead to steps that were found. When nothing
waits, no edge leads outside any more, and so no path does. The second is the measure by which the search ends.

A run only ever follows the plain edge that comes first at a step, and so it does not get out of what is reached
(`Parley.Graph.Leads.mem_reach`).
-/

namespace Parley.Graph

open Relation

variable {g : Graph} {edges : List Edge} {seen : List String} {origin start current id next : String}

/-- Whether an edge leads from one step to another. -/
def Linked (edges : List Edge) (id next : String) : Prop :=
  ∃ e ∈ edges, e.source = id ∧ e.target = next

theorem linked_cons {e : Edge} :
    Linked (e :: edges) id next ↔ (e.source = id ∧ e.target = next) ∨ Linked edges id next :=
  List.exists_mem_cons_iff ..

/-- A set of steps that no edge leads out of is not left on any path. -/
theorem mem_of_path (closed : ∀ id ∈ seen, ∀ next, Linked edges id next → next ∈ seen) (mem : start ∈ seen)
    (path : ReflTransGen (Linked edges) start id) : id ∈ seen := by
  induction path with
  | refl => exact mem
  | tail _ link ih => exact closed _ ih _ link

namespace Search

variable {s : Search} {e : Edge}

/-! ### What a round finds -/

theorem mem_seen_follow :
    id ∈ (s.follow current e).seen ↔ id ∈ s.seen ∨ (e.source = current ∧ e.target = id) := by
  unfold follow
  split
  · rename_i out
    rw [Bool.and_eq_true, beq_iff_eq] at out
    rw [List.mem_cons, or_comm, eq_comm, and_iff_right out.1]
  · rename_i stays
    rw [iff_self_or]
    rintro ⟨rfl, rfl⟩
    simpa using stays

theorem mem_waiting_follow : id ∈ (s.follow current e).waiting ↔
    id ∈ s.waiting ∨ (id ∉ s.seen ∧ e.source = current ∧ e.target = id) := by
  unfold follow
  split
  · rename_i out
    rw [Bool.and_eq_true, beq_iff_eq, Bool.not_eq_true', ← Bool.not_eq_true, List.contains_iff_mem] at out
    rw [List.mem_append, List.mem_singleton]
    refine or_congr_right ⟨?_, fun ⟨_, _, same⟩ => same.symm⟩
    rintro rfl
    exact ⟨out.2, out.1, rfl⟩
  · rename_i stays
    rw [iff_self_or]
    rintro ⟨fresh, rfl, rfl⟩
    exact absurd (by simpa using stays) fresh

/-- **What is found at a step**: the targets of the edges that leave it. -/
theorem mem_seen_foldl :
    id ∈ (edges.foldl (follow current) s).seen ↔ id ∈ s.seen ∨ Linked edges current id := by
  induction edges generalizing s with
  | nil => simp [Linked]
  | cons e rest ih => rw [List.foldl_cons, ih, mem_seen_follow, linked_cons, or_assoc]

/-- Those targets that were not found before are put down to wait. -/
theorem mem_waiting_foldl : id ∈ (edges.foldl (follow current) s).waiting ↔
    id ∈ s.waiting ∨ (id ∉ s.seen ∧ Linked edges current id) := by
  induction edges generalizing s with
  | nil => simp [Linked]
  | cons e rest ih =>
    rw [List.foldl_cons, ih, mem_waiting_follow, mem_seen_follow, linked_cons]
    tauto

/-- **What holds of a search between two rounds.** -/
structure Sound (edges : List Edge) (origin : String) (s : Search) : Prop where
  begun : origin ∈ s.seen
  /-- What was found is reached. -/
  reached : ∀ id ∈ s.seen, ReflTransGen (Linked edges) origin id
  /-- What waits was found. -/
  waiting : ∀ id ∈ s.waiting, id ∈ s.seen
  /-- The edges of a step that does not wait any more have been followed. -/
  followed : ∀ id ∈ s.seen, id ∉ s.waiting → ∀ next, Linked edges id next → next ∈ s.seen

/-- So it is before the first round. -/
theorem sound_start : Sound edges origin (Search.start origin) where
  begun := List.mem_singleton_self origin
  reached id mem := by rw [List.mem_singleton.mp mem]
  waiting _ mem := mem
  followed _ mem idle := absurd mem idle

/-- **A round keeps this.** -/
theorem Sound.round (h : Sound edges origin s) : Sound edges origin (s.round edges) := by
  unfold Search.round
  cases waits : s.waiting with
  | nil => exact h
  | cons current rest =>
    have old {id : String} (mem : id ∈ s.seen) :
        id ∈ (edges.foldl (follow current) { s with waiting := rest }).seen := mem_seen_foldl.mpr (.inl mem)
    have current_seen : current ∈ s.seen := h.waiting current (waits ▸ List.mem_cons_self)
    constructor
    · exact old h.begun
    · intro id mem
      rcases mem_seen_foldl.mp mem with mem | link
      · exact h.reached id mem
      · exact (h.reached current current_seen).tail link
    · intro id mem
      rcases mem_waiting_foldl.mp mem with mem | ⟨-, link⟩
      · exact old (h.waiting id (waits ▸ List.mem_cons_of_mem current mem))
      · exact mem_seen_foldl.mpr (.inr link)
    · intro id mem idle next link
      rw [mem_waiting_foldl, not_or, not_and] at idle
      by_cases here : id = current
      · exact mem_seen_foldl.mpr (.inr (here ▸ link))
      · -- another step that does not wait was found before the round, and did not wait then
        have before : id ∈ s.seen := by
          refine (mem_seen_foldl.mp mem).elim (fun mem => mem) fun found => ?_
          exact by_contra fun fresh => idle.2 fresh found
        have idle : id ∉ s.waiting := by
          rw [waits, List.mem_cons, not_or]
          exact ⟨here, idle.1⟩
        exact old (h.followed id before idle next link)

/-! ### What the search comes to -/

/-- When nothing waits, a path leads to exactly what was found. -/
theorem Sound.mem_found_iff (h : Sound edges origin s) :
    id ∈ s.found edges ↔ ReflTransGen (Linked edges) origin id := by
  fun_induction found edges s with
  | case1 s idle =>
    have closed : ∀ id ∈ s.seen, ∀ next, Linked edges id next → next ∈ s.seen := fun id mem =>
      h.followed id mem (by rw [idle]; exact List.not_mem_nil)
    exact ⟨h.reached id, mem_of_path closed h.begun⟩
  | case2 s current rest waits ih => exact ih h.round

/-- The search comes to its end in as many rounds as there are left, at most. -/
theorem exists_rounds (edges : List Edge) (s : Search) :
    ∃ n ≤ s.remaining edges, (round edges)^[n] s = { seen := s.found edges, waiting := [] } := by
  fun_induction found edges s with
  | case1 s idle => exact ⟨0, Nat.zero_le _, by rw [Function.iterate_zero_apply, ← idle]⟩
  | case2 s current rest waits ih =>
    obtain ⟨n, few, ends⟩ := ih
    have less : (s.round edges).remaining edges < s.remaining edges := remaining_round waits
    exact ⟨n + 1, by omega, by rw [Function.iterate_succ_apply, ends]⟩

end Search

/-- **What the search finds** are the steps to which a path leads. -/
theorem mem_reach_iff : id ∈ g.reach start ↔ ReflTransGen (Linked g.edges) start id :=
  Search.sound_start.mem_found_iff

/-- **The search ends** in at most one round more than there are edges. -/
theorem exists_rounds_eq_reach (g : Graph) (start : String) : ∃ n ≤ g.edges.length + 1,
    (Search.round g.edges)^[n] (Search.start start) = { seen := g.reach start, waiting := [] } := by
  obtain ⟨n, few, ends⟩ := Search.exists_rounds g.edges (Search.start start)
  have all : (Search.start start).remaining g.edges ≤ g.edges.length + 1 :=
    Nat.add_le_add_right List.countP_le_length 1
  exact ⟨n, Nat.le_trans few all, ends⟩

/-- Whether a run that comes to one step may come to the other on its way. -/
def Leads (g : Graph) : String → String → Prop := ReflTransGen fun id next => g.next? id none = some next

theorem mem_reach_self (g : Graph) (id : String) : id ∈ g.reach id := mem_reach_iff.mpr .refl

/-- What follows a step that is reached is reached. -/
theorem mem_reach_of_next? {slot : Option Nat} (mem : id ∈ g.reach start)
    (leads : g.next? id slot = some next) : next ∈ g.reach start := by
  obtain ⟨e, there, source, -, target⟩ := exists_edge_of_next? leads
  exact mem_reach_iff.mpr ((mem_reach_iff.mp mem).tail ⟨e, there, source, target⟩)

/-- A run does not get out of what is reached. -/
theorem Leads.mem_reach (leads : g.Leads id next) (mem : id ∈ g.reach start) : next ∈ g.reach start := by
  induction leads with
  | refl => exact mem
  | tail _ follows ih => exact mem_reach_of_next? ih follows

end Parley.Graph
