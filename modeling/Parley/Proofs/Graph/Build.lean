import Parley.Proofs.Store.NormalForm

/-!
# Graphs that are built at once

A graph is built from steps and edges by adding the one after the other, up to the first that cannot be added.
So what is built is what changes make of the empty graph (`Parley.Graph.eq_edits_of_build`): it is whole, it can
be changed further, and its steps are those given, apart from where they lead. If nothing is built because
something cannot be read, it is one of the steps (`Parley.Graph.exists_of_build_unreadable`).

A whole graph is built from its own steps and edges without fail (`Parley.Graph.Whole.build`): a record that agrees
with its graph can be taken for a draft of it.
-/

namespace Parley

/-! ### Computations that fail -/

section Fail

variable {ε α β : Type} {e : ε}

theorem Except.bind_eq_error_iff {x : Except ε α} {f : α → Except ε β} :
    x >>= f = .error e ↔ x = .error e ∨ ∃ a, x = .ok a ∧ f a = .error e := by
  cases x with
  | error e' =>
    refine ⟨fun h => .inl (congrArg Except.error (Except.error.inj h)), ?_⟩
    rintro (h | ⟨_, ⟨⟩, -⟩)
    exact congrArg Except.error (Except.error.inj h)
  | ok a =>
    refine ⟨fun h => .inr ⟨a, rfl, h⟩, ?_⟩
    rintro (⟨⟨⟩⟩ | ⟨_, ⟨⟩, h⟩)
    exact h

/-- A computation that goes through a list fails at one of its members. -/
theorem Except.exists_of_foldlM_eq_error {f : β → α → Except ε β} {as : List α} {b : β}
    (h : as.foldlM f b = .error e) : ∃ a ∈ as, ∃ b', f b' a = .error e := by
  induction as generalizing b with
  | nil => cases h
  | cons a rest ih =>
    rw [List.foldlM_cons] at h
    rcases Except.bind_eq_error_iff.mp h with here | ⟨b', -, later⟩
    · exact ⟨a, List.mem_cons_self, b, here⟩
    · obtain ⟨a', mem, fails⟩ := ih later
      exact ⟨a', List.mem_cons_of_mem a mem, fails⟩

end Fail

namespace Graph

variable {g p : Graph} {s : Step} {steps : List (Reading Step)} {edges : List Edge}

/-! ### What is built -/

/-- The changes by which a graph is built. -/
def changesFor (steps : List (Reading Step)) (edges : List Edge) : List Edit :=
  steps.map .addStep ++ edges.map fun e => .addEdge e.source e.target (e.button.map Int.ofNat)

/-- **What is built is what changes make.** -/
theorem eq_edits_of_build (h : build steps edges = .ok g) : g = Graph.edits {} (changesFor steps edges) := by
  obtain ⟨bare, added, joined⟩ := Except.bind_eq_ok_iff.mp h
  have linking (p : Graph) (e : Edge) (q : Graph)
      (made : (·.1) <$> addEdge p e.source e.target (e.button.map Int.ofNat) = .ok q) :
      ∃ outcome, p.edit (.addEdge e.source e.target (e.button.map Int.ofNat)) = .ok (q, outcome) := by
    obtain ⟨⟨grown, edge⟩, added, rfl⟩ := Except.map_eq_ok_iff.mp made
    exact ⟨.edge edge, Except.map_eq_ok_iff.mpr ⟨_, added, rfl⟩⟩
  rw [changesFor, edits_append, ← edits_of_foldlM Edit.addStep edit_of_addStep added]
  exact edits_of_foldlM _ linking joined

theorem whole_of_build (h : build steps edges = .ok g) : g.Whole :=
  eq_edits_of_build h ▸ Whole.empty.edits _

theorem frozen_of_build (h : build steps edges = .ok g) : g.frozen = false :=
  eq_edits_of_build h ▸ frozen_edits {} _

/-- A graph that is built from documents is one. -/
theorem built_of_build (h : build steps edges = .ok g) (documents : ∀ r ∈ steps, ∃ v, r = Step.reader v) :
    g.Built := by
  refine ⟨changesFor steps edges, fun change mem => ?_, false, ?_⟩
  · rcases List.mem_append.mp mem with step | edge
    · obtain ⟨r, there, rfl⟩ := List.mem_map.mp step
      exact documents r there
    · obtain ⟨e, -, rfl⟩ := List.mem_map.mp edge
      trivial
  · rw [← eq_edits_of_build h, ← frozen_of_build h]

/-- **The steps of what is built** are those given, apart from where they lead. -/
theorem exists_of_build (h : build steps edges = .ok g) (mem : s ∈ g.steps) :
    ∃ t, Reading.ok t ∈ steps ∧ s.detached = t.detached := by
  rw [eq_edits_of_build h] at mem
  rcases Whole.empty.detached_of_edits _ s mem with ⟨t, nothing, -⟩ | ⟨change, there, t, brings, same⟩
  · exact absurd nothing List.not_mem_nil
  · rcases List.mem_append.mp there with step | edge
    · obtain ⟨r, among, rfl⟩ := List.mem_map.mp step
      obtain rfl : r = .ok t := brings
      exact ⟨t, among, same⟩
    · obtain ⟨e, -, rfl⟩ := List.mem_map.mp edge
      cases brings

/-! ### Building a whole graph -/

/-- **The edges of a whole graph can be added again** in their order: each is admitted, and no earlier one rivals it. -/
theorem Part.addEdges {done rest : List Edge} (h : g.Whole) (part : Part g done p) (all : done ++ rest = g.edges) :
    ∃ q, rest.foldlM (fun g e => (·.1) <$> Graph.addEdge g e.source e.target (e.button.map Int.ofNat)) p = .ok q ∧
      Part g g.edges q := by
  induction rest generalizing done p with
  | nil =>
    rw [List.append_nil] at all
    exact ⟨p, rfl, all ▸ part⟩
  | cons e rest ih =>
    have mem : e ∈ g.edges := all ▸ List.mem_append_right done List.mem_cons_self
    have admitted := h.admitted?_of_mem mem
    obtain ⟨admits, own⟩ := admitted?_eq_some.mp admitted
    have free : ∀ b ∈ done, e.rivals b = false := fun b before =>
      (List.pairwise_append.mp (all ▸ h.pairwise_rivals)).2.2 b before e List.mem_cons_self
    have added := (part.whole.addEdge_eq_ok part.mutable).mpr
      ⟨(part.admits_eq h e).trans admits, by rw [own, part.edges]; exact free, rfl, rfl⟩
    have next := part.offer h e
    rw [admitted, Option.elim_some, choose_of_free free, Graph.offer, added] at next
    obtain ⟨q, built, complete⟩ := ih next (by rw [List.append_assoc, List.singleton_append, all])
    refine ⟨q, ?_, complete⟩
    rw [List.foldlM_cons, added]
    exact built

/-- **A whole graph is built** from its steps, however they tell where they lead, and its edges. -/
theorem Whole.build {steps : List Step} (h : g.Whole) (mutable : g.frozen = false)
    (same : steps.map Step.detached = g.steps.map Step.detached) :
    Graph.build (steps.map Reading.ok) g.edges = .ok g := by
  obtain ⟨bare, added, part⟩ := h.exists_bare same
  obtain ⟨q, joined, complete⟩ := part.addEdges h (List.nil_append _)
  have eq := h.eq_of_detached complete.whole complete.steps complete.edges (complete.mutable.trans mutable.symm)
  rw [Graph.build, added, Except.ok_bind, joined, eq]

/-! ### What is not built -/

/-- A step is not added for its issues only if it has them. -/
theorem eq_bad_of_addStep {r : Reading Step} {issues : List Issue}
    (h : p.addStep r = .error (.unreadable issues)) : r = Reading.bad issues := by
  unfold addStep at h
  rcases Except.bind_eq_error_iff.mp h with locked | ⟨_, -, h⟩
  · unfold requireMutable at locked
    split at locked <;> cases locked
  · rcases Except.bind_eq_error_iff.mp h with unread | ⟨t, -, h⟩
    · unfold requireRead at unread
      split at unread
      · cases unread
      · rename_i eq
        cases unread
        exact eq
    · split at h <;> cases h

/-- An edge is never refused for issues of a document. -/
theorem addEdge_ne_unreadable {source target : String} {slot : Option Nat} {issues : List Issue} :
    p.addEdge source target (slot.map Int.ofNat) ≠ .error (.unreadable issues) := by
  intro h
  unfold addEdge at h
  rcases Except.bind_eq_error_iff.mp h with locked | ⟨_, -, h⟩
  · unfold requireMutable at locked
    split at locked <;> cases locked
  have there {id : String} : p.requireStep id ≠ .error (.unreadable issues) := by
    intro h
    unfold requireStep at h
    split at h <;> cases h
  rcases Except.bind_eq_error_iff.mp h with missing | ⟨s, -, h⟩
  · exact there missing
  rcases Except.bind_eq_error_iff.mp h with missing | ⟨_, -, h⟩
  · exact there missing
  split at h
  · cases h
  · rw [requireSlot_eq_ok.mpr rfl, Except.ok_bind] at h
    dsimp only at h
    split at h
    · cases h
    · split at h <;> cases h

/-- **If something cannot be read** of what a graph is to be built from, it is one of the steps. -/
theorem exists_of_build_unreadable {issues : List Issue}
    (h : build steps edges = .error (.unreadable issues)) : Reading.bad issues ∈ steps := by
  rcases Except.bind_eq_error_iff.mp h with failed | ⟨bare, -, failed⟩
  · obtain ⟨r, mem, p, fails⟩ := Except.exists_of_foldlM_eq_error failed
    have unread : p.addStep r = .error (.unreadable issues) := by
      cases did : p.addStep r with
      | ok after =>
        rw [did] at fails
        cases fails
      | error e =>
        rw [did] at fails
        cases fails
        rfl
    exact eq_bad_of_addStep unread ▸ mem
  · obtain ⟨e, mem, p, fails⟩ := Except.exists_of_foldlM_eq_error failed
    cases did : p.addEdge e.source e.target (e.button.map Int.ofNat) with
    | ok after =>
      rw [did] at fails
      cases fails
    | error why =>
      rw [did] at fails
      cases fails
      exact absurd did addEdge_ne_unreadable

end Graph

end Parley
