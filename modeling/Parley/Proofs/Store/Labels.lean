import Parley.Proofs.Store.NormalForm

/-!
# Labels of edges

An edge may have a label, which is read and written with it. A graph takes an edge by its ends and its slot
alone, so the edges of a graph have no label, and neither have those that are written back: an edge that a
record keeps goes through its graph without its label (`Parley.Record.kept_unlabelled`). It is found again as
it was exactly if it had none.
-/

namespace Parley

open Reading

/-- **Whether an edge is kept** when the graph of a record is made: it is the first one like it in the list,
and it can be added once those before it have been offered. -/
def Record.Keeps (r : Record) (e : Edge) : Prop :=
  ∃ bare before after, Graph.build (r.workflow.map Reading.ok) [] = .ok bare ∧
    r.connections = before ++ e :: after ∧ (∀ x ∈ before, x.sameLink e = false) ∧
    ∃ made, (before.foldl Graph.offer bare).addEdge e.source e.target (e.button.map Int.ofNat) = .ok made

namespace Graph

variable {g p : Graph} {r : Record} {e : Edge}

/-- An edge that is taken is there, without its label. -/
theorem mem_offer_of_ok {made : Graph × Edge}
    (ok : p.addEdge e.source e.target (e.button.map Int.ofNat) = .ok made) :
    e.unlabelled ∈ (p.offer e).edges := by
  obtain ⟨p', x⟩ := made
  obtain ⟨s, slot, -, -, -, -, meant, rfl, -, -, rfl⟩ := addEdge_eq_ok.mp ok
  obtain rfl : e.button = slot := slot_injective meant
  rw [offer, ok]
  exact List.mem_append_right _ List.mem_cons_self

/-- An offer takes no edge away. -/
theorem mem_offer {x : Edge} (mem : e ∈ p.edges) : e ∈ (p.offer x).edges := by
  unfold offer
  split
  · rename_i made
    obtain ⟨s, slot, -, -, -, -, -, -, -, -, rfl⟩ := addEdge_eq_ok.mp made
    exact List.mem_append_left _ mem
  · exact mem

theorem mem_offers {told : List Edge} (mem : e ∈ p.edges) : e ∈ (told.foldl offer p).edges := by
  induction told generalizing p with
  | nil => exact mem
  | cons x rest ih => exact ih (mem_offer mem)

/-- **An edge that is kept** is in the graph, without its label. -/
theorem mem_of_keeps (made : Graph.ofRecord r = .ok g) (kept : r.Keeps e) : e.unlabelled ∈ g.edges := by
  obtain ⟨bare, built, rfl⟩ := ofRecord_eq_ok.mp made
  obtain ⟨bare', before, after, built', split, -, _, taken⟩ := kept
  obtain rfl : bare' = bare := Except.ok.inj (built'.symm.trans built)
  rw [Record.toldEdges, split, List.append_assoc, List.foldl_append, List.cons_append, List.foldl_cons]
  exact mem_offers (mem_offer_of_ok taken)

/-- A graph has an edge that is kept as it was just if it had no label. -/
theorem Whole.mem_iff_of_keeps (h : g.Whole) (made : Graph.ofRecord r = .ok g) (kept : r.Keeps e) :
    e ∈ g.edges ↔ e.label = none := by
  refine ⟨h.unlabelled e, fun bare => ?_⟩
  rw [← Edge.unlabelled_eq_self bare]
  exact mem_of_keeps made kept

end Graph

/-- **An edge that a record keeps loses its label**, when the graph of the record is made and written back, and
when the record is saved: it is found again with the same ends and the same button, and as it was exactly if it
had no label. -/
theorem Record.kept_unlabelled {r : Record} {now : Moment} (fit : r.Fit)
    (distinct : (r.workflow.map (·.id)).Nodup) (clock : now.OnClock) :
    (∃ n, r.Normalizes now n ∧ ∀ e, r.Keeps e →
      e.unlabelled ∈ n.connections ∧ (e ∈ n.connections ↔ e.label = none)) ∧
    ∀ (s : Store) found, Store.isValidId r.id = true → s.load r.id = .ok found →
      ∃ s' stored, s.save r now = .ok (s', stored) ∧ ∀ e, r.Keeps e →
        e.unlabelled ∈ stored.connections ∧ (e ∈ stored.connections ↔ e.label = none) := by
  obtain ⟨bare, g, made, merging⟩ := Graph.ofRecord_of_distinct distinct
  have whole : g.Whole := merging.part.whole
  have sound := (Graph.built_of_ofRecord fit made).sound
  have edges : ∀ e, r.Keeps e → e.unlabelled ∈ g.edges ∧ (e ∈ g.edges ↔ e.label = none) := fun e kept =>
    ⟨Graph.mem_of_keeps made kept, whole.mem_iff_of_keeps made kept⟩
  refine ⟨⟨g.recorded r now, ⟨g, made, g.toRecord_eq_ok sound fit.created clock.1⟩, edges⟩,
    fun s found valid loaded => ?_⟩
  refine ⟨_, _, (Store.save_eq_ok fit clock).mpr ⟨valid, g, found, made, loaded, rfl, rfl⟩, ?_⟩
  -- what is stored has the edges of the graph, whichever record it takes the place of
  cases found <;> exact edges

/-- Two steps in a circle, with a label on the way there and none on the way back. -/
def labelled : Record where
  id := "a"
  workflow := [{ id := "x", body := .branch {} }, { id := "y", body := .branch {} }]
  connections := [{ source := "x", target := "y", label := some "yes" }, { source := "y", target := "x" }]
  createdAt := ⟨0, none⟩
  updatedAt := ⟨0, none⟩

theorem Record.kept_unlabelled_labelled :
    labelled.Fit ∧ (labelled.workflow.map (·.id)).Nodup ∧ Moment.OnClock ⟨5, none⟩ ∧
    Store.isValidId "a" = true ∧ Store.load {} "a" = .ok none ∧
    labelled.Keeps ⟨"x", "y", none, some "yes"⟩ ∧
    (∃ n, labelled.Normalizes ⟨5, none⟩ n ∧
      ⟨"x", "y", none, none⟩ ∈ n.connections ∧ ⟨"x", "y", none, some "yes"⟩ ∉ n.connections) ∧
    ∃ s' stored, Store.save {} labelled ⟨5, none⟩ = .ok (s', stored) ∧
      ⟨"x", "y", none, none⟩ ∈ stored.connections ∧
      ⟨"x", "y", none, some "yes"⟩ ∉ stored.connections := by
  have read : ∀ s ∈ labelled.workflow, s.IsRead := by
    intro s mem
    simp only [labelled, List.mem_cons, List.not_mem_nil, or_false] at mem
    rcases mem with rfl | rfl
    · exact ⟨.dict [("id", .str "x"), ("type", .str "branch")], rfl⟩
    · exact ⟨.dict [("id", .str "y"), ("type", .str "branch")], rfl⟩
  have created : Moment.Valid ⟨0, none⟩ := Moment.valid_of_clock (by decide)
  have clock : Moment.OnClock ⟨5, none⟩ := ⟨Moment.valid_of_clock (by decide), rfl⟩
  have fit : labelled.Fit := ⟨read, created⟩
  have distinct : (labelled.workflow.map (·.id)).Nodup := by decide
  have valid : Store.isValidId "a" = true := by decide
  have loaded : Store.load {} "a" = .ok none := Store.load_eq valid
  have kept : labelled.Keeps ⟨"x", "y", none, some "yes"⟩ :=
    ⟨_, [], [⟨"y", "x", none, none⟩], rfl, rfl, fun _ mem => absurd mem List.not_mem_nil, _, rfl⟩
  obtain ⟨⟨n, normal, in_n⟩, saves⟩ := Record.kept_unlabelled fit distinct clock
  obtain ⟨s', stored, saved, in_stored⟩ := saves {} none valid loaded
  obtain ⟨there, same⟩ := in_n _ kept
  obtain ⟨there', same'⟩ := in_stored _ kept
  exact ⟨fit, distinct, clock, valid, loaded, kept,
    ⟨n, normal, there, fun mem => absurd (same.mp mem) (Option.some_ne_none _)⟩,
    s', stored, saved, there', fun mem => absurd (same'.mp mem) (Option.some_ne_none _)⟩

end Parley
