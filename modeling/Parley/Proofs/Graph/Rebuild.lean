import Parley.Proofs.Graph.Merge

/-!
# Building a graph again

A whole graph is determined by its edges and by its steps without their word on where they lead: the
rest is what the buttons show, and they show where the edges lead (`Parley.Graph.Whole.attached_detached`).

A record that tells these steps and edges therefore gives back the graph, provided that it tells no other
edges (`Parley.Graph.Whole.ofRecord`). The steps come in detached, and of the edges that are offered the
foremost are taken. The edges of a whole graph do not rival each other, so all of them are, and what the
record tells over again – a step's connections, a button's target – rivals the edge that it tells.
-/

namespace Parley

namespace Graph

variable {g p : Graph} {s : Step} {e : Edge}

/-! ### What determines a whole graph -/

/-- **A step of a whole graph** is what it is without a word on where it leads, with its buttons set from
the edges. -/
theorem Whole.attached_detached (h : g.Whole) (mem : s ∈ g.steps) :
    attached g.edges s.detached = s := by
  have bare := h.bare s mem
  have mirrored := h.mirrored s mem
  obtain ⟨id, title, position, connections, body⟩ := s
  obtain rfl : connections = [] := bare
  cases body with
  | message m =>
    have buttons : (m.buttons.map fun b => { b with connectedTo := none }).mapIdx (fun i b =>
        let e? := g.edges.find? fun e => e.source == id && e.button == some i
        { b with connectedTo := e?.map (·.target) }) = m.buttons := by
      refine List.ext_getElem? fun i => ?_
      rw [List.getElem?_mapIdx, List.getElem?_map, Option.map_map]
      cases at_i : m.buttons[i]? with
      | none => rfl
      | some b =>
        have shown := mirrored i b at_i
        rw [next?, successors, List.head?_filter] at shown
        simp only [Option.map_some, Function.comp_apply, ← shown]
    simp only [attached, Step.mapButtons, Step.detached, buttons]
  | _ => rfl

/-- No edge that comes or goes touches a step, apart from where it leads. -/
theorem bareTable_of_addEdge {source target : String} {button : Option Int}
    (ok : g.addEdge source target button = .ok (p, e)) : p.bareTable = g.bareTable := by
  obtain ⟨s, slot, -, -, -, -, -, -, -, -, rfl⟩ := addEdge_eq_ok.mp ok
  exact bareTable_aim

theorem bareTable_of_removeEdge {source target : String} {button : Option Int} {found : Bool}
    (ok : g.removeEdge source target button = .ok (p, found)) : p.bareTable = g.bareTable := by
  obtain ⟨-, ⟨e, -, -, rfl⟩ | ⟨-, -, rfl⟩⟩ := removeEdge_eq_ok.mp ok
  · exact bareTable_aim
  · rfl

/-- The bare steps of a whole graph are read off from its steps, which stand under their own ids. -/
theorem Whole.bareTable_eq (h : g.Whole) :
    g.bareTable = (g.steps.map Step.detached).map fun s => (s.id, s) := by
  rw [Graph.steps, List.map_map, List.map_map]
  refine List.map_congr_left fun entry mem => ?_
  rw [Function.comp_apply, Function.comp_apply, Step.id_detached, ← h.keyed entry mem]

/-- **The table of a whole graph** is made of its bare steps and its edges. -/
theorem Whole.table_eq (h : g.Whole) : g.table = g.bareTable.mapValues (attached g.edges) := by
  rw [bareTable, Dict.mapValues, Dict.mapValues, List.map_map]
  refine ((List.map_congr_left fun entry mem => ?_).trans (List.map_id _)).symm
  have there : entry.2 ∈ g.steps := mem_steps.mpr ⟨entry.1, mem⟩
  rw [Function.comp_apply, h.attached_detached there, id]

/-- Whole graphs with the same bare steps and the same edges are the same. -/
theorem Whole.eq_of_bareTable (h : g.Whole) (k : p.Whole) (bare : p.bareTable = g.bareTable)
    (edges : p.edges = g.edges) (frozen : p.frozen = g.frozen) : p = g := by
  have table : p.table = g.table := by rw [k.table_eq, h.table_eq, bare, edges]
  obtain ⟨_, _, _⟩ := p
  obtain ⟨_, _, _⟩ := g
  cases table
  cases edges
  cases frozen
  rfl

/-- Whole graphs with the same steps, apart from where they lead, and the same edges are the same. -/
theorem Whole.eq_of_detached (h : g.Whole) (k : p.Whole)
    (steps : p.steps.map Step.detached = g.steps.map Step.detached) (edges : p.edges = g.edges)
    (frozen : p.frozen = g.frozen) : p = g :=
  h.eq_of_bareTable k (by rw [k.bareTable_eq, steps, h.bareTable_eq]) edges frozen

/-! ### Edges of a whole graph -/

/-- No edge of a whole graph rivals another one. -/
theorem Whole.pairwise_rivals (h : g.Whole) : g.edges.Pairwise fun a b => b.rivals a = false := by
  refine List.pairwise_iff_forall_sublist.mpr fun {a b} both => Bool.eq_false_iff.mpr fun rivals => ?_
  obtain ⟨source, button, ends⟩ := Edge.rivals_iff.mp rivals
  cases slot : b.button with
  | none =>
    have unlike := List.pairwise_iff_forall_sublist.mp h.unlike both
    have alike := Edge.sameLink_iff.mpr ⟨source.symm, (ends slot).symm, button.symm⟩
    exact Bool.false_ne_true (unlike.symm.trans alike)
  | some i =>
    -- both leave the same button, from which only one edge starts
    have few := h.single a.source i
    have two := (both.filter fun e => e.source == a.source && e.button == some i).length_le
    rw [← successors, List.filter_cons_of_pos (by simp [← button, slot]),
      List.filter_cons_of_pos (by simp [source, slot])] at two
    simp only [List.length_cons] at two
    omega

/-- The steps of a whole graph admit its edges. -/
theorem Whole.admitted?_of_mem (h : g.Whole) (mem : e ∈ g.edges) : g.admitted? e = some e := by
  obtain ⟨source, target, apart⟩ := h.joined e mem
  obtain ⟨s, found⟩ := Dict.mem_keys_iff.mp source
  refine admitted?_eq_some.mpr ⟨admits_iff.mpr ⟨s, found, target, apart, fun i of => ?_⟩,
    Edge.unlabelled_eq_self (h.unlabelled e mem)⟩
  obtain ⟨t, there, free⟩ := h.anchored e mem i of
  rwa [Option.some.inj (there.symm.trans found)] at free

/-- **What is told again** of a whole graph makes no difference: its own edges are the foremost of any that
are told after them. -/
theorem Whole.foremost_told (h : g.Whole) {more : List Edge} (again : ∀ e ∈ more, e ∈ g.edges) :
    foremost Edge.rivals ((g.edges ++ more).filterMap g.admitted?) = g.edges := by
  have own : ∀ {edges : List Edge}, (∀ e ∈ edges, e ∈ g.edges) → edges.filterMap g.admitted? = edges := by
    intro edges known
    rw [List.filterMap_congr fun e mem => h.admitted?_of_mem (known e mem), List.filterMap_some]
  have first : g.edges.foldl (choose Edge.rivals) [] = g.edges :=
    foldl_choose_eq_append h.pairwise_rivals
  rw [own fun e mem => (List.mem_append.mp mem).elim id (again e), foremost, List.foldl_append, first]
  exact foldl_choose_eq_self fun e mem => ⟨e, again e mem, e.rivals_refl⟩

/-! ### Building -/

/-- The steps of a whole graph can be added again, however they tell where they lead. -/
theorem Whole.exists_bare {steps : List Step} (h : g.Whole)
    (same : steps.map Step.detached = g.steps.map Step.detached) :
    ∃ bare, (steps.map Reading.ok).foldlM (fun g s => (·.1) <$> Graph.addStep g s) {} = .ok bare ∧ Part g [] bare := by
  have ids : steps.map (·.id) = g.ids := by
    rw [h.ids_eq, ← map_id_detached, same, map_id_detached]
  have distinct : (Graph.ids {} ++ steps.map (·.id)).Nodup := by
    rw [ids]
    exact h.distinct
  obtain ⟨bare, built, whole, unfrozen, bare_steps, no_edges⟩ := addSteps Whole.empty rfl distinct
  refine ⟨bare, built, whole, unfrozen, ?_, no_edges⟩
  rw [bare_steps, ← same, Graph.steps, List.map_nil, List.nil_append, List.map_map]
  exact List.map_congr_left fun s _ => Step.detached_detached

/-- **A whole graph is built again** from a record that tells its steps, apart from where they lead, and its
edges, in order, and tells nothing else in the connections and buttons of the steps. -/
theorem Whole.ofRecord {r : Record} (h : g.Whole) (mutable : g.frozen = false)
    (steps : r.workflow.map Step.detached = g.steps.map Step.detached) (edges : r.connections = g.edges)
    (told : ∀ s ∈ r.workflow, ∀ e ∈ s.toldEdges, e ∈ g.edges) : Graph.ofRecord r = .ok g := by
  -- the bare graph has all steps and no edge, and the offers in order complete it
  obtain ⟨bare, built, part⟩ := h.exists_bare steps
  have complete := part.merge h r.toldEdges
  have all : foremost Edge.rivals (r.toldEdges.filterMap g.admitted?) = g.edges := by
    rw [Record.toldEdges, edges]
    refine h.foremost_told fun e mem => ?_
    obtain ⟨s, there, tells⟩ := List.mem_flatMap.mp mem
    exact told s there e tells
  have same := h.eq_of_detached complete.whole complete.steps (complete.edges.trans all)
    (complete.mutable.trans mutable.symm)
  exact ofRecord_eq_ok.mpr ⟨bare, (build_nil _).trans built, same⟩

/-- The changes by which the graph of a record is built: its steps are added, and then the edges that it
tells. -/
def changesOf (r : Record) : List Edit :=
  r.workflow.map (fun s => .addStep (Reading.ok s)) ++
    r.toldEdges.map fun e => .addEdge e.source e.target (e.button.map Int.ofNat)

/-- What is built up by one change after the other is what the changes make. -/
theorem edits_of_foldlM {α : Type} {make : Graph → α → Except EditError Graph} (change : α → Edit)
    (makes : ∀ p a q, make p a = .ok q → ∃ outcome, p.edit (change a) = .ok (q, outcome)) {as : List α}
    {q : Graph} (h : as.foldlM make p = .ok q) : q = p.edits (as.map change) := by
  induction as generalizing p with
  | nil => exact (Except.ok.inj h).symm
  | cons a rest ih =>
    rw [List.foldlM_cons] at h
    obtain ⟨grown, head, tail⟩ := Except.bind_eq_ok_iff.mp h
    obtain ⟨outcome, made⟩ := makes p a grown head
    rw [List.map_cons, edits_cons_of_ok made]
    exact ih tail

/-- To add a step is a change. -/
theorem edit_of_addStep (p : Graph) (step : Reading Step) (q : Graph)
    (h : (·.1) <$> addStep p step = .ok q) :
    ∃ outcome, p.edit (.addStep step) = .ok (q, outcome) := by
  obtain ⟨⟨grown, stored⟩, added, rfl⟩ := Except.map_eq_ok_iff.mp h
  exact ⟨.step stored, Except.map_eq_ok_iff.mpr ⟨_, added, rfl⟩⟩

theorem edits_of_addSteps {steps : List Step} {q : Graph}
    (h : (steps.map Reading.ok).foldlM (fun g s => (·.1) <$> addStep g s) p = .ok q) :
    q = p.edits (steps.map fun s => .addStep (Reading.ok s)) := by
  rw [edits_of_foldlM Edit.addStep edit_of_addStep h, List.map_map]
  rfl

theorem edits_of_offers (edges : List Edge) :
    edges.foldl offer p =
      p.edits (edges.map fun e => .addEdge e.source e.target (e.button.map Int.ofNat)) := by
  induction edges generalizing p with
  | nil => rfl
  | cons e rest ih =>
    rw [List.foldl_cons, ih, List.map_cons, edits, edits, List.foldl_cons, edit, offer]
    cases p.addEdge e.source e.target (e.button.map Int.ofNat) <;> rfl

/-- **The graph of a record is built by changes**, some of which may have been passed over. -/
theorem ofRecord_eq_edits {r : Record} (h : Graph.ofRecord r = .ok g) :
    g = Graph.edits {} (changesOf r) := by
  obtain ⟨bare, built, rfl⟩ := ofRecord_eq_ok.mp h
  rw [build_nil] at built
  rw [changesOf, edits_append, ← edits_of_addSteps built, edits_of_offers]

end Graph

end Parley
