import Mathlib.Data.List.Duplicate
import Parley.Graph.Record
import Parley.Proofs.Foremost
import Parley.Proofs.Graph.Origin

/-!
# Merging the accounts of a record

The graph of a record is made in two rounds. First its steps come in, without a word on where they lead; this
fails only if two of them have the same id. Then all edges that the record tells are offered, in its list of
connections, in the connections of its steps and in their buttons, and whether one is taken depends on two
things: whether the steps admit it, which no offer changes (`Parley.Graph.Part.admits_eq`), and whether one
that was taken before rivals it, by joining the same ends or by leaving the same button.

So the edges of the graph are the foremost of those admitted (`Parley.Graph.Part.merge`), and what the merged
graph has at each slot, and in which order, is what `Parley.foremost` has.
-/

namespace Parley

/-! ### Rivals -/

namespace Edge

variable {a b e : Edge}

/-- Whether a graph can have only one of two edges: they leave the same button, or are alike. -/
def rivals (a b : Edge) : Bool :=
  a.source == b.source && a.button == b.button && (a.button.isSome || a.target == b.target)

theorem rivals_iff : a.rivals b = true ↔
    a.source = b.source ∧ a.button = b.button ∧ (a.button = none → a.target = b.target) := by
  cases slot : a.button <;> simp [rivals, slot, and_assoc]

theorem sameLink_iff : a.sameLink b = true ↔
    a.source = b.source ∧ a.target = b.target ∧ a.button = b.button := by
  simp [sameLink, and_assoc]

theorem rivals_refl (a : Edge) : a.rivals a = true := rivals_iff.mpr ⟨rfl, rfl, fun _ => rfl⟩

theorem rivals_of_sameLink (h : a.sameLink b = true) : a.rivals b = true := by
  obtain ⟨source, target, button⟩ := sameLink_iff.mp h
  exact rivals_iff.mpr ⟨source, button, fun _ => target⟩

/-- The edge without its label. -/
def unlabelled (e : Edge) : Edge := { e with label := none }

theorem unlabelled_eq_self (h : e.label = none) : e.unlabelled = e := by
  obtain ⟨source, target, button, label⟩ := e
  obtain rfl : label = none := h
  rfl

/-- An edge without a label is what is left of the edges like it. -/
theorem unlabelled_eq_iff (bare : a.label = none) : e.unlabelled = a ↔ a.sameLink e = true := by
  obtain ⟨source, target, button, label⟩ := a
  obtain rfl : label = none := bare
  rw [sameLink_iff]
  constructor
  · rintro same
    cases same
    exact ⟨rfl, rfl, rfl⟩
  · rintro ⟨same_source, same_target, same_button⟩
    dsimp only at same_source same_target same_button
    rw [unlabelled, same_source, same_target, same_button]

end Edge

namespace Graph

variable {g p : Graph} {s t : Step} {e : Edge}

/-! ### Offers -/

/-- Whether the steps of a graph admit an edge: its ends are two of them, and it leaves its source by the
plain slot or by an automation button. -/
def admits (g : Graph) (e : Edge) : Bool :=
  match g.step? e.source with
  | some s => g.has e.target && e.source != e.target && e.button.all fun i => (buttonFault? s i).isNone
  | none => false

theorem admits_iff : g.admits e = true ↔ ∃ s, g.step? e.source = some s ∧ e.target ∈ g.ids ∧
    e.source ≠ e.target ∧ ∀ i, e.button = some i → buttonFault? s i = none := by
  unfold admits
  cases g.step? e.source with
  | none => simp
  | some s => cases e.button <;> simp [and_assoc, has, ids, Dict.has_iff_mem_keys]

theorem admits_congr {a : Edge} (alike : a.sameLink e = true) : g.admits a = g.admits e := by
  obtain ⟨source, target, button⟩ := Edge.sameLink_iff.mp alike
  rw [admits, admits, source, target, button]

/-- What an edge that is offered becomes, as far as the steps admit it. -/
def admitted? (g : Graph) (e : Edge) : Option Edge := if g.admits e then some e.unlabelled else none

theorem admitted?_eq_some {a : Edge} :
    g.admitted? e = some a ↔ g.admits e = true ∧ e.unlabelled = a := by
  unfold admitted?
  cases g.admits e <;> simp

theorem mem_admitted {told : List Edge} {a : Edge} :
    a ∈ told.filterMap g.admitted? ↔ ∃ c ∈ told, g.admits c = true ∧ c.unlabelled = a := by
  simp only [List.mem_filterMap, admitted?_eq_some]

/-- **When an edge is taken**: the steps admit it, and no edge that is there rivals it. -/
theorem Whole.addEdge_eq_ok (h : p.Whole) (mutable : p.frozen = false) {p' : Graph} {x : Edge} :
    p.addEdge e.source e.target (e.button.map Int.ofNat) = .ok (p', x) ↔
      p.admits e = true ∧ (∀ b ∈ p.edges, e.unlabelled.rivals b = false) ∧ x = e.unlabelled ∧
        p' = { p.aim e.source e.button (some e.target) with edges := p.edges ++ [x] } := by
  rw [Graph.addEdge_eq_ok, admits_iff]
  constructor
  · rintro ⟨s, slot, -, found, target, apart, meant, rfl, unlike, free, rfl⟩
    obtain rfl : e.button = slot := slot_injective meant
    have starts := slotFault?_eq_none_iff.mp free
    refine ⟨⟨s, found, target, apart, fun i of => (starts i of).1⟩, fun b mem => ?_, rfl, rfl⟩
    refine Bool.eq_false_iff.mpr fun rivals => ?_
    obtain ⟨source, button, ends⟩ := Edge.rivals_iff.mp rivals
    have slot_s : s.id = e.source := (h.step?_eq_some_iff.mp found).2
    -- a rival is alike, or it leaves the button, from which no edge starts
    cases slot : e.button with
    | none =>
      have alike := Edge.sameLink_iff.mpr ⟨source, ends slot, button⟩
      exact Bool.false_ne_true ((unlike b mem).symm.trans alike)
    | some i =>
      have leaves : b ∈ p.successors s.id (some i) := by
        refine List.mem_filter.mpr ⟨mem, ?_⟩
        rw [slot_s, ← slot]
        simpa using ⟨source.symm, button.symm⟩
      rw [(starts i slot).2] at leaves
      exact List.not_mem_nil leaves
  · rintro ⟨⟨s, found, target, apart, starts⟩, free, rfl, rfl⟩
    have slot_s : s.id = e.source := (h.step?_eq_some_iff.mp found).2
    refine ⟨s, e.button, mutable, found, target, apart, rfl, rfl, fun b mem => ?_, ?_, rfl⟩
    · refine Bool.eq_false_iff.mpr fun alike => ?_
      exact Bool.false_ne_true ((free b mem).symm.trans (Edge.rivals_of_sameLink alike))
    · refine slotFault?_eq_none_iff.mpr fun i of => ⟨starts i of, ?_⟩
      refine List.eq_nil_iff_forall_not_mem.mpr fun b leaves => ?_
      obtain ⟨mem, out⟩ := List.mem_filter.mp leaves
      simp only [Bool.and_eq_true, beq_iff_eq] at out
      have rivals : e.unlabelled.rivals b = true := by
        refine Edge.rivals_iff.mpr ⟨(out.1.trans slot_s).symm, of.trans out.2.symm, fun plain => ?_⟩
        exact absurd (of.symm.trans plain) (Option.some_ne_none i)
      exact Bool.false_ne_true ((free b mem).symm.trans rivals)

/-! ### Graphs of the same steps -/

theorem map_id_detached (steps : List Step) : (steps.map Step.detached).map (·.id) = steps.map (·.id) := by
  rw [List.map_map]
  exact List.map_congr_left fun s _ => Step.id_detached

theorem Whole.ids_eq (h : g.Whole) : g.ids = g.steps.map (·.id) := by
  rw [Graph.ids, Dict.keys, Graph.steps, List.map_map]
  exact List.map_congr_left fun entry mem => h.keyed entry mem

/-- Where an edge may start does not depend on where the step leads. -/
theorem buttonFault?_of_detached {i : Nat} (same : s.detached = t.detached)
    (free : buttonFault? t i = none) : buttonFault? s i = none := by
  rw [← buttonFault?_detached, same, buttonFault?_detached, free]

/-- A graph with all steps of another one, apart from where they lead, and with edges of its own. -/
structure Part (g : Graph) (edges : List Edge) (p : Graph) : Prop where
  whole : p.Whole
  mutable : p.frozen = false
  steps : p.steps.map Step.detached = g.steps.map Step.detached
  edges : p.edges = edges

namespace Part

variable {done : List Edge}

theorem ids_eq (h : g.Whole) (part : Part g done p) : p.ids = g.ids := by
  rw [part.whole.ids_eq, h.ids_eq, ← map_id_detached, part.steps, map_id_detached]

/-- A step of one graph is a step of the other, apart from where it leads. -/
theorem exists_step? (h : g.Whole) (part : Part g done p) {id : String} (mem : id ∈ g.ids) :
    ∃ s t, p.step? id = some s ∧ g.step? id = some t ∧ s.detached = t.detached := by
  rw [← part.ids_eq h] at mem
  obtain ⟨s, found⟩ := Dict.mem_keys_iff.mp mem
  obtain ⟨there, rfl⟩ := part.whole.step?_eq_some_iff.mp found
  have mem : s.detached ∈ g.steps.map Step.detached := part.steps ▸ List.mem_map_of_mem there
  obtain ⟨t, there, same⟩ := List.mem_map.mp mem
  refine ⟨s, t, found, h.step?_eq_some_iff.mpr ⟨there, ?_⟩, same.symm⟩
  rw [← Step.id_detached, same, Step.id_detached]

/-- **What the steps admit** does not depend on the edges that are there. -/
theorem admits_eq (h : g.Whole) (part : Part g done p) (e : Edge) : p.admits e = g.admits e := by
  refine Bool.eq_iff_iff.mpr ?_
  rw [admits_iff, admits_iff, part.ids_eq h]
  constructor
  · rintro ⟨s, found, target, apart, starts⟩
    have source : e.source ∈ g.ids :=
      part.ids_eq h ▸ Dict.mem_keys_of_get? found
    obtain ⟨s', t, found', there, same⟩ := part.exists_step? h source
    obtain rfl : s' = s := Option.some.inj (found'.symm.trans found)
    exact ⟨t, there, target, apart, fun i of => buttonFault?_of_detached same.symm (starts i of)⟩
  · rintro ⟨t, there, target, apart, starts⟩
    have source : e.source ∈ g.ids := Dict.mem_keys_of_get? there
    obtain ⟨s, t', found, there', same⟩ := part.exists_step? h source
    obtain rfl : t' = t := Option.some.inj (there'.symm.trans there)
    exact ⟨s, found, target, apart, fun i of => buttonFault?_of_detached same (starts i of)⟩

/-- **What an offer does**: an edge that the steps admit is taken, unless one that is there rivals it. -/
theorem offer (h : g.Whole) (part : Part g done p) (e : Edge) :
    Part g ((g.admitted? e).elim done (choose Edge.rivals done)) (p.offer e) := by
  cases made : p.addEdge e.source e.target (e.button.map Int.ofNat) with
  | ok taken =>
    obtain ⟨p', x⟩ := taken
    obtain ⟨admitted, free, rfl, rfl⟩ := (part.whole.addEdge_eq_ok part.mutable).mp made
    rw [part.admits_eq h] at admitted
    rw [part.edges] at free
    rw [admitted?_eq_some.mpr ⟨admitted, rfl⟩, Option.elim_some, choose_of_free free, Graph.offer, made]
    refine ⟨part.whole.addEdge made, ?_, detached_aim.trans part.steps, ?_⟩
    · cases e.button <;> exact part.mutable
    · show p.edges ++ [_] = _
      rw [part.edges]
  | error refused =>
    have same : (g.admitted? e).elim done (choose Edge.rivals done) = done := by
      cases admitted : g.admitted? e with
      | none => rfl
      | some x =>
        obtain ⟨admits, rfl⟩ := admitted?_eq_some.mp admitted
        refine if_pos ?_
        rw [← part.admits_eq h] at admits
        by_contra free
        -- admitted and without a rival, it would have been taken
        have taken := (part.whole.addEdge_eq_ok part.mutable).mpr
          ⟨admits, fun b mem => ?_, rfl, rfl⟩
        · cases made.symm.trans taken
        · rw [part.edges] at mem
          exact Bool.eq_false_iff.mpr fun rivals => free (List.any_eq_true.mpr ⟨b, mem, rivals⟩)
    rw [same, Graph.offer, made]
    exact part

/-- **What offers do, one after the other**: the foremost of those that the steps admit are taken. -/
theorem merge (h : g.Whole) (part : Part g done p) (told : List Edge) :
    Part g ((told.filterMap g.admitted?).foldl (choose Edge.rivals) done) (told.foldl Graph.offer p) := by
  induction told generalizing done p with
  | nil => exact part
  | cons e rest ih =>
    have merged := ih (part.offer h e)
    rw [List.foldl_cons, List.filterMap_cons]
    cases admitted : g.admitted? e <;> rw [admitted] at merged <;> exact merged

end Part

/-! ### Steps -/

/-- A step with an id of its own comes in at the end, without a word on where it leads. -/
theorem addStep_of_not_mem (mutable : p.frozen = false) (absent : s.id ∉ p.ids) :
    ∃ q stored, p.addStep (Reading.ok s) = .ok (q, stored) ∧ q.frozen = false ∧ q.ids = p.ids ++ [s.id] ∧
      q.steps = p.steps ++ [s.detached] ∧ q.edges = p.edges := by
  refine ⟨_, _, addStep_eq_ok.mpr ⟨s, mutable, rfl, absent, rfl, rfl⟩, mutable, ?_, ?_, rfl⟩
  · exact Dict.keys_put.trans (if_neg absent)
  · rw [Graph.steps, Dict.put_of_not_mem absent, List.map_append]
    rfl

/-- A step whose id is there is refused. -/
theorem addStep_of_mem (mutable : p.frozen = false) (present : s.id ∈ p.ids) :
    p.addStep (Reading.ok s) = .error (.broken (.stepExists s.id)) := by
  have may_change : p.requireMutable = .ok () := requireMutable_eq_ok.mpr mutable
  have there : p.has s.id = true := Dict.has_iff_mem_keys.mpr present
  rw [addStep, may_change, requireRead_eq_ok.mpr rfl, Except.ok_bind, Except.ok_bind, if_pos there]
  rfl

/-- Steps with ids of their own can be added one after the other. -/
theorem addSteps {steps : List Step} (whole : p.Whole) (mutable : p.frozen = false)
    (distinct : (p.ids ++ steps.map (·.id)).Nodup) :
    ∃ q : Graph, (steps.map Reading.ok).foldlM (fun g s => (·.1) <$> addStep g s) p = .ok q ∧
      q.Whole ∧ q.frozen = false ∧ q.steps = p.steps ++ steps.map Step.detached ∧ q.edges = p.edges := by
  induction steps generalizing p with
  | nil => exact ⟨p, rfl, whole, mutable, (List.append_nil _).symm, rfl⟩
  | cons s rest ih =>
    have absent : s.id ∉ p.ids := fun mem =>
      (List.nodup_append.mp distinct).2.2 s.id mem s.id List.mem_cons_self rfl
    obtain ⟨p', stored, added, mutable, ids, steps, edges⟩ := addStep_of_not_mem mutable absent
    obtain ⟨q, built, whole, mutable, steps', edges'⟩ := ih (whole.addStep added) mutable (by
      rw [ids, List.append_assoc, List.singleton_append]
      exact distinct)
    refine ⟨q, ?_, whole, mutable, ?_, edges'.trans edges⟩
    · rw [List.map_cons, List.foldlM_cons, added]
      exact built
    · rw [steps', steps, List.append_assoc]
      rfl

/-- **Steps of which two have the same id** cannot be added: the second one is refused. -/
theorem addSteps_eq_error {steps : List Step} (mutable : p.frozen = false) (own : p.ids.Nodup)
    (again : ¬ (p.ids ++ steps.map (·.id)).Nodup) :
    ∃ id, (steps.map Reading.ok).foldlM (fun g s => (·.1) <$> addStep g s) p =
        .error (.broken (.stepExists id)) ∧ List.Duplicate id (p.ids ++ steps.map (·.id)) := by
  induction steps generalizing p with
  | nil =>
    rw [List.map_nil, List.append_nil] at again
    exact absurd own again
  | cons s rest ih =>
    by_cases present : s.id ∈ p.ids
    · refine ⟨s.id, ?_, ?_⟩
      · rw [List.map_cons, List.foldlM_cons, addStep_of_mem mutable present]
        rfl
      · have before := List.count_pos_iff.mpr present
        rw [List.duplicate_iff_two_le_count, List.count_append, List.map_cons, List.count_cons_self]
        omega
    · obtain ⟨p', stored, added, mutable, ids, -, -⟩ := addStep_of_not_mem mutable present
      have longer : p'.ids ++ rest.map (·.id) = p.ids ++ (s :: rest).map (·.id) := by
        rw [ids, List.append_assoc]
        rfl
      have own' : p'.ids.Nodup := by
        rw [ids, List.nodup_append]
        refine ⟨own, List.pairwise_singleton _ s.id, fun a mem b last same => present ?_⟩
        rwa [← List.mem_singleton.mp last, ← same]
      obtain ⟨id, failed, twice⟩ := ih mutable own' (longer.symm ▸ again)
      refine ⟨id, ?_, longer ▸ twice⟩
      rw [List.map_cons, List.foldlM_cons, added]
      exact failed

/-! ### The graph of a record -/

/-- **A graph is the merger of what a record tells**: it has the steps of the record, and an edge for each
edge that is told, but for those that lead from or to no step, from a step to itself or from what is no
automation button, for those told before, and for those of a button that has an edge already. -/
structure Merged (r : Record) (g : Graph) : Prop where
  /-- The steps are those of the record, apart from where they lead. -/
  steps : g.steps.map Step.detached = r.workflow.map Step.detached
  /-- The plain edges are those that are told and join two different steps. -/
  plain : ∀ source target, ({ source, target } : Edge) ∈ g.edges ↔
    (∃ c ∈ r.toldEdges, c.source = source ∧ c.target = target ∧ c.button = none) ∧
      source ∈ r.workflow.map (·.id) ∧ target ∈ r.workflow.map (·.id) ∧ source ≠ target
  /-- An automation button leads where the first edge leads that is told of it and has another step at its
  end. -/
  button : ∀ s ∈ r.workflow, s.isMessage = true → ∀ i b, s.buttons[i]? = some b → b.kind = .automation →
    g.next? s.id (some i) = (r.toldEdges.find? fun c => c.source == s.id && c.button == some i &&
      ((r.workflow.map (·.id)).contains c.target && c.target != s.id)).map (·.target)
  /-- There are no other edges: one that is not plain leaves an automation button, and is the only one to do
  so. -/
  other : ∀ e ∈ g.edges, e.label = none ∧ ∀ i, e.button = some i → g.successors e.source (some i) = [e] ∧
    ∃ s ∈ r.workflow, s.id = e.source ∧ s.isMessage = true ∧
      ∃ b, s.buttons[i]? = some b ∧ b.kind = .automation
  /-- No two edges are alike. -/
  distinct : g.edges.Pairwise fun a b => a.sameLink b = false
  /-- The edges stand in the order in which they are told first. -/
  order : g.edges.Pairwise fun a b => r.toldEdges.findIdx a.sameLink < r.toldEdges.findIdx b.sameLink

/-- Without edges to add, what is built are the steps. -/
theorem build_nil (steps : List (Reading Step)) :
    build steps [] = steps.foldlM (fun g s => (·.1) <$> addStep g s) {} := by
  rw [build]
  exact bind_pure _

/-- **How a record gets its graph**: its steps are built, and then all edges that it tells are offered. -/
theorem ofRecord_eq_ok {r : Record} : Graph.ofRecord r = .ok g ↔
    ∃ bare, build (r.workflow.map Reading.ok) [] = .ok bare ∧ r.toldEdges.foldl offer bare = g := by
  rw [Graph.ofRecord, Except.bind_eq_ok_iff]
  exact exists_congr fun bare => and_congr_right fun _ => ⟨Except.ok.inj, congrArg Except.ok⟩

/-- How the graph of a record comes about: `bare` has its steps, and no offer was made to it yet. -/
structure Merging (r : Record) (bare g : Graph) : Prop where
  whole : bare.Whole
  steps : bare.steps = r.workflow.map Step.detached
  part : Part bare (foremost Edge.rivals (r.toldEdges.filterMap bare.admitted?)) g

/-- A record whose steps have ids of their own has a graph. -/
theorem ofRecord_of_distinct {r : Record} (distinct : (r.workflow.map (·.id)).Nodup) :
    ∃ bare g, Graph.ofRecord r = .ok g ∧ Merging r bare g := by
  obtain ⟨bare, built, whole, unfrozen, steps, no_edges⟩ := addSteps Whole.empty rfl distinct
  exact ⟨bare, r.toldEdges.foldl Graph.offer bare, ofRecord_eq_ok.mpr ⟨bare, (build_nil _).trans built, rfl⟩,
    whole, steps, Part.merge whole ⟨whole, unfrozen, rfl, no_edges⟩ r.toldEdges⟩

/-- A record with a graph has steps with ids of their own, and the graph comes about as described. -/
theorem exists_merging {r : Record} (h : Graph.ofRecord r = .ok g) : ∃ bare, Merging r bare g := by
  have distinct : (r.workflow.map (·.id)).Nodup := by
    by_contra again
    obtain ⟨bare, built, -⟩ := ofRecord_eq_ok.mp h
    obtain ⟨id, failed, -⟩ := addSteps_eq_error (p := {}) rfl List.nodup_nil again
    rw [build_nil, failed] at built
    cases built
  obtain ⟨bare, g', made, merging⟩ := ofRecord_of_distinct distinct
  cases h.symm.trans made
  exact ⟨bare, merging⟩

namespace Merging

variable {r : Record} {bare : Graph}

/-- The step of an id, before the offers. -/
theorem step?_eq_some_iff (h : Merging r bare g) {id : String} :
    bare.step? id = some t ↔ ∃ s ∈ r.workflow, s.detached = t ∧ s.id = id := by
  rw [h.whole.step?_eq_some_iff, h.steps]
  constructor
  · rintro ⟨mem, rfl⟩
    obtain ⟨s, there, rfl⟩ := List.mem_map.mp mem
    exact ⟨s, there, rfl, Step.id_detached.symm⟩
  · rintro ⟨s, there, rfl, rfl⟩
    exact ⟨List.mem_map_of_mem there, Step.id_detached⟩

theorem ids_eq (h : Merging r bare g) : bare.ids = r.workflow.map (·.id) := by
  rw [h.whole.ids_eq, h.steps, map_id_detached]

/-- **What the steps of a record admit.** -/
theorem admits_iff (h : Merging r bare g) : bare.admits e = true ↔ ∃ s ∈ r.workflow, s.id = e.source ∧
    e.target ∈ r.workflow.map (·.id) ∧ e.source ≠ e.target ∧
      ∀ i, e.button = some i → buttonFault? s i = none := by
  rw [Graph.admits_iff, h.ids_eq]
  constructor
  · rintro ⟨t, found, target, apart, starts⟩
    obtain ⟨s, there, rfl, source⟩ := h.step?_eq_some_iff.mp found
    refine ⟨s, there, source, target, apart, fun i of => ?_⟩
    exact buttonFault?_of_detached Step.detached_detached.symm (starts i of)
  · rintro ⟨s, there, source, target, apart, starts⟩
    refine ⟨s.detached, h.step?_eq_some_iff.mpr ⟨s, there, rfl, source⟩, target, apart, fun i of => ?_⟩
    exact buttonFault?_of_detached Step.detached_detached (starts i of)

/-- What is taken was told, and the steps admit it. -/
theorem exists_told (h : Merging r bare g) (mem : e ∈ g.edges) :
    ∃ c ∈ r.toldEdges, e.sameLink c = true ∧ bare.admits c = true := by
  obtain ⟨c, told, admitted, same⟩ := mem_admitted.mp (mem_of_mem_foremost (h.part.edges ▸ mem))
  exact ⟨c, told, (Edge.unlabelled_eq_iff (h.part.whole.unlabelled e mem)).mp same, admitted⟩

/-- **The plain edges** are those that are told and join two different steps. -/
theorem plain_mem_iff (h : Merging r bare g) {source target : String} :
    ({ source, target } : Edge) ∈ g.edges ↔
      (∃ c ∈ r.toldEdges, c.source = source ∧ c.target = target ∧ c.button = none) ∧
        source ∈ r.workflow.map (·.id) ∧ target ∈ r.workflow.map (·.id) ∧ source ≠ target := by
  refine ⟨fun mem => ?_, ?_⟩
  · obtain ⟨c, told, alike, admitted⟩ := h.exists_told mem
    obtain ⟨rfl, rfl, plain⟩ := Edge.sameLink_iff.mp alike
    obtain ⟨s, there, source, target, apart, -⟩ := h.admits_iff.mp admitted
    exact ⟨⟨c, told, rfl, rfl, plain.symm⟩, source ▸ List.mem_map_of_mem there, target, apart⟩
  · rintro ⟨⟨c, told, rfl, rfl, plain⟩, source, target, apart⟩
    obtain ⟨s, there, source⟩ := List.mem_map.mp source
    have admitted : bare.admits c = true :=
      h.admits_iff.mpr ⟨s, there, source, target, apart, fun i of => absurd (plain.symm.trans of) nofun⟩
    -- what is taken in the place of a plain edge is alike
    obtain ⟨x, mem, rivals⟩ := exists_rival Edge.rivals_refl (mem_admitted.mpr ⟨c, told, admitted, rfl⟩)
    rw [← h.part.edges] at mem
    obtain ⟨same_source, same_button, same_target⟩ := Edge.rivals_iff.mp rivals
    have alike : x = { source := c.source, target := c.target } := by
      rw [← Edge.unlabelled_eq_self (h.part.whole.unlabelled x mem)]
      refine (Edge.unlabelled_eq_iff rfl).mpr (Edge.sameLink_iff.mpr ⟨same_source, same_target plain, ?_⟩)
      exact plain.symm.trans same_button
    exact alike ▸ mem

/-- Of the edges that are told of an automation button, the steps admit those with another step at their
end. -/
theorem admits_button (h : Merging r bare g) {i : Nat} {c : Edge} (there : s ∈ r.workflow)
    (starts : buttonFault? s i = none) (source : c.source = s.id) (button : c.button = some i) :
    bare.admits c = true ↔ c.target ∈ r.workflow.map (·.id) ∧ c.target ≠ s.id := by
  rw [h.admits_iff, source]
  constructor
  · rintro ⟨-, -, -, target, apart, -⟩
    exact ⟨target, apart.symm⟩
  · rintro ⟨target, apart⟩
    refine ⟨s, there, rfl, target, apart.symm, fun j of => ?_⟩
    rwa [← Option.some.inj (button.symm.trans of)]

/-- **A button leads** where the first edge leads that is told of it and has another step at its end. -/
theorem next?_eq (h : Merging r bare g) {i : Nat} (there : s ∈ r.workflow)
    (starts : buttonFault? s i = none) :
    g.next? s.id (some i) = (r.toldEdges.find? fun c => c.source == s.id && c.button == some i &&
      ((r.workflow.map (·.id)).contains c.target && c.target != s.id)).map (·.target) := by
  have fits : ∀ c : Edge, (bare.admitted? c).any (fun e => e.source == s.id && e.button == some i) =
      (c.source == s.id && c.button == some i &&
        ((r.workflow.map (·.id)).contains c.target && c.target != s.id)) := by
    intro c
    have admits := h.admits_button (c := c) there starts
    refine Bool.eq_iff_iff.mpr ?_
    simp only [Option.any_eq_true, admitted?_eq_some, Bool.and_eq_true, beq_iff_eq, bne_iff_ne,
      List.contains_iff_mem]
    constructor
    · rintro ⟨e, ⟨admitted, rfl⟩, source, button⟩
      exact ⟨⟨source, button⟩, (admits source button).mp admitted⟩
    · rintro ⟨⟨source, button⟩, ends⟩
      exact ⟨_, ⟨(admits source button).mpr ends, rfl⟩, source, button⟩
  have blind : ∀ a b : Edge, a.rivals b = true →
      (a.source == s.id && a.button == some i) = (b.source == s.id && b.button == some i) := by
    intro a b rivals
    obtain ⟨source, button, -⟩ := Edge.rivals_iff.mp rivals
    rw [source, button]
  rw [next?, successors, List.head?_filter, h.part.edges, find?_foremost blind, List.find?_filterMap]
  simp only [fits]
  -- the edge that is found is admitted, and goes on without its label
  rw [Option.map_bind, Option.map_eq_bind]
  refine Option.bind_congr fun c found => ?_
  have passes := List.find?_some found
  obtain ⟨x, admitted, -⟩ := (Option.any_eq_true ..).mp ((fits c).trans passes)
  obtain ⟨-, rfl⟩ := admitted?_eq_some.mp admitted
  rw [Function.comp_apply, admitted]
  rfl

/-- **The edges stand in the order in which they are told first.** -/
theorem order (h : Merging r bare g) :
    g.edges.Pairwise fun a b => r.toldEdges.findIdx a.sameLink < r.toldEdges.findIdx b.sameLink := by
  have ordered := pairwise_findIdx_foremost Edge.rivals_refl bare.admitted? r.toldEdges
  rw [← h.part.edges] at ordered
  -- the steps admit all edges like one that is taken, so the first of them is where it came up
  have first {a : Edge} (mem : a ∈ g.edges) : (bare.admitted? · == some a) = a.sameLink := by
    obtain ⟨c, -, alike, admitted⟩ := h.exists_told mem
    funext x
    refine Bool.eq_iff_iff.mpr ?_
    rw [beq_iff_eq, admitted?_eq_some, Edge.unlabelled_eq_iff (h.part.whole.unlabelled a mem)]
    refine ⟨And.right, fun like => ⟨?_, like⟩⟩
    rw [← admits_congr like, admits_congr alike]
    exact admitted
  refine ordered.imp_of_mem fun mem_a mem_b before => ?_
  rwa [first mem_a, first mem_b] at before

/-- An edge that is not plain leaves an automation button. -/
theorem exists_button (h : Merging r bare g) {i : Nat} (mem : e ∈ g.edges) (of : e.button = some i) :
    ∃ s ∈ r.workflow, s.id = e.source ∧ s.isMessage = true ∧
      ∃ b, s.buttons[i]? = some b ∧ b.kind = .automation := by
  obtain ⟨c, -, alike, admitted⟩ := h.exists_told mem
  obtain ⟨source, -, button⟩ := Edge.sameLink_iff.mp alike
  obtain ⟨s, there, source_s, -, -, starts⟩ := h.admits_iff.mp admitted
  obtain ⟨message, kind⟩ := buttonFault?_eq_none_iff.mp (starts i (button ▸ of))
  exact ⟨s, there, source_s.trans source.symm, message, Option.map_eq_some_iff.mp kind⟩

theorem merged (h : Merging r bare g) : g.Merged r where
  steps := by
    rw [h.part.steps, h.steps, List.map_map]
    exact List.map_congr_left fun s _ => Step.detached_detached
  plain _ _ := h.plain_mem_iff
  button s there message i b at_i automation := by
    refine h.next?_eq there (buttonFault?_eq_none_iff.mpr ⟨message, ?_⟩)
    rw [at_i, Option.map_some, automation]
  other e mem := ⟨h.part.whole.unlabelled e mem, fun i of =>
    ⟨h.part.whole.successors_eq_singleton mem of, h.exists_button mem of⟩⟩
  distinct := h.part.whole.unlike
  order := h.order

end Merging

/-- **A record is merged into a graph** unless two of its steps have the same id, and an error names such an
id. -/
theorem ofRecord_merges (r : Record) :
    if (r.workflow.map (·.id)).Nodup then ∃ g, Graph.ofRecord r = .ok g ∧ g.Merged r
    else ∃ id, List.Duplicate id (r.workflow.map (·.id)) ∧
      Graph.ofRecord r = .error (.broken (.stepExists id)) := by
  split
  · rename_i distinct
    obtain ⟨bare, g, made, merging⟩ := ofRecord_of_distinct distinct
    exact ⟨g, made, merging.merged⟩
  · rename_i again
    obtain ⟨id, failed, twice⟩ := addSteps_eq_error (p := {}) rfl List.nodup_nil again
    refine ⟨id, twice, ?_⟩
    rw [Graph.ofRecord, build_nil, failed]
    rfl

end Graph

end Parley
