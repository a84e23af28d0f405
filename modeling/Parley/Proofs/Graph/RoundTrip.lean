import Parley.Proofs.Graph.Rebuild
import Parley.Proofs.Record

/-!
# Writing graphs and reading them back

A graph is written into a record with its edges told two or three times: in the list of connections, in the
connections of the steps, and in the buttons. Reading the record gives back the graph, since all of these
tell edges of the graph and the list tells all of them (`Parley.Graph.Whole.ofRecord`), and since the steps
are read back as they were written (`Parley.Step.reader_write`). The only loss is that of fields without a
meaning that are null, which the compact form drops.
-/

namespace Parley

open Reading

/-! ### Steps without null fields -/

/-- The step without the fields without a meaning that are null. -/
def Step.withoutNulls (s : Step) : Step := s.mapUntyped Form.compact.keep fun fs => fs

/-- Whether all numbers in the dictionaries without a schema are finite. -/
def Step.FiniteUntyped (s : Step) : Prop := ∀ fs ∈ s.untyped, Value.fieldsFinite fs = true

/-- Fields that are kept are as finite as all of them. -/
theorem Form.fieldsFinite_keep {fs : Fields} (form : Form) (finite : Value.fieldsFinite fs = true) :
    Value.fieldsFinite (form.keep fs) = true := by
  cases form with
  | full => exact finite
  | compact =>
    rw [Value.fieldsFinite_eq_all, List.all_eq_true] at finite ⊢
    exact fun entry kept => finite entry (List.mem_of_mem_filter kept)

/-- Finite dictionaries are written as they are, but for the null fields that are dropped. -/
theorem Form.tidy_eq_keep {fs : Fields} (form : Form) (finite : Value.fieldsFinite fs = true) :
    form.tidy fs = form.keep fs :=
  (Value.finiteFields_eq_self_iff _).mpr (form.fieldsFinite_keep finite)

theorem Step.tidied_eq_withoutNulls {s : Step} (h : s.FiniteUntyped) :
    s.mapUntyped Form.compact.tidy Value.finiteFields = s.withoutNulls := by
  have same : s.body.mapUntyped Form.compact.tidy Value.finiteFields =
      s.body.mapUntyped Form.compact.keep fun fs => fs :=
    Body.mapUntyped_congr fun fs mem =>
      ⟨Form.compact.tidy_eq_keep (h fs mem), (Value.finiteFields_eq_self_iff fs).mpr (h fs mem)⟩
  rw [withoutNulls, Step.mapUntyped, Step.mapUntyped, same]

namespace Step

variable {s : Step} {f k : Fields → Fields}

/-- A step is sound or not wherever it leads. -/
theorem sound_detached : s.detached.Sound ↔ s.Sound := by
  obtain ⟨id, title, position, connections, body⟩ := s
  cases body with
  | message m =>
    refine ⟨fun h => ⟨h.settings, fun b mem => ?_, h.attachments⟩,
      fun h => ⟨h.settings, fun b mem => ?_, h.attachments⟩⟩
    · exact h.buttons { b with connectedTo := none } (List.mem_map.mpr ⟨b, mem, rfl⟩)
    · obtain ⟨b', there, rfl⟩ := List.mem_map.mp mem
      exact h.buttons b' there
  | _ => exact Iff.rfl

/-- The dictionaries without a schema do not tell edges. -/
theorem toldEdges_mapUntyped : (s.mapUntyped f k).toldEdges = s.toldEdges := by
  rw [toldEdges, toldEdges, buttons_mapUntyped, connections_mapUntyped, id_mapUntyped, List.zipIdx_map,
    List.filterMap_map]
  rfl

end Step

namespace Graph

variable {g : Graph} {r : Record} {s : Step} {now : Moment} {f k : Fields → Fields}

/-! ### Graphs with other dictionaries -/

/-- The graph with the dictionaries without a schema changed in all its steps. -/
def mapUntyped (f k : Fields → Fields) (g : Graph) : Graph :=
  { g with table := g.table.mapValues (Step.mapUntyped f k) }

theorem steps_mapUntyped : (g.mapUntyped f k).steps = g.steps.map (Step.mapUntyped f k) := by
  rw [mapUntyped, steps, Dict.mapValues, steps, List.map_map, List.map_map]
  rfl

theorem ids_mapUntyped : (g.mapUntyped f k).ids = g.ids := Dict.keys_mapValues _

/-- Dictionaries without a schema do not matter to a whole graph. -/
theorem Whole.mapUntyped (h : g.Whole) : (g.mapUntyped f k).Whole := by
  refine ⟨?_, ?_, ?_, h.unlike, ?_, h.single, h.unlabelled, ?_, ?_⟩
  · intro entry mem
    obtain ⟨old, there, rfl⟩ := List.mem_map.mp mem
    exact h.keyed old there
  · rw [ids_mapUntyped]
    exact h.distinct
  · rw [ids_mapUntyped]
    exact h.joined
  · intro e mem i of
    obtain ⟨t, found, free⟩ := h.anchored e mem i of
    refine ⟨t.mapUntyped f k, ?_, buttonFault?_eq_none_of_kinds free Step.isMessage_mapUntyped ?_⟩
    · rw [step?, Graph.mapUntyped, Dict.get?_mapValues]
      exact congrArg (Option.map _) found
    · rw [Step.buttons_mapUntyped, List.getElem?_map, Option.map_map]
      rfl
  · intro t mem
    rw [steps_mapUntyped] at mem
    obtain ⟨old, there, rfl⟩ := List.mem_map.mp mem
    exact h.bare old there
  · intro t mem i b at_i
    rw [steps_mapUntyped] at mem
    obtain ⟨old, there, rfl⟩ := List.mem_map.mp mem
    rw [Step.buttons_mapUntyped, List.getElem?_map, Option.map_eq_some_iff] at at_i
    obtain ⟨b', at_i, rfl⟩ := at_i
    exact h.mirrored old there i b' at_i

/-! ### What a graph writes -/

/-- The step with its plain successors, as a graph writes it. -/
def connected (g : Graph) (s : Step) : Step := { s with connections := g.connections s.id }

theorem detached_connected : (g.connected s).detached = s.detached := Step.detached_reconnected

/-- **What a whole graph tells over again in its steps** are edges of the graph. -/
theorem Whole.told (h : g.Whole) (mem : s ∈ g.steps) {e : Edge} (tells : e ∈ (g.connected s).toldEdges) :
    e ∈ g.edges := by
  -- an edge is told with its ends and its slot, and edges of a whole graph have nothing else
  have of_slot : ∀ {slot target}, (∃ x ∈ g.successors s.id slot, x.target = target) →
      ({ source := s.id, target, button := slot } : Edge) ∈ g.edges := by
    rintro slot _ ⟨x, out, rfl⟩
    obtain ⟨there, leaves⟩ := List.mem_filter.mp out
    simp only [Bool.and_eq_true, beq_iff_eq] at leaves
    have unlabelled := h.unlabelled x there
    obtain ⟨source, target, button, label⟩ := x
    obtain ⟨rfl, rfl⟩ := leaves
    obtain rfl : label = none := unlabelled
    exact there
  rw [Step.toldEdges, List.mem_append] at tells
  rcases tells with plain | button
  · obtain ⟨target, connected, rfl⟩ := List.mem_map.mp plain
    exact of_slot (List.mem_map.mp connected)
  · obtain ⟨⟨b, i⟩, at_i, shows⟩ := List.mem_filterMap.mp button
    -- a button tells the edge that it shows, and it shows where an edge leads
    have shown : b.connectedTo = g.next? s.id (some i) :=
      h.mirrored s mem i b (List.mem_zipIdx_iff_getElem?.mp at_i)
    simp only at shows
    split at shows
    · rename_i target leads
      split at shows
      · cases shows
      · cases shows
        rw [leads, next?] at shown
        obtain ⟨x, first, rfl⟩ := Option.map_eq_some_iff.mp shown.symm
        exact of_slot ⟨x, List.mem_of_mem_head? first, rfl⟩
    · cases shows

/-- The steps that a graph writes are read back. -/
theorem listOf_exportSteps (sound : ∀ s ∈ g.steps, s.Sound) :
    Reader.listOf Step.reader (.list g.exportSteps) =
      ok (g.steps.map fun s => (g.connected s).mapUntyped Form.compact.tidy Value.finiteFields) :=
  Reader.listOf_map fun s mem => Step.reader_write .compact (s := g.connected s) (sound s mem)

theorem listOf_exportEdges : Reader.listOf Edge.reader (.list g.exportEdges) = ok g.edges := by
  rw [exportEdges, Reader.listOf_map fun e _ => Edge.reader_write .compact e, List.map_id']

/-- The fields of a document that is a dictionary. -/
def fieldsOf : Value → Fields
  | .dict fs => fs
  | _ => []

/-- The record that holds a graph, changed at `now`. -/
def recorded (g : Graph) (r : Record) (now : Moment) : Record :=
  { r with
    triggerType := match g.trigger? with
      | some (_, t) => t.rule.typeName
      | none => r.triggerType
    triggerConfig := match g.trigger? with
      | some (_, t) => fieldsOf (t.write .compact)
      | none => r.triggerConfig
    workflow := g.steps.map fun s => (g.connected s).mapUntyped Form.compact.tidy Value.finiteFields
    connections := g.edges
    updatedAt := now }

/-- The document into which a graph is written. -/
theorem recordFields_eq : g.recordFields r now =
    [("id", .str r.id), ("name", .str r.name), ("description", .str r.description),
      ("trigger_type", .str (g.recorded r now).triggerType),
      ("trigger_config", .dict (g.recorded r now).triggerConfig), ("workflow", .list g.exportSteps),
      ("connections", .list g.exportEdges), ("status", .str r.status.word),
      ("created_at", .str r.createdAt.toText), ("updated_at", .str now.toText)] := by
  unfold recordFields triggerFields recorded
  cases g.trigger? with
  | none => rfl
  | some found =>
    obtain ⟨s, t⟩ := found
    obtain ⟨common, rule⟩ := t
    cases rule <;> rfl

/-- **A graph is written into a record without fail.** -/
theorem toRecord_eq_ok (sound : ∀ s ∈ g.steps, s.Sound) (created : r.createdAt.Valid) (valid : now.Valid) :
    g.toRecord r now = ok (g.recorded r now) := by
  rw [toRecord, recordFields_eq]
  exact Record.readerWith_document (r := g.recorded r now) (listOf_exportSteps sound) listOf_exportEdges
    created valid

/-- **What a graph writes into a record is read back**, but for null fields without a meaning and for numbers
without a schema that are not finite. -/
theorem Whole.ofRecord_recorded (h : g.Whole) (mutable : g.frozen = false) :
    Graph.ofRecord (g.recorded r now) =
      .ok (g.mapUntyped Form.compact.tidy Value.finiteFields) := by
  refine h.mapUntyped.ofRecord mutable ?_ rfl ?_
  · rw [steps_mapUntyped, List.map_map]
    show (g.steps.map fun s => _).map Step.detached = _
    rw [List.map_map]
    refine List.map_congr_left fun s _ => ?_
    simp only [Function.comp_apply, Step.detached_mapUntyped, detached_connected]
  · intro s mem e tells
    obtain ⟨t, there, rfl⟩ := List.mem_map.mp mem
    rw [Step.toldEdges_mapUntyped] at tells
    exact h.told there tells

/-! ### Graphs that were built from documents -/

/-- The steps of a graph that was built from documents are sound. -/
theorem sound_of_edits {changes : List Edit} (documents : ∀ change ∈ changes, change.FromDocument) :
    ∀ s ∈ (Graph.edits {} changes).steps, s.Sound := by
  intro s mem
  rcases Whole.empty.detached_of_edits changes s mem with ⟨t, nothing, -⟩ | ⟨change, there, t, brings, same⟩
  · exact absurd nothing List.not_mem_nil
  · obtain ⟨v, read⟩ := (documents change there).exists_reader brings
    rw [← Step.sound_detached, same, Step.sound_detached]
    exact Step.sound_of_reader read

/-- **Writing a graph into a record and reading it back loses nothing**, as far as numbers without a schema
are finite: however the graph was built from documents, and whatever record that a reader accepts it is
written into, it is written without fail, and what is read back has the same ids in the same order, the same
edges in the same order, and the same steps but for the fields without a meaning that are null. -/
theorem ofRecord_toRecord (changes : List Edit) (documents : ∀ change ∈ changes, change.FromDocument)
    (finite : ∀ s ∈ (Graph.edits {} changes).steps, s.FiniteUntyped) {id : String} {v : Value}
    {made now : Moment} (accepted : Record.readerWith id made v = ok r) (making : made.Valid)
    (valid : now.Valid) :
    let g := Graph.edits {} changes
    ∃ stored back, g.toRecord r now = ok stored ∧ Graph.ofRecord stored = .ok back ∧
      back.ids = g.ids ∧ back.edges = g.edges ∧ back.steps = g.steps.map Step.withoutNulls := by
  intro g
  have whole : g.Whole := Whole.empty.edits changes
  have created := (Record.valid_of_readerWith making accepted).1
  refine ⟨_, _, toRecord_eq_ok (sound_of_edits documents) created valid,
    whole.ofRecord_recorded (frozen_edits {} changes), ids_mapUntyped, rfl, ?_⟩
  rw [steps_mapUntyped]
  exact List.map_congr_left fun s mem => Step.tidied_eq_withoutNulls (finite s mem)

/-- The changes that build a question with a button behind a trigger. -/
def askingChanges : List Edit :=
  [.addStep (Step.reader (.dict [("id", .str "in"), ("type", .str "trigger")])),
    .addStep (Step.reader (.dict [("id", .str "ask"), ("type", .str "message"), ("config", .dict
      [("text", .str "Well?"), ("note", .null), ("weight", .float 1.5),
        ("buttons", .list [.dict [("text", .str "Yes")]])])])),
    .addStep (Step.reader (.dict [("id", .str "yes"), ("type", .str "branch")])),
    .addEdge "in" "ask" none, .addEdge "ask" "yes" (some 0)]

theorem ofRecord_toRecord_asking :
    (∀ change ∈ askingChanges, change.FromDocument) ∧
    (∀ s ∈ (Graph.edits {} askingChanges).steps, s.FiniteUntyped) ∧
    ∃ r stored back, Record.readerWith "a" ⟨0, none⟩ (.dict []) = ok r ∧
      (Graph.edits {} askingChanges).toRecord r ⟨5, none⟩ = ok stored ∧
      Graph.ofRecord stored = .ok back ∧ back.ids = ["in", "ask", "yes"] ∧
      back.edges = [⟨"in", "ask", none, none⟩, ⟨"ask", "yes", some 0, none⟩] ∧
      back.steps = (Graph.edits {} askingChanges).steps.map Step.withoutNulls := by
  have documents : ∀ change ∈ askingChanges, change.FromDocument := by
    simp [askingChanges, Edit.FromDocument]
  have finite : ∀ s ∈ (Graph.edits {} askingChanges).steps, s.FiniteUntyped := by
    show ∀ s ∈ (Graph.edits {} askingChanges).steps, ∀ fs ∈ s.untyped, Value.fieldsFinite fs = true
    decide +kernel
  have first : Moment.Valid ⟨0, none⟩ := Moment.valid_of_clock (by decide)
  have later : Moment.Valid ⟨5, none⟩ := Moment.valid_of_clock (by decide)
  have accepted : Record.readerWith "a" ⟨0, none⟩ (.dict []) =
      ok { id := "a", createdAt := ⟨0, none⟩, updatedAt := ⟨0, none⟩ } := rfl
  obtain ⟨stored, back, written, read, ids, edges, steps⟩ :=
    ofRecord_toRecord askingChanges documents finite accepted first later
  exact ⟨documents, finite, _, stored, back, accepted, written, read, ids, edges, steps⟩

end Graph

end Parley
