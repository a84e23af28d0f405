import Parley.Proofs.Store.Saving

/-!
# The normal form of records

A record is brought into its normal form by taking its graph and writing it back. In the normal form the
accounts of where steps lead agree (`Parley.Record.Coherent`), which is what the integrity of the graph comes
to once it is written down: connections and buttons are derived from the edges when they are written, and the
edges are those of the graph.

Bringing a record into its normal form again changes nothing but the time of change
(`Parley.Record.exists_normalForm`). Its graph is the one that was written
(`Parley.Graph.Whole.ofRecord_recorded`), except that fields without a meaning have been written once. To be
written once and twice is the same for them as long as their numbers are finite: a number that is not is
written as null, and a null field is not written the second time.
-/

namespace Parley

open Reading

/-! ### Writing twice -/

namespace Form

variable {form : Form} {fs : Fields}

theorem keep_keep (form : Form) (fs : Fields) : form.keep (form.keep fs) = form.keep fs := by
  cases form with
  | full => rfl
  | compact => exact List.filter_eq_self.mpr fun entry kept => (List.mem_filter.mp kept).2

/-- Finite fields are written twice as they are written once. -/
theorem tidy_of_tidy (form : Form) (finite : Value.fieldsFinite fs = true) :
    form.tidy (form.tidy fs) = form.tidy fs := by
  rw [form.tidy_eq_keep finite, form.tidy_eq_keep (form.fieldsFinite_keep finite), form.keep_keep]

end Form

/-- The settings as they are read back when they were written compactly. -/
def TriggerSettings.tidied (t : TriggerSettings) : TriggerSettings :=
  { t with toSettings := t.toSettings.mapExtras Form.compact.tidy }

theorem TriggerSettings.write_tidied {t : TriggerSettings} (finite : Value.fieldsFinite t.extras = true) :
    t.tidied.write .compact = t.write .compact := by
  have same : Form.compact.tidy t.tidied.extras = Form.compact.tidy t.extras :=
    Form.compact.tidy_of_tidy finite
  unfold TriggerSettings.write Settings.write Form.record
  exact congrArg (fun extras => Value.dict (_ ++ extras)) same

namespace Step

variable {s : Step}

theorem untyped_detached : s.detached.untyped = s.untyped := by
  obtain ⟨id, title, position, connections, body⟩ := s
  cases body with
  | message m => simp only [detached, mapButtons, untyped, Body.untyped, List.map_map]; rfl
  | _ => rfl

/-- The step as it is read back when it was written compactly. -/
def tidied (s : Step) : Step := s.mapUntyped Form.compact.tidy Value.finiteFields

/-- **A step with finite numbers** is written twice as it is written once. -/
theorem tidied_tidied (finite : s.FiniteUntyped) : s.tidied.tidied = s.tidied := by
  have same : (s.body.mapUntyped Form.compact.tidy Value.finiteFields).mapUntyped Form.compact.tidy
      Value.finiteFields = s.body.mapUntyped Form.compact.tidy Value.finiteFields := by
    rw [Body.mapUntyped_mapUntyped]
    exact Body.mapUntyped_congr fun fs mem =>
      ⟨Form.compact.tidy_of_tidy (finite fs mem), Value.finiteFields_finiteFields fs⟩
  rw [tidied, tidied, mapUntyped, mapUntyped, same]

theorem trigger?_tidied : s.tidied.trigger? = s.trigger?.map TriggerSettings.tidied := by
  obtain ⟨id, title, position, connections, body⟩ := s
  cases body <;> rfl

end Step

namespace Graph

variable {g : Graph} {r : Record} {now later : Moment}

/-- The settings of the first trigger step. -/
theorem trigger?_map_snd : g.trigger?.map (·.2) = g.steps.findSome? Step.trigger? := by
  rw [trigger?, List.map_findSome?]
  refine congrArg (fun f => g.steps.findSome? f) (funext fun s => ?_)
  rw [Function.comp_apply, Option.map_map]
  exact congrFun Option.map_id _

/-- The kind of trigger that is written. -/
theorem triggerType_recorded : (g.recorded r now).triggerType =
    (g.steps.findSome? Step.trigger?).elim r.triggerType fun t => t.rule.typeName := by
  rw [← trigger?_map_snd, recorded]
  cases g.trigger? <;> rfl

/-- The settings of a trigger that are written. -/
theorem triggerConfig_recorded : (g.recorded r now).triggerConfig =
    (g.steps.findSome? Step.trigger?).elim r.triggerConfig fun t => fieldsOf (t.write .compact) := by
  rw [← trigger?_map_snd, recorded]
  cases g.trigger? <;> rfl

/-- The steps that are written. -/
theorem workflow_recorded : (g.recorded r now).workflow = g.steps.map fun s => (g.connected s).tidied := rfl

/-- The graph as it is read back when it was written and its numbers are finite. -/
def tidied (g : Graph) : Graph := g.mapUntyped Form.compact.tidy Value.finiteFields

theorem steps_tidied : g.tidied.steps = g.steps.map Step.tidied := steps_mapUntyped

/-- The triggers of what is written. -/
theorem findSome?_tidied (steps : List Step) : (steps.map Step.tidied).findSome? Step.trigger? =
    (steps.findSome? Step.trigger?).map TriggerSettings.tidied := by
  rw [List.findSome?_map, List.map_findSome?]
  exact congrArg (fun f => steps.findSome? f) (funext fun s => s.trigger?_tidied)

/-- Whether all numbers without a schema are finite in the steps of a graph. -/
def FiniteUntyped (g : Graph) : Prop := ∀ s ∈ g.steps, s.FiniteUntyped

/-- The settings of the first trigger step are among the dictionaries of the steps. -/
theorem FiniteUntyped.trigger (finite : g.FiniteUntyped) {t : TriggerSettings}
    (first : g.steps.findSome? Step.trigger? = some t) : Value.fieldsFinite t.extras = true := by
  obtain ⟨s, mem, is_trigger⟩ := List.exists_of_findSome?_eq_some first
  refine finite s mem t.extras ?_
  obtain ⟨id, title, position, connections, body⟩ := s
  cases body <;> cases is_trigger
  exact List.mem_cons_self

/-- **What is written of a graph that was written** is what was written of it before. -/
theorem recorded_recorded (finite : g.FiniteUntyped) :
    g.tidied.recorded (g.recorded r now) later = { g.recorded r now with updatedAt := later } := by
  have workflow : (g.tidied.recorded (g.recorded r now) later).workflow = (g.recorded r now).workflow := by
    rw [workflow_recorded, workflow_recorded, steps_tidied, List.map_map]
    refine List.map_congr_left fun s mem => ?_
    exact Step.tidied_tidied (s := g.connected s) (finite s mem)
  have triggers : g.tidied.steps.findSome? Step.trigger? =
      (g.steps.findSome? Step.trigger?).map TriggerSettings.tidied := by
    rw [steps_tidied, findSome?_tidied]
  have triggerType : (g.tidied.recorded (g.recorded r now) later).triggerType =
      (g.recorded r now).triggerType := by
    rw [triggerType_recorded, triggers, triggerType_recorded]
    cases g.steps.findSome? Step.trigger? <;> rfl
  have triggerConfig : (g.tidied.recorded (g.recorded r now) later).triggerConfig =
      (g.recorded r now).triggerConfig := by
    rw [triggerConfig_recorded, triggers, triggerConfig_recorded]
    cases first : g.steps.findSome? Step.trigger? with
    | none => rfl
    | some t => exact congrArg fieldsOf (TriggerSettings.write_tidied (finite.trigger first))
  have parts : g.tidied.recorded (g.recorded r now) later = { g.recorded r now with
      triggerType := (g.tidied.recorded (g.recorded r now) later).triggerType
      triggerConfig := (g.tidied.recorded (g.recorded r now) later).triggerConfig
      workflow := (g.tidied.recorded (g.recorded r now) later).workflow
      updatedAt := later } := rfl
  rw [parts, triggerType, triggerConfig, workflow]

end Graph

/-! ### The normal form -/

namespace Record

/-- **A record whose accounts agree**: where steps and buttons lead is what the edges say, these join steps that
are there, and the trigger is that of the first trigger step. -/
structure Coherent (n : Record) : Prop where
  /-- A step is connected to the targets of its plain edges, in their order. -/
  connections : ∀ s ∈ n.workflow, s.connections =
    (n.connections.filter fun e => e.source == s.id && e.button == none).map (·.target)
  /-- A button shows the target of the edge that starts at it, and nothing if there is none. -/
  buttons : ∀ s ∈ n.workflow, ∀ i b, s.buttons[i]? = some b → b.connectedTo =
    (n.connections.find? fun e => e.source == s.id && e.button == some i).map (·.target)
  /-- No two edges start at the same button. -/
  single : ∀ id i, (n.connections.filter fun e => e.source == id && e.button == some i).length ≤ 1
  /-- Every edge joins two different steps. -/
  joined : ∀ e ∈ n.connections, e.source ∈ n.workflow.map (·.id) ∧ e.target ∈ n.workflow.map (·.id) ∧
    e.source ≠ e.target
  /-- Where some step is a trigger, the record has the kind and the settings of the first one. -/
  trigger : ∀ t, n.workflow.findSome? Step.trigger? = some t →
    n.triggerType = t.rule.typeName ∧ t.write .compact = .dict n.triggerConfig

/-- Whether a record is what comes of another one when its graph is written back, at `now`. -/
def Normalizes (r : Record) (now : Moment) (n : Record) : Prop :=
  ∃ g, Graph.ofRecord r = .ok g ∧ g.toRecord r now = ok n

end Record

namespace Graph

variable {g : Graph} {r : Record} {now later : Moment}

theorem Whole.ids_recorded (h : g.Whole) : (g.recorded r now).workflow.map (·.id) = g.ids := by
  rw [h.ids_eq, workflow_recorded, List.map_map]
  rfl

/-- **What a whole graph writes is coherent.** -/
theorem Whole.coherent_recorded (h : g.Whole) (finite : g.FiniteUntyped) :
    (g.recorded r now).Coherent := by
  refine ⟨fun s mem => ?_, fun s mem i b at_i => ?_, h.single, fun e mem => ?_, fun t first => ?_⟩
  · obtain ⟨old, there, rfl⟩ := List.mem_map.mp mem
    rfl
  · obtain ⟨old, there, rfl⟩ := List.mem_map.mp mem
    rw [Step.buttons_mapUntyped, List.getElem?_map, Option.map_eq_some_iff] at at_i
    obtain ⟨b', at_i, rfl⟩ := at_i
    have shown := h.mirrored old there i b' at_i
    rw [next?, successors, List.head?_filter] at shown
    exact shown
  · rw [h.ids_recorded]
    exact h.joined e mem
  · have triggers : (g.recorded r now).workflow.findSome? Step.trigger? =
        (g.steps.findSome? Step.trigger?).map TriggerSettings.tidied := by
      rw [workflow_recorded, ← Function.comp_def Step.tidied, ← List.map_map, findSome?_tidied,
        List.findSome?_map]
      rfl
    rw [triggers, Option.map_eq_some_iff] at first
    obtain ⟨t, first, rfl⟩ := first
    rw [triggerType_recorded, triggerConfig_recorded, first,
      TriggerSettings.write_tidied (finite.trigger first)]
    exact ⟨rfl, rfl⟩

/-- The dictionaries without a schema of a graph are those of the record that it is made of. -/
theorem Merged.finiteUntyped (h : g.Merged r) (finite : ∀ s ∈ r.workflow, s.FiniteUntyped) :
    g.FiniteUntyped := by
  intro s mem
  obtain ⟨t, there, same⟩ : ∃ t ∈ r.workflow, t.detached = s.detached :=
    List.mem_map.mp (h.steps ▸ List.mem_map_of_mem mem)
  have untyped : s.untyped = t.untyped := by
    rw [← Step.untyped_detached, ← same, Step.untyped_detached]
  rw [Step.FiniteUntyped, untyped]
  exact finite t there

end Graph

/-- **Every record whose steps have ids of their own has a normal form**, as far as its numbers without a
schema are finite: it is coherent, and its own normal form but for the time of change. -/
theorem Record.exists_normalForm {r : Record} {now later : Moment} (fit : r.Fit)
    (distinct : (r.workflow.map (·.id)).Nodup) (finite : ∀ s ∈ r.workflow, s.FiniteUntyped)
    (valid : now.Valid) (valid' : later.Valid) :
    ∃ n, r.Normalizes now n ∧ n.Coherent ∧ n.Normalizes later { n with updatedAt := later } := by
  obtain ⟨bare, g, made, merging⟩ := Graph.ofRecord_of_distinct distinct
  have whole : g.Whole := merging.part.whole
  have finite_g : g.FiniteUntyped := merging.merged.finiteUntyped finite
  have built : g.Built := Graph.built_of_ofRecord fit made
  have made_again : Graph.ofRecord (g.recorded r now) = .ok g.tidied :=
    whole.ofRecord_recorded merging.part.mutable
  have fit_again : (g.recorded r now).Fit := built.fit_recorded fit.created
  have built_again : g.tidied.Built := Graph.built_of_ofRecord fit_again made_again
  refine ⟨g.recorded r now, ⟨g, made, g.toRecord_eq_ok built.sound fit.created valid⟩,
    whole.coherent_recorded finite_g, g.tidied, made_again, ?_⟩
  rw [g.tidied.toRecord_eq_ok built_again.sound fit_again.created valid', Graph.recorded_recorded finite_g]

/-- A record that tells its edges in all three ways, and some that no graph can have: a button leads to one
step in the list and to another in its own account, a step is connected to itself and to what is not there. -/
def scattered : Record where
  id := "scattered"
  workflow :=
    [{ id := "in", connections := ["ask", "gone"]
       body := .trigger { extras := [("note", .null), ("weight", .float 1.5)], rule := .keyword ["hi"] } },
      { id := "ask", connections := ["ask"]
        body := .message { text := "Well?", buttons := [{ text := "Yes", connectedTo := some "no" }] } },
      { id := "yes", body := .branch {} }, { id := "no", body := .branch {} }]
  connections := [{ source := "ask", target := "yes", button := some 0 }]
  createdAt := ⟨0, none⟩
  updatedAt := ⟨0, none⟩

theorem Record.exists_normalForm_scattered :
    scattered.Fit ∧ (scattered.workflow.map (·.id)).Nodup ∧ (∀ s ∈ scattered.workflow, s.FiniteUntyped) ∧
    ∃ n, scattered.Normalizes ⟨5, none⟩ n ∧ n.Coherent ∧
      n.Normalizes ⟨7, none⟩ { n with updatedAt := ⟨7, none⟩ } := by
  have read : ∀ s ∈ scattered.workflow, s.IsRead := by
    intro s mem
    simp only [scattered, List.mem_cons, List.not_mem_nil, or_false] at mem
    rcases mem with rfl | rfl | rfl | rfl
    · exact ⟨.dict [("id", .str "in"), ("type", .str "trigger"),
        ("connections", .ofTexts ["ask", "gone"]), ("config", .dict [("keywords", .ofTexts ["hi"]),
          ("note", .null), ("weight", .float 1.5)])], rfl⟩
    · exact ⟨.dict [("id", .str "ask"), ("type", .str "message"), ("connections", .ofTexts ["ask"]),
        ("config", .dict [("text", .str "Well?"),
          ("buttons", .list [.dict [("text", .str "Yes"), ("connected_to", .str "no")]])])], rfl⟩
    · exact ⟨.dict [("id", .str "yes"), ("type", .str "branch")], rfl⟩
    · exact ⟨.dict [("id", .str "no"), ("type", .str "branch")], rfl⟩
  have created : Moment.Valid ⟨0, none⟩ := Moment.valid_of_clock (by decide)
  have first : Moment.Valid ⟨5, none⟩ := Moment.valid_of_clock (by decide)
  have second : Moment.Valid ⟨7, none⟩ := Moment.valid_of_clock (by decide)
  have fit : scattered.Fit := ⟨read, created⟩
  have distinct : (scattered.workflow.map (·.id)).Nodup := by decide
  have finite : ∀ s ∈ scattered.workflow, s.FiniteUntyped := by
    show ∀ s ∈ scattered.workflow, ∀ fs ∈ s.untyped, Value.fieldsFinite fs = true
    decide +kernel
  exact ⟨fit, distinct, finite, exists_normalForm fit distinct finite first second⟩

end Parley
