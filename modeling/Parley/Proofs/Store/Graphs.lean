import Parley.Proofs.Graph.Build
import Parley.Proofs.Reading.Taggable
import Parley.Proofs.Store.Live

/-!
# Graphs in a store

A graph is stored by writing it into a record, and this record is brought into its normal form when it is saved:
so the graph is written twice, and the record that is stored is known (`Parley.Graph.stored`). A graph can
always be made of it, which is the one that was stored but for what writing does to the fields without a
meaning (`Parley.Graph.Whole.ofRecord_stored`), and it is legible exactly if the graph is.

A graph is stored without fail under an id that may stand in a file name, as long as what is found there can be
read (`Parley.Store.saveGraph_eq_ok`).
-/

namespace Parley

open Reading

/-! ### The numbers of steps -/

namespace Step

variable {s : Step}

theorem numbers_detached : s.detached.numbers = s.numbers := by
  obtain ⟨id, title, position, connections, body⟩ := s
  cases body <;> rfl

theorem numbers_tidied : s.tidied.numbers = s.numbers := by
  obtain ⟨id, title, position, connections, body⟩ := s
  cases body <;> rfl

theorem legible_tidied : s.tidied.Legible ↔ s.Legible := by rw [Legible, numbers_tidied, Legible]

/-- Steps that are the same apart from where they lead are legible or not together. -/
theorem legible_of_detached {t : Step} (same : s.detached = t.detached) : s.Legible ↔ t.Legible := by
  rw [Legible, Legible, ← numbers_detached, same, numbers_detached]

/-- The same of the numbers without a schema. -/
theorem finiteUntyped_of_detached {t : Step} (same : s.detached = t.detached) :
    s.FiniteUntyped ↔ t.FiniteUntyped := by
  rw [FiniteUntyped, FiniteUntyped, ← untyped_detached, same, untyped_detached]

/-- Null fields that are left out once are left out. -/
theorem withoutNulls_withoutNulls : s.withoutNulls.withoutNulls = s.withoutNulls := by
  have same : Form.compact.keep ∘ Form.compact.keep = Form.compact.keep :=
    funext fun fs => Form.compact.keep_keep fs
  rw [withoutNulls, withoutNulls, mapUntyped, mapUntyped, Body.mapUntyped_mapUntyped, same]
  rfl

end Step

/-! ### Settings of triggers -/

/-- A record of finite fields is written without infinite numbers in either form. -/
theorem Form.isFinite_record_of {known extras : Fields} (form : Form)
    (finite : Value.fieldsFinite known = true) : (form.record known extras).isFinite = true := by
  show Value.fieldsFinite (form.keep known ++ Value.finiteFields (form.keep extras)) = true
  rw [Value.fieldsFinite_append, form.fieldsFinite_keep finite, Value.fieldsFinite_finiteFields]
  rfl

/-- **The settings of a trigger are written without infinite numbers.** -/
theorem TriggerSettings.isFinite_write_of (form : Form) (t : TriggerSettings) :
    (t.write form).isFinite = true := by
  obtain ⟨common, rule⟩ := t
  cases rule <;> exact form.isFinite_record_of (by simp [Value.fieldsFinite, Value.isFinite])

/-! ### What is stored -/

namespace Graph

variable {g : Graph} {r : Record} {now : Moment} {found : Option Record}

/-- Whether the floating numbers of all steps are finite. -/
def Legible (g : Graph) : Prop := ∀ s ∈ g.steps, s.Legible

/-- **The record that is stored** when a graph is stored in a record, in the place of one that was found there
or of none. -/
def stored (g : Graph) (r : Record) (now : Moment) (found : Option Record) : Record :=
  Store.successor found (g.tidied.recorded (g.recorded r now) now)

@[simp] theorem id_stored : (g.stored r now found).id = r.id := by cases found <;> rfl

theorem workflow_stored :
    (g.stored r now found).workflow = g.tidied.steps.map fun s => (g.tidied.connected s).tidied := by
  cases found <;> rfl

/-- **The graph of what is stored** is the graph, written twice. -/
theorem Whole.ofRecord_stored (h : g.Whole) (mutable : g.frozen = false) :
    Graph.ofRecord (g.stored r now found) = .ok g.tidied.tidied := by
  have whole : g.tidied.Whole := h.mapUntyped
  have made : Graph.ofRecord (g.tidied.recorded (g.recorded r now) now) = .ok g.tidied.tidied :=
    whole.ofRecord_recorded mutable
  -- the time of its making does not matter to the graph of a record
  cases found <;> exact made

theorem legible_tidied : g.tidied.Legible ↔ g.Legible := by
  rw [Legible, Legible, steps_tidied, List.forall_mem_map]
  exact forall₂_congr fun s _ => Step.legible_tidied

theorem legible_stored : (g.stored r now found).Legible ↔ g.Legible := by
  rw [← legible_tidied, Record.Legible, workflow_stored, List.forall_mem_map]
  exact forall₂_congr fun s _ => Step.legible_tidied (s := g.tidied.connected s)

theorem finite_triggerConfig_recorded (finite : Value.fieldsFinite r.triggerConfig = true) :
    Value.fieldsFinite (g.recorded r now).triggerConfig = true := by
  rw [triggerConfig_recorded]
  cases g.steps.findSome? Step.trigger? with
  | none => exact finite
  | some t => exact t.isFinite_write_of .compact

/-- The settings of the trigger are stored without infinite numbers. -/
theorem finite_triggerConfig_stored (finite : Value.fieldsFinite r.triggerConfig = true) :
    Value.fieldsFinite (g.stored r now found).triggerConfig = true := by
  have once : Value.fieldsFinite (g.recorded r now).triggerConfig = true :=
    finite_triggerConfig_recorded finite
  have twice : Value.fieldsFinite (g.tidied.recorded (g.recorded r now) now).triggerConfig = true :=
    finite_triggerConfig_recorded once
  cases found <;> exact twice

/-- **A finite graph** is found again after it was stored, but for fields without a meaning that are null. -/
theorem steps_tidied_tidied (finite : g.FiniteUntyped) :
    g.tidied.tidied.steps = g.steps.map Step.withoutNulls := by
  rw [steps_tidied, steps_tidied, List.map_map]
  refine List.map_congr_left fun s mem => ?_
  rw [Function.comp_apply, Step.tidied_tidied (finite s mem)]
  exact Step.tidied_eq_withoutNulls (finite s mem)

theorem ids_tidied_tidied : g.tidied.tidied.ids = g.ids := ids_mapUntyped.trans ids_mapUntyped

end Graph

/-! ### Storing and finding graphs -/

namespace Store

variable {s s' : Store} {live : Dict Record} {id : String} {r stored : Record} {g : Graph} {now : Moment}

/-- What is stored of a record tells the kinds of its steps, even if it is not read back. -/
theorem recordIn_ne_untaggable {issues : List Issue}
    (h : recordIn (.document r.write.finite) = .error (.unreadable issues)) :
    Issue.untaggable? issues = false := by
  have steps (s : Step) : (Step.reader (s.write .full).finite).Tame := by
    refine Step.reader_tame_iff.mpr ?_
    rw [Step.hasKind, Value.get?_finiteFields]
    rfl
  have tame : (Record.readerWith "" default r.write.finite).Tame := by
    rw [Record.finite_write]
    refine Record.tame_readerWith (tame_field_iff.mpr (Reader.tame_itemsFrom 0 fun v mem => ?_))
    obtain ⟨s, -, rfl⟩ := List.mem_map.mp mem
    exact steps s
  rw [recordIn] at h
  cases read : Record.readerWith "" default r.write.finite with
  | ok back =>
    rw [read] at h
    cases h
  | error found =>
    rw [read] at h
    cases h
    exact tame issues read

/-- **What storing a graph does.** -/
theorem saveGraph_eq_ok (built : g.Built) (whole : g.Whole) (mutable : g.frozen = false)
    (created : r.createdAt.Valid) (clock : now.OnClock) :
    s.saveGraph r g now = .ok (s', stored) ↔
      isValidId r.id = true ∧ ∃ found, s.load r.id = .ok found ∧ stored = g.stored r now found ∧
        s' = s.put (r.id ++ ending) stored := by
  rw [saveGraph_eq built.sound created clock.1, save_eq_ok (built.fit_recorded created) clock]
  refine and_congr_right fun _ => ⟨?_, ?_⟩
  · rintro ⟨again, found, made, loaded, rfl, rfl⟩
    obtain rfl : again = g.tidied := Except.ok.inj (made.symm.trans (whole.ofRecord_recorded mutable))
    exact ⟨found, loaded, rfl, rfl⟩
  · rintro ⟨found, loaded, rfl, rfl⟩
    exact ⟨g.tidied, found, whole.ofRecord_recorded mutable, loaded, rfl, rfl⟩

namespace Holds

/-- **A graph that is stored** is held in its record. -/
theorem saveGraph (h : s.Holds live) (built : g.Built) (created : r.createdAt.Valid) (clock : now.OnClock)
    (saved : s.saveGraph r g now = .ok (s', stored)) : s'.Holds (live.put r.id stored) := by
  rw [saveGraph_eq built.sound created clock.1] at saved
  have held := h.save (built.fit_recorded created) clock saved
  exact held

/-- Nothing is found under an id that is not live. -/
theorem loadGraph_absent (h : s.Holds live) (absent : live.get? id = none) :
    s.loadGraph id = if isValidId id then .ok none else .error (.invalidId id) := by
  cases valid : isValidId id with
  | true =>
    rw [loadGraph, h.load_none valid absent]
    rfl
  | false =>
    rw [loadGraph, load, fileName, valid]
    rfl

/-- A record that is not legible is not found. -/
theorem loadGraph_illegible (h : s.Holds live) (there : live.get? id = some r) (illegible : ¬r.Legible) :
    ∃ issues, s.loadGraph id = .error (.unreadable issues) ∧ Issue.untaggable? issues = false := by
  obtain ⟨issues, fails⟩ := recordIn_illegible illegible
  refine ⟨issues, ?_, recordIn_ne_untaggable fails⟩
  rw [loadGraph, h.load_some there, fails]
  rfl

/-- A legible record with a graph is found with it. -/
theorem loadGraph_legible (h : s.Holds live) (there : live.get? id = some r) (legible : r.Legible)
    (finite : Value.fieldsFinite r.triggerConfig = true) (made : Graph.ofRecord r = .ok g) :
    s.loadGraph id = .ok (some (r, g)) := by
  rw [loadGraph, h.load_legible there legible, Record.kept_eq_self_iff.mpr finite]
  show (do pure (some (r, ← graphOf r))) = _
  rw [graphOf_eq_ok.mpr made]
  rfl

end Holds

end Store

end Parley
