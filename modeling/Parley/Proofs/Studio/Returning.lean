import Parley.Proofs.Store.Status
import Parley.Proofs.Studio.Writes

/-!
# Returning automations

The builder asks for an automation, and when it saves it sends back what it was told: the name, the description, the
status, the steps and the edges. If nothing was changed meanwhile, then nothing changes but the time of change
(`Parley.Studio.returned_unchanged`).

What is sent back takes a stricter way than what is loaded. A record is loaded by merging all that it tells of its
edges, in three places, and what does not fit is dropped; a draft is built from its steps and its list of edges alone,
and is refused if anything does not fit. For a stored record it makes no difference, since it is *settled*
(`Parley.Record.Settled`): what is written of its graph is the record itself, so its list of edges is that of a whole
graph, which can be built again. And its steps are read back as they are, since they were written before.
-/

namespace Parley

open Reading

variable {σ : Type}

/-! ### Steps that were written -/

/-- The dictionaries without a schema are finite once they were all made so. -/
theorem Body.finite_of_mem_untyped {f g : Fields → Fields} (extras : ∀ fs, Value.fieldsFinite (f fs) = true)
    (content : ∀ fs, Value.fieldsFinite (g fs) = true) (b : Body) :
    ∀ fs ∈ (b.mapUntyped f g).untyped, Value.fieldsFinite fs = true := by
  cases b with
  | message s =>
    simp only [Body.mapUntyped, Body.untyped, MessageSettings.mapExtras, List.map_map, List.mem_cons, List.mem_append,
      List.mem_map]
    rintro _ (rfl | ⟨b, -, rfl⟩ | ⟨a, -, rfl⟩) <;> exact extras _
  | input s =>
    simp only [Body.mapUntyped, Body.untyped, InputSettings.mapExtras, List.map_map, List.mem_cons, List.mem_map]
    rintro _ (rfl | rfl | ⟨a, -, rfl⟩) <;> exact extras _
  | _ =>
    simp [Body.mapUntyped, Body.untyped, CallSettings.mapUntyped, Settings.mapExtras, extras, content]

/-- A step that was written has finite dictionaries. -/
theorem Step.finiteUntyped_mapUntyped (form : Form) (s : Step) :
    (s.mapUntyped form.tidy Value.finiteFields).FiniteUntyped :=
  s.body.finite_of_mem_untyped (fun _ => Value.fieldsFinite_finiteFields _) fun _ => Value.fieldsFinite_finiteFields _

theorem Record.Normal.finiteUntyped {r : Record} (h : r.Normal) : ∀ s ∈ r.workflow, s.FiniteUntyped :=
  fun s mem => h.tidy s mem ▸ s.finiteUntyped_mapUntyped .full

/-- The steps of a record in normal form are read back as they are. -/
theorem Record.Normal.reader_write {r : Record} (h : r.Normal) {s : Step} (mem : s ∈ r.workflow) :
    Step.reader (s.write .full) = ok s := by
  obtain ⟨v, read⟩ := h.read s mem
  rw [Step.reader_write .full (Step.sound_of_reader read), h.tidy s mem]

/-! ### Records at rest -/

namespace Graph

variable {g : Graph} {r : Record} {now : Moment} {found : Option Record}

theorem finiteUntyped_tidied : g.tidied.FiniteUntyped := by
  rw [FiniteUntyped, steps_tidied, List.forall_mem_map]
  exact fun s _ => s.finiteUntyped_mapUntyped .compact

/-- **What is stored of a graph is settled**, as long as it is legible. -/
theorem Whole.settled_stored (h : g.Whole) (mutable : g.frozen = false)
    (config : Value.fieldsFinite r.triggerConfig = true) (legible : (g.stored r now found).Legible) :
    (g.stored r now found).Settled := by
  have once : g.tidied.Legible := legible_tidied.mpr (legible_stored.mp legible)
  have twice : (g.tidied.recorded (g.recorded r now) now).Settled :=
    h.mapUntyped.settled_recorded mutable once finiteUntyped_tidied (finite_triggerConfig_recorded config)
  exact Store.settled_successor twice found

end Graph

namespace Record

variable {r : Record}

/-- What is told of a record to those who send it back. -/
def draft (r : Record) : Draft :=
  { name := r.name, description := r.description, status := r.status
    workflow := r.workflow.map (Step.fields .full), connections := r.connections }

theorem revised_draft (r : Record) : r.draft.revised r = r := rfl

/-- **The draft of a settled record** makes its graph, and what is stored of it is the record at the time of change. -/
theorem Settled.exists_graph (h : r.Settled) (normal : r.Normal) :
    ∃ g, Studio.graphOf r.draft = .ok g ∧ ∀ now, g.stored r now (some r) = { r with updatedAt := now } := by
  obtain ⟨-, g, has, steady⟩ := h
  obtain ⟨bare, merging⟩ := Graph.exists_merging has
  have edges : r.connections = g.edges := congrArg Record.connections (steady r.updatedAt).symm
  have steps : r.draft.workflow.map (fun fs => Step.reader (.dict fs)) = r.workflow.map ok := by
    rw [draft, List.map_map]
    exact List.map_congr_left fun s mem => normal.reader_write mem
  have built : Graph.build (r.draft.workflow.map fun fs => Step.reader (.dict fs)) r.draft.connections = .ok g := by
    rw [steps, draft, edges]
    exact merging.part.whole.build merging.part.mutable merging.merged.steps.symm
  refine ⟨g, by rw [Studio.graphOf, built], fun now => ?_⟩
  have finite : g.FiniteUntyped := merging.merged.finiteUntyped normal.finiteUntyped
  rw [Graph.stored, Graph.recorded_recorded finite, steady]
  rfl

end Record

/-! ### What is sent back -/

/-- The names of what the studio reads of a draft. -/
def Draft.names : List String := ["name", "description", "status", "workflow", "connections"]

/-- An edge of a draft is read back as it was written. -/
theorem Edge.readerAs_write (otherwise : IssueKind) (form : Form) (e : Edge) :
    Edge.readerAs otherwise (e.write form) = ok e :=
  e.reader_write form

/-- **A document that tells what a record tells** is read as its draft. -/
theorem Draft.reader_of_fields {r : Record} {body : Fields}
    (same : ∀ name ∈ Draft.names, body.get? name = r.fields.get? name) : Draft.reader (.dict body) = ok r.draft := by
  have told {α : Type} {read : Reader α} {default a : α} {v : Value} (name : String) (known : name ∈ Draft.names)
      (at_name : r.fields.get? name = some v) (reads : read v = ok a) : body.withDefault name default read = ok a :=
    Fields.withDefault_of_get? name ((same name known).trans at_name) reads
  have steps : Reader.listOf (Reader.dictOf Reader.any) (.list (r.workflow.map (Step.write .full))) =
      ok (r.workflow.map (Step.fields .full)) :=
    Reader.listOf_map fun s _ => Reader.dictOf_any (s.fields .full)
  have edges : Reader.listOf (Edge.readerAs .notTagged) (.list (r.connections.map (Edge.write .full))) =
      ok r.connections := by
    rw [Reader.listOf_map fun e _ => e.readerAs_write .notTagged .full, List.map_id']
  simp only [Draft.reader, Reader.record, Fields.text]
  rw [told "name" (by decide) rfl (Reader.text_str _), told "description" (by decide) rfl (Reader.text_str _),
    told "status" (by decide) rfl (Status.reader_word _), told "workflow" (by decide) rfl steps,
    told "connections" (by decide) rfl edges]
  rfl

namespace Request

variable {id : String}

/-- The request for an automation. -/
def fetching (id : String) : Request := { method := "GET", path := ["api", "automations", id] }

/-- The request to replace an automation by what a document tells. -/
def replacing (id : String) (body : Fields) : Request :=
  { method := "PUT", path := ["api", "automations", id], body := .dict body }

theorem action_fetching (some_id : id ≠ "") : (fetching id).action = .ok (.fetch id) := by
  simp [action, fetching, Endpoint.ofPath?, some_id.symm]

theorem action_replacing {body : Fields} {d : Draft} (some_id : id ≠ "") (reads : Draft.reader (.dict body) = ok d) :
    (replacing id body).action = .ok (.replace id d) := by
  have read : (replacing id body).read Draft.reader = .ok d := by
    simp only [Request.read, replacing, Value.isNull, Bool.false_eq_true, if_false, reads]
    rfl
  simp only [action, read]
  simp [replacing, Endpoint.ofPath?, some_id.symm]

end Request

namespace Studio

variable {s s' : Studio} {live live' : Dict Record} {issued : List String} {id : String} {r : Record} {k : Workshop σ}
  {o : Occasion} {w w' : σ} {h : Happening}

/-! ### Studios at rest -/

/-- Whether all legible records are settled. -/
def AtRest (live : Dict Record) : Prop := ∀ id r, live.get? id = some r → r.Legible → r.Settled

theorem AtRest.put (rest : AtRest live) (stored : r.Legible → r.Settled) : AtRest (live.put id r) := by
  intro other r' there legible
  rw [Dict.get?_put] at there
  split at there
  · cases there
    exact stored legible
  · exact rest other r' there legible

/-- **A deed leaves a studio at rest**: what it stores is settled. -/
theorem Deed.atRest (deed : Deed k o s live w h s' live' w') (sound : s.Sound live issued) (rest : AtRest live) :
    AtRest live' := by
  cases deed with
  | nothing => exact rest
  | created asked made =>
    have drafted := drafted_of_graphOf made
    exact rest.put fun legible => drafted.whole.settled_stored drafted.mutable rfl legible
  | replaced asked there legible made =>
    have drafted := drafted_of_graphOf made
    exact rest.put fun legible =>
      drafted.whole.settled_stored drafted.mutable (sound.stored_of_get? there).settings legible
  | deleted =>
    intro other r there
    rw [Dict.get?_erase] at there
    split at there
    · cases there
    · exact rest other r there
  | opened => exact rest
  | gestured => exact rest
  | conversed => exact rest

/-- After any history from the start on a studio is at rest. -/
theorem atRest_of_happenings (k : Workshop σ) {history : List (Occasion × Happening)} (w : σ)
    (proper : ∀ h ∈ history, h.1.Proper) (fresh : (history.map (·.1.freshId)).Nodup) :
    ∃ live, (happenings {} k history w).1.Sound live (history.map (·.1.freshId)).reverse ∧ AtRest live := by
  obtain ⟨live, sound, rest⟩ := happenings_induction (motive := fun _ live _ => AtRest live) (k := k) (w := w)
    Sound.empty (fun _ _ there => nomatch there) proper fresh nofun
    fun sound _ _ _ deed rest => deed.atRest sound rest
  rw [List.append_nil] at sound
  exact ⟨live, sound, rest⟩

/-! ### Asking and sending back -/

namespace Sound

/-- **What can be loaded** is a live record that is legible. -/
theorem legible_of_load (sound : s.Sound live issued) (loaded : s.store.load id = .ok (some r)) :
    live.get? id = some r ∧ r.Legible := by
  obtain ⟨-, same⟩ := sound.holds.eq_of_load loaded
  obtain ⟨old, there, rfl⟩ := Option.map_eq_some_iff.mp same.symm
  have kept : old.kept = old := Record.kept_eq_self_iff.mpr (sound.stored_of_get? there).settings
  rw [kept] at loaded ⊢
  exact ⟨there, ((sound.holds.load_eq_iff there).mp loaded).1⟩

theorem ne_empty_of_get? (sound : s.Sound live issued) (there : live.get? id = some r) : id ≠ "" := by
  rintro rfl
  exact absurd (sound.holds.own_of_get? there).2.1 (by decide)

/-- **Who asks for an automation** is told its record. -/
theorem handle_fetching (sound : s.Sound live issued) (there : live.get? id = some r) (legible : r.Legible) :
    s.handle k o (.fetching id) w = (.ok ⟨200, r.write⟩, s, w) := by
  obtain ⟨g, made⟩ := (sound.stored_of_get? there).graph
  have found : s.find id = .ok (r, g) := sound.find_eq_ok.mpr ⟨there, legible, made⟩
  have acts : s.act k o (.fetch id) w = (.ok ⟨200, r.write⟩, s, w) := by
    rw [act, found]
    rfl
  rw [handle_of_ok (Request.action_fetching (sound.ne_empty_of_get? there)) acts, Answer.written_of_legible legible]

/-- **Who sends back what was told** is told the same record at the time of change, which is stored in its place. -/
theorem handle_replacing (sound : s.Sound live issued) (rest : AtRest live) (there : live.get? id = some r)
    (legible : r.Legible) (clock : o.now.OnClock) {body : Fields}
    (same : ∀ name ∈ Draft.names, body.get? name = r.fields.get? name) :
    ∃ s', s.handle k o (.replacing id body) w = (.ok ⟨200, { r with updatedAt := o.now }.write⟩, s', w) ∧
      s'.Sound (live.put id { r with updatedAt := o.now }) issued ∧
      s'.store = s.store.put (id ++ Store.ending) { r with updatedAt := o.now } := by
  obtain ⟨own, -, normal⟩ := sound.holds.own_of_get? there
  obtain ⟨g, made, stored⟩ := (rest id r there legible).exists_graph normal
  have replaced := sound.replace_eq clock there legible made
  have after := sound.replaced clock there legible made
  rw [Record.revised_draft, stored] at replaced after
  refine ⟨(s.storing { r with updatedAt := o.now }).showing id g, ?_, after, ?_⟩
  · have acts : s.act k o (.replace id r.draft) w = (.ok ⟨200, { r with updatedAt := o.now }.write⟩,
        (s.storing { r with updatedAt := o.now }).showing id g, w) := by
      rw [act, replaced]
    rw [handle_of_ok (Request.action_replacing (sound.ne_empty_of_get? there) (Draft.reader_of_fields same)) acts,
      Answer.written_of_legible (r := { r with updatedAt := o.now }) legible]
  · rw [← own]
    rfl

end Sound

/-- **To send back an automation as it was told changes nothing but the time of change.** After any history from the
start on the store holds some records, and those with finite numbers only can be loaded. Who asks for an automation that
can be loaded is told its record, and everything is as it was. Who then replaces it by the same name, description,
status, steps and edges, as they were told, is told the same record at the time of change; this is what is loaded from
then on, every other file is as it was, and so is what is loaded under any other id. -/
theorem returned_unchanged (k : Workshop σ) (history : List (Occasion × Happening)) (w₀ : σ)
    (proper : ∀ h ∈ history, h.1.Proper) (fresh : (history.map (·.1.freshId)).Nodup) :
    let s := (happenings {} k history w₀).1
    let w := (happenings {} k history w₀).2
    (∃ live, s.store.Holds live ∧ ∀ id r, live.get? id = some r → r.AllFinite → s.store.load id = .ok (some r)) ∧
    ∀ id r, s.store.load id = .ok (some r) →
      (∀ o : Occasion, s.handle (k.atTime o.now) o (.fetching id) w = (.ok ⟨200, r.write⟩, s, w)) ∧
      ∀ (o : Occasion) (body : Fields), o.now.OnClock →
        (∀ name ∈ Draft.names, body.get? name = r.fields.get? name) →
        ∃ s', s.handle (k.atTime o.now) o (.replacing id body) w =
            (.ok ⟨200, { r with updatedAt := o.now }.write⟩, s', w) ∧
          s'.store.load id = .ok (some { r with updatedAt := o.now }) ∧
          (∀ name, name ≠ id ++ Store.ending → s'.store.files.get? name = s.store.files.get? name) ∧
          ∀ other, other ≠ id → s'.store.load other = s.store.load other := by
  intro s w
  obtain ⟨live, sound, rest⟩ := atRest_of_happenings k w₀ proper fresh
  refine ⟨⟨live, sound.holds, fun id r there finite => ?_⟩, fun id r loaded => ?_⟩
  · exact sound.load_legible there fun step mem => (finite.1 step mem).1
  · obtain ⟨there, legible⟩ := sound.legible_of_load loaded
    refine ⟨fun o => sound.handle_fetching there legible, fun o body clock same => ?_⟩
    obtain ⟨s', answered, sound', stored⟩ := sound.handle_replacing (k := k.atTime o.now) (w := w) rest there legible
      clock same
    refine ⟨s', answered, ?_, fun name ne => ?_, fun other ne => ?_⟩
    · refine sound'.load_legible (r := { r with updatedAt := o.now }) ?_ legible
      rw [Dict.get?_put, if_pos rfl]
    · rw [stored, Store.get?_files_put ne]
    · rw [stored, Store.load_put ne]

/-- What is told of an automation of two steps is sent back. -/
theorem returned_unchanged_rehearsal :
    let s := (happenings {} idle rehearsal 0).1
    let w := (happenings {} idle rehearsal 0).2
    ∃ r s', s.store.load "one" = .ok (some r) ∧ r.workflow.map (·.id) = ["hi", "bye"] ∧
      s.handle (idle.atTime ⟨3, none⟩) ⟨⟨3, none⟩, "four"⟩ (.fetching "one") w = (.ok ⟨200, r.write⟩, s, w) ∧
      s.handle (idle.atTime ⟨4, none⟩) ⟨⟨4, none⟩, "five"⟩ (.replacing "one"
          [("name", .str r.name), ("description", .str r.description), ("status", .str r.status.word),
            ("workflow", .list (r.workflow.map (Step.write .full))),
            ("connections", .list (r.connections.map (Edge.write .full)))]) w =
        (.ok ⟨200, { r with updatedAt := ⟨4, none⟩ }.write⟩, s', w) ∧
      s'.store.load "one" = .ok (some { r with updatedAt := ⟨4, none⟩ }) := by
  intro s w
  have found : ((s.store.load "one").toOption.join.map fun r => r.workflow.map (·.id)) = some ["hi", "bye"] := by
    decide +kernel
  obtain ⟨r, there, ids⟩ := Option.map_eq_some_iff.mp found
  have loaded : s.store.load "one" = .ok (some r) := by
    cases result : s.store.load "one" with
    | error e => rw [result] at there; cases there
    | ok found => rw [result] at there; exact congrArg Except.ok there
  obtain ⟨-, returned⟩ := returned_unchanged idle rehearsal 0 (by decide +kernel) (by decide +kernel)
  obtain ⟨fetched, replaced⟩ := returned "one" r loaded
  have clock : Moment.OnClock ⟨4, none⟩ := ⟨Moment.valid_of_clock (by decide), rfl⟩
  obtain ⟨s', answered, after, -⟩ := replaced ⟨⟨4, none⟩, "five"⟩ [("name", .str r.name),
    ("description", .str r.description), ("status", .str r.status.word),
    ("workflow", .list (r.workflow.map (Step.write .full))),
    ("connections", .list (r.connections.map (Edge.write .full)))] clock (fun name known => by
      simp only [Draft.names, List.mem_cons, List.not_mem_nil, or_false] at known
      rcases known with rfl | rfl | rfl | rfl | rfl <;> rfl)
  exact ⟨r, s', loaded, ids, fetched ⟨⟨3, none⟩, "four"⟩, answered, after⟩

end Studio

end Parley
