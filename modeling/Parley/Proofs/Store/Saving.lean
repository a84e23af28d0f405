import Parley.Proofs.Graph.RoundTrip
import Parley.Proofs.Store.Documents

/-!
# What each operation of a store does

Saving a record makes a graph of it and writes the graph back, and this never fails on account of the record
that comes out (`Parley.Graph.toRecord_eq_ok`). So a record is saved if it has a graph, its id may stand in a
file name, and what is stored under the id already is read back; `Parley.Store.save_eq_ok` says so, and what
is stored then. The record that is stored is in the normal form in which it is read back.
-/

namespace Parley

open Reading

/-- A reading of the clock of the store: a moment of the calendar, on a clock of unknown offset. -/
def Moment.OnClock (m : Moment) : Prop := m.Valid ∧ m.ahead = none

/-- What saving asks of a record: that its steps are read, and that it was made at a time of the calendar. -/
structure Record.Fit (r : Record) : Prop where
  read : ∀ s ∈ r.workflow, s.IsRead
  created : r.createdAt.Valid

/-- A record that is read is fit to be saved. -/
theorem Record.fit_of_readerWith {id : String} {made : Moment} {v : Value} {r : Record} (valid : made.Valid)
    (h : Record.readerWith id made v = ok r) : r.Fit :=
  ⟨fun _ mem => isRead_of_readerWith h mem, (valid_of_readerWith valid h).1⟩

/-- A stored record is fit to be saved again. -/
theorem Record.Normal.fit {r : Record} (h : r.Normal) : r.Fit := ⟨h.read, h.created⟩

/-! ### Graphs -/

namespace Graph

variable {g : Graph} {r : Record} {now : Moment}

/-- Whether a graph was built by changes that read their steps; it may be a snapshot of such a graph. -/
def Built (g : Graph) : Prop :=
  ∃ changes : List Edit, (∀ change ∈ changes, change.FromDocument) ∧
    ∃ frozen, g = { Graph.edits {} changes with frozen }

theorem Built.sound (h : g.Built) : ∀ s ∈ g.steps, s.Sound := by
  obtain ⟨changes, documents, frozen, rfl⟩ := h
  exact sound_of_edits documents

/-- The graph of a record is built from its steps. -/
theorem built_of_ofRecord (fit : r.Fit) (h : Graph.ofRecord r = .ok g) : g.Built := by
  refine ⟨changesOf r, fun change mem => ?_, g.frozen, by rw [← ofRecord_eq_edits h]⟩
  rcases List.mem_append.mp mem with steps | edges
  · obtain ⟨s, there, rfl⟩ := List.mem_map.mp steps
    obtain ⟨v, read⟩ := fit.read s there
    exact ⟨v, read.symm⟩
  · obtain ⟨e, -, rfl⟩ := List.mem_map.mp edges
    trivial

/-- What is written of a graph is fit to be saved. -/
theorem Built.fit_recorded (h : g.Built) (created : r.createdAt.Valid) : (g.recorded r now).Fit := by
  refine ⟨fun s mem => ?_, created⟩
  obtain ⟨t, there, rfl⟩ := List.mem_map.mp mem
  exact ⟨_, Step.reader_write .compact (s := g.connected t) (h.sound t there)⟩

/-- **What is written of a graph is in normal form.** -/
theorem Built.normal_recorded (h : g.Built) (created : r.createdAt.Valid) (clock : now.OnClock) :
    (g.recorded r now).Normal := by
  refine ⟨(h.fit_recorded created).read, fun s mem => ?_, created, clock.1, clock.2⟩
  obtain ⟨t, there, rfl⟩ := List.mem_map.mp mem
  exact Step.tidy_tidy .compact _

end Graph

/-! ### Operations -/

namespace Store

variable {s s' : Store} {r stored : Record} {g : Graph} {id word : String} {now : Moment}
  {found : Option Record}

theorem fileName_eq_ok {name : String} :
    fileName id = .ok name ↔ isValidId id = true ∧ id ++ ending = name := by
  unfold fileName
  cases isValidId id <;> simp

theorem graphOf_eq_ok : graphOf r = .ok g ↔ Graph.ofRecord r = .ok g := by
  unfold graphOf
  cases Graph.ofRecord r <;> simp [Except.mapError]

theorem withGraph_eq_ok (sound : ∀ s ∈ g.steps, s.Sound) (created : r.createdAt.Valid) (valid : now.Valid) :
    withGraph r g now = .ok (g.recorded r now) := by
  rw [withGraph, g.toRecord_eq_ok sound created valid]
  rfl

/-- **What looking up a record does.** -/
theorem load_eq (valid : isValidId id = true) :
    s.load id = (s.files.get? (id ++ ending)).elim (.ok none) fun contents => some <$> recordIn contents := by
  rw [load, fileName_eq_ok.mpr ⟨valid, rfl⟩, Except.ok_bind]
  cases s.files.get? (id ++ ending) <;> rfl

/-- The record that is stored in the place of one that was found there, or of none: it keeps the time of its
making. -/
def successor (found : Option Record) (r : Record) : Record :=
  match found with
  | some old => { r with createdAt := old.createdAt }
  | none => r

/-- **What saving a record does.** -/
theorem save_eq_ok (fit : r.Fit) (clock : now.OnClock) :
    s.save r now = .ok (s', stored) ↔
      isValidId r.id = true ∧ ∃ g found, Graph.ofRecord r = .ok g ∧ s.load r.id = .ok found ∧
        stored = successor found (g.recorded r now) ∧ s' = s.put (r.id ++ ending) stored := by
  have written {g : Graph} (made : Graph.ofRecord r = .ok g) :
      withGraph r g now = .ok (g.recorded r now) :=
    withGraph_eq_ok (Graph.built_of_ofRecord fit made).sound fit.created clock.1
  unfold save
  simp only [Except.bind_eq_ok_iff, graphOf_eq_ok, fileName_eq_ok]
  refine ⟨?_, ?_⟩
  · rintro ⟨g, made, _, read, _, ⟨valid, rfl⟩, found, loaded, same⟩
    cases (written made).symm.trans read
    cases found <;> cases same <;> exact ⟨valid, g, _, made, loaded, rfl, rfl⟩
  · rintro ⟨valid, g, found, made, loaded, rfl, rfl⟩
    refine ⟨g, made, _, written made, _, ⟨valid, rfl⟩, found, loaded, ?_⟩
    cases found <;> rfl

/-- Saving a graph is saving the record that holds it. -/
theorem saveGraph_eq (sound : ∀ s ∈ g.steps, s.Sound) (created : r.createdAt.Valid) (valid : now.Valid) :
    s.saveGraph r g now = s.save (g.recorded r now) now := by
  rw [saveGraph, withGraph_eq_ok sound created valid]
  rfl

/-- **What giving a record another status does**: it is saved, if there is one and the word is a status. -/
theorem setStatus_eq_ok :
    s.setStatus id word now = .ok (s', found) ↔
      (s.load id = .ok none ∧ s' = s ∧ found = none) ∨
      ∃ r status stored, s.load id = .ok (some r) ∧ Status.ofWord? word = some status ∧
        s.save { r with status, updatedAt := now } now = .ok (s', stored) ∧ found = some stored := by
  unfold setStatus
  rw [Except.bind_eq_ok_iff]
  refine ⟨?_, ?_⟩
  · rintro ⟨_ | r, loaded, h⟩
    · cases h
      exact .inl ⟨loaded, rfl, rfl⟩
    · -- a word that is no status is refused in the end, whatever comes of the graph
      cases named : Status.ofWord? word with
      | some status =>
        simp only [named] at h
        obtain ⟨⟨_, stored⟩, saved, same⟩ := Except.bind_eq_ok_iff.mp h
        cases same
        exact .inr ⟨r, status, stored, loaded, rfl, saved, rfl⟩
      | none =>
        simp only [named] at h
        obtain ⟨_, -, refused⟩ := Except.bind_eq_ok_iff.mp h
        cases refused
  · rintro (⟨loaded, rfl, rfl⟩ | ⟨r, status, stored, loaded, named, saved, rfl⟩)
    · exact ⟨none, loaded, rfl⟩
    · refine ⟨some r, loaded, ?_⟩
      simp only [named]
      exact Except.bind_eq_ok_iff.mpr ⟨_, saved, rfl⟩

/-- **What removing a record does.** -/
theorem delete_eq_ok {there : Bool} :
    s.delete id = .ok (s', there) ↔
      isValidId id = true ∧ s' = { s with files := s.files.erase (id ++ ending) } ∧
        there = s.files.has (id ++ ending) := by
  unfold delete
  simp only [Except.bind_eq_ok_iff, fileName_eq_ok]
  by_cases present : s.files.has (id ++ ending) = true
  · refine ⟨?_, ?_⟩
    · rintro ⟨_, ⟨valid, rfl⟩, same⟩
      rw [if_pos present] at same
      cases same
      exact ⟨valid, rfl, present.symm⟩
    · rintro ⟨valid, rfl, rfl⟩
      refine ⟨_, ⟨valid, rfl⟩, ?_⟩
      rw [if_pos present, present]
      rfl
  · have same_files := Dict.erase_of_not_mem (mt Dict.has_iff_mem_keys.mpr present)
    have absent := Bool.eq_false_iff.mpr present
    refine ⟨?_, ?_⟩
    · rintro ⟨_, ⟨valid, rfl⟩, same⟩
      rw [if_neg present] at same
      cases same
      refine ⟨valid, ?_, absent.symm⟩
      rw [same_files]
    · rintro ⟨valid, rfl, rfl⟩
      refine ⟨_, ⟨valid, rfl⟩, ?_⟩
      rw [if_neg present, same_files, absent]
      rfl

end Store

end Parley
