import Parley.Proofs.Store.Calls
import Parley.Proofs.Store.Graphs

/-!
# What a change of status leaves alone

To give a record another status is to save it again, and to save a record is to bring it into its normal form: a
graph is made of it and written back, the derived fields are filled in, and the time of its making is taken from
the record before. That nothing but the status and the time of change should come out different rests on all this
having no effect on a record that was saved already.

A record is *settled* if it has no effect (`Parley.Record.Settled`): its numbers are finite, so that it is found
as it is, and what is written back of its graph is the record itself. A record that was saved is settled if its
numbers are finite, and it stays so whatever its status and its times. So each live record of a store is
settled, as long as only finite records are saved (`Parley.Store.Does`), and to give it another status changes
that and nothing else (`Parley.Store.settled_and_dated`).
-/

namespace Parley

/-! ### Records at rest -/

namespace Record

/-- Whether all floating numbers of a record are finite, those with a meaning and those without. -/
def AllFinite (r : Record) : Prop :=
  (∀ s ∈ r.workflow, s.Legible ∧ s.FiniteUntyped) ∧ Value.fieldsFinite r.triggerConfig = true

/-- **A settled record**: it is found as it is, and saving it again changes nothing but the time of change. -/
structure Settled (r : Record) : Prop where
  finite : r.Finite
  steady : ∃ g, Graph.ofRecord r = .ok g ∧ ∀ now, g.recorded r now = { r with updatedAt := now }

/-- A settled record stays settled, whatever its status and its times. -/
theorem Settled.stamped {r : Record} (h : r.Settled) (status : Status) (made changed : Moment) :
    Settled { r with status, createdAt := made, updatedAt := changed } := by
  obtain ⟨finite, g, has, same⟩ := h
  refine ⟨finite, g, has, fun now => ?_⟩
  have written : g.recorded { r with status, createdAt := made, updatedAt := changed } now =
      { g.recorded r now with status, createdAt := made } := rfl
  rw [written, same]

end Record

namespace Graph

variable {g : Graph} {r : Record} {now : Moment} {found : Option Record}

theorem legible_recorded : (g.recorded r now).Legible ↔ g.Legible := by
  rw [Record.Legible, workflow_recorded, List.forall_mem_map]
  exact forall₂_congr fun s _ => Step.legible_tidied (s := g.connected s)

/-- **What is written of a finite graph is settled.** -/
theorem Whole.settled_recorded (h : g.Whole) (mutable : g.frozen = false) (legible : g.Legible)
    (finite : g.FiniteUntyped) (config : Value.fieldsFinite r.triggerConfig = true) :
    (g.recorded r now).Settled where
  finite := ⟨legible_recorded.mpr legible, finite_triggerConfig_recorded config⟩
  steady := ⟨g.tidied, h.ofRecord_recorded mutable, fun _ => recorded_recorded finite⟩

/-- The graph of a finite record is whole and finite. -/
theorem whole_of_ofRecord (finite : r.AllFinite) (h : Graph.ofRecord r = .ok g) :
    g.Whole ∧ g.frozen = false ∧ g.Legible ∧ g.FiniteUntyped := by
  obtain ⟨bare, merging⟩ := exists_merging h
  refine ⟨merging.part.whole, merging.part.mutable, fun s mem => ?_,
    merging.merged.finiteUntyped fun s mem => (finite.1 s mem).2⟩
  obtain ⟨t, there, same⟩ : ∃ t ∈ r.workflow, t.detached = s.detached :=
    List.mem_map.mp (merging.merged.steps ▸ List.mem_map_of_mem mem)
  exact (Step.legible_of_detached same).mp (finite.1 t there).1

end Graph

/-! ### Calls with finite records -/

namespace Call

/-- Whether a call brings finite numbers only. Of a record that is saved with a graph, the steps are those of the
graph. -/
def AllFinite : Call → Prop
  | save r _ => r.AllFinite
  | saveGraph r g _ => (∀ s ∈ g.steps, s.Legible ∧ s.FiniteUntyped) ∧ Value.fieldsFinite r.triggerConfig = true
  | _ => True

/-- The record that a call saves. -/
def saved? : Call → Option Record
  | save r _ => some r
  | saveGraph r _ _ => some r
  | _ => none

end Call

namespace Store

variable {s s' : Store} {records records' : Dict Record} {id word : String} {r stored : Record} {now : Moment}
  {status : Status} {c : Call} {told : Told}

/-- Whether all live records are settled. -/
def AllSettled (records : Dict Record) : Prop := ∀ id r, records.get? id = some r → r.Settled

/-! ### What is stored -/

theorem settled_successor (h : r.Settled) (found : Option Record) : (successor found r).Settled := by
  cases found with
  | none => exact h
  | some old => exact h.stamped r.status old.createdAt r.updatedAt

namespace Holds

/-- A record that is stored has the time of its making from the record before, if there is one. -/
theorem createdAt_successor (h : s.Holds records) {found : Option Record} (loaded : s.load id = .ok found)
    (same : stored.createdAt = r.createdAt) :
    (successor found stored).createdAt = ((records.get? id).getD r).createdAt := by
  obtain ⟨-, rfl⟩ := h.eq_of_load loaded
  cases records.get? id with
  | none => exact same
  | some old => rfl

/-- **A finite record that is saved is settled**, with a graph or without one. It was made when the record before was
made, or else when it says. -/
theorem settled_of_saved (h : s.Holds records) (proper : c.Proper) (finite : c.AllFinite) (saves : c.saved? = some r)
    (made : s.call c = .ok (s', told)) : ∃ stored, told = .record (some stored) ∧ stored.Settled ∧
      stored.createdAt = ((records.get? r.id).getD r).createdAt := by
  cases c with
  | save r now =>
    cases saves
    obtain ⟨⟨next, stored⟩, saved, same⟩ := Except.map_eq_ok_iff.mp made
    cases same
    obtain ⟨-, g, found, has, loaded, rfl, -⟩ := (save_eq_ok proper.1.fit proper.2).mp saved
    obtain ⟨whole, mutable, legible, untyped⟩ := Graph.whole_of_ofRecord finite has
    exact ⟨_, rfl, settled_successor (whole.settled_recorded mutable legible untyped finite.2) found,
      h.createdAt_successor loaded rfl⟩
  | saveGraph r g now =>
    cases saves
    obtain ⟨⟨next, stored⟩, saved, same⟩ := Except.map_eq_ok_iff.mp made
    cases same
    obtain ⟨accepted, built, clock⟩ := proper
    have created := accepted.fit.created
    rw [saveGraph_eq built.sound created clock.1] at saved
    obtain ⟨-, again, found, has, loaded, rfl, -⟩ := (save_eq_ok (built.fit_recorded created) clock).mp saved
    -- that the graph may be a snapshot is not written
    obtain ⟨changes, -, frozen, rfl⟩ := built
    let p := Graph.edits {} changes
    have whole : p.Whole := Graph.Whole.empty.edits changes
    have mutable : p.frozen = false := Graph.frozen_edits {} changes
    have untyped : p.FiniteUntyped := fun s mem => (finite.1 s mem).2
    obtain rfl : again = p.tidied := Except.ok.inj (has.symm.trans (whole.ofRecord_recorded mutable))
    have twice : p.tidied.recorded (p.recorded r now) now = p.recorded r now := Graph.recorded_recorded untyped
    have settled : (p.tidied.recorded (p.recorded r now) now).Settled := by
      rw [twice]
      exact whole.settled_recorded mutable (fun s mem => (finite.1 s mem).1) untyped finite.2
    exact ⟨_, rfl, settled_successor settled found, h.createdAt_successor loaded rfl⟩
  | _ => cases saves

/-- **A settled record that gets another status** is stored with it, and with the time of the change; nothing else of
it is different. -/
theorem setStatus_of_settled (h : s.Holds records) (there : records.get? id = some r) (settled : r.Settled)
    (clock : now.OnClock) (named : Status.ofWord? word = some status) :
    s.setStatus id word now =
      .ok (s.put (id ++ ending) { r with status, updatedAt := now }, some { r with status, updatedAt := now }) := by
  obtain ⟨rfl, valid, normal⟩ := h.own_of_get? there
  have fit : Record.Fit { r with status, updatedAt := now } := ⟨normal.read, normal.created⟩
  obtain ⟨-, g, has, same⟩ := settled.stamped status r.createdAt now
  have loaded := (h.load_eq_iff there).mpr settled.finite
  refine setStatus_eq_ok.mpr (.inr ⟨r, status, _, loaded, named, ?_, rfl⟩)
  refine (save_eq_ok fit clock).mpr ⟨valid, g, some r, has, loaded, ?_, rfl⟩
  rw [same]
  rfl

/-- A settled record does not get a status that is none. -/
theorem setStatus_of_no_status (h : s.Holds records) (there : records.get? id = some r) (settled : r.Settled)
    (nameless : Status.ofWord? word = none) (now : Moment) :
    ∃ issues, s.setStatus id word now = .error (.unreadable issues) := by
  obtain ⟨finite, g, has, -⟩ := settled
  refine ⟨[(Issue.here .unknownWord).under (.name "status")], ?_⟩
  rw [Store.setStatus, (h.load_eq_iff there).mpr finite, Except.ok_bind]
  simp only [nameless, graphOf_eq_ok.mpr has]
  rfl

end Holds

/-- A record that is put into its file leaves the other files alone. -/
theorem get?_files_put {name other : String} (ne : other ≠ name) :
    (s.put name r).files.get? other = s.files.get? other := by
  rw [put, Dict.get?_put, if_neg ne]

/-- A record that is put into its file makes no difference to what else is found. -/
theorem load_put {other : String} (ne : other ≠ id) : (s.put (id ++ ending) r).load other = s.load other := by
  cases valid : isValidId other with
  | true =>
    rw [load_eq valid, load_eq valid, get?_files_put (mt (String.append_left_inj ending).mp ne)]
  | false =>
    have refused (s : Store) : s.load other = .error (.invalidId other) := by
      rw [load, fileName, valid]
      rfl
    rw [refused, refused]

/-! ### What a call does -/

/-- A record that is saved is live. -/
theorem noting_of_saved (saves : c.saved? = some r) (stored : Record) :
    noting records (c, .ok (.record (some stored))) = records.put r.id stored := by
  cases c <;> cases saves <;> rfl

theorem after_of_ok (made : s.call c = .ok (s', told)) : s.after c = (s', c, .ok told) := by
  rw [after, made]

/-- **What a call does to the live records**: nothing, or it takes one out, or it puts in one that is settled and was
made when the one before it was made. -/
inductive Does (records : Dict Record) (c : Call) : Dict Record → Prop where
  | nothing : Does records c records
  | removes {id : String} (deletes : c = .delete id) : Does records c (records.erase id)
  | stores {id : String} {stored : Record} (settled : stored.Settled)
      (dated : ∀ old, records.get? id = some old → stored.createdAt = old.createdAt) :
      Does records c (records.put id stored)

/-- The live records after some calls and some more. -/
theorem live_append (s : Store) (cs more : List Call) :
    live (s.calls (cs ++ more)).2 = ((s.calls cs).1.calls more).2.foldl noting (live (s.calls cs).2) := by
  rw [calls_append, live, live, List.foldl_append]

namespace Does

/-- The live records stay settled. -/
theorem settled (h : Does records c records') (before : AllSettled records) : AllSettled records' := by
  intro id r there
  cases h with
  | nothing => exact before id r there
  | removes =>
    rw [Dict.get?_erase] at there
    split at there
    · cases there
    · exact before id r there
  | stores stored =>
    rw [Dict.get?_put] at there
    split at there
    · cases there
      exact stored
    · exact before id r there

/-- A live record stays, and stays as old as it is, unless it is deleted. -/
theorem dated (h : Does records c records') (there : records.get? id = some r) (stays : c ≠ .delete id) :
    ∃ r', records'.get? id = some r' ∧ r'.createdAt = r.createdAt := by
  cases h with
  | nothing => exact ⟨r, there, rfl⟩
  | @removes other deletes =>
    have ne : id ≠ other := fun same => stays (same ▸ deletes)
    exact ⟨r, by rw [Dict.get?_erase, if_neg ne, there], rfl⟩
  | @stores other stored _ dated =>
    by_cases same : id = other
    · subst same
      exact ⟨stored, by rw [Dict.get?_put, if_pos rfl], dated r there⟩
    · exact ⟨r, by rw [Dict.get?_put, if_neg same, there], rfl⟩

end Does

namespace Holds

/-- **One call**, whatever comes of it, does to settled records what `Parley.Store.Does` says. -/
theorem does_after (h : s.Holds records) (settled : AllSettled records) (proper : c.Proper)
    (finite : c.AllFinite) : Does records c (noting records (s.after c).2) := by
  cases made : s.call c with
  | error e =>
    rw [after_of_error made, noting_error]
    exact .nothing
  | ok done =>
    obtain ⟨next, told⟩ := done
    rw [after_of_ok made]
    cases c with
    | save r now =>
      obtain ⟨stored, rfl, settled, dated⟩ := h.settled_of_saved proper finite rfl made
      exact .stores settled fun old there => by rw [dated, there, Option.getD_some]
    | saveGraph r g now =>
      obtain ⟨stored, rfl, settled, dated⟩ := h.settled_of_saved proper finite rfl made
      exact .stores settled fun old there => by rw [dated, there, Option.getD_some]
    | setStatus id word now =>
      obtain ⟨⟨next, found⟩, set, ⟨⟩⟩ := Except.map_eq_ok_iff.mp made
      rcases setStatus_eq_ok.mp set with ⟨-, -, rfl⟩ | ⟨r, status, stored, loaded, named, -, rfl⟩
      · exact .nothing
      · obtain ⟨-, found⟩ := h.eq_of_load loaded
        obtain ⟨old, there, rfl⟩ := Option.map_eq_some_iff.mp found.symm
        rw [h.setStatus_of_settled there (settled id old there) proper named] at set
        cases set
        refine .stores ((settled id old there).stamped status old.createdAt now) fun old' there' => ?_
        cases there.symm.trans there'
        rfl
    | delete id =>
      obtain ⟨⟨next, found⟩, -, ⟨⟩⟩ := Except.map_eq_ok_iff.mp made
      exact .removes rfl
    | load id =>
      obtain ⟨found, -, ⟨⟩⟩ := Except.map_eq_ok_iff.mp made
      exact .nothing
    | list =>
      obtain ⟨all, -, ⟨⟩⟩ := Except.map_eq_ok_iff.mp made
      exact .nothing

/-- **Some calls** leave the live records settled. -/
theorem settled_calls {cs : List Call} (h : s.Holds records) (settled : AllSettled records)
    (proper : ∀ c ∈ cs, c.Proper) (finite : ∀ c ∈ cs, c.AllFinite) :
    AllSettled ((s.calls cs).2.foldl noting records) := by
  induction cs generalizing s records with
  | nil => exact settled
  | cons c rest ih =>
    obtain ⟨proper, rest_proper⟩ := List.forall_mem_cons.mp proper
    obtain ⟨finite, rest_finite⟩ := List.forall_mem_cons.mp finite
    exact ih (h.after proper) ((h.does_after settled proper finite).settled settled) rest_proper rest_finite

/-- **Some calls** leave a record as old as it is, unless one of them deletes it. -/
theorem dated_calls {cs : List Call} (h : s.Holds records) (settled : AllSettled records)
    (proper : ∀ c ∈ cs, c.Proper) (finite : ∀ c ∈ cs, c.AllFinite) (there : records.get? id = some r)
    (stays : .delete id ∉ cs) :
    ∃ r', ((s.calls cs).2.foldl noting records).get? id = some r' ∧ r'.createdAt = r.createdAt := by
  induction cs generalizing s records r with
  | nil => exact ⟨r, there, rfl⟩
  | cons c rest ih =>
    obtain ⟨proper, rest_proper⟩ := List.forall_mem_cons.mp proper
    obtain ⟨finite, rest_finite⟩ := List.forall_mem_cons.mp finite
    obtain ⟨other, rest_stays⟩ := not_or.mp (mt List.mem_cons.mpr stays)
    have does := h.does_after settled proper finite
    obtain ⟨r', there', same⟩ := does.dated there fun deletes => other deletes.symm
    obtain ⟨r'', there'', same'⟩ :=
      ih (h.after proper) (does.settled settled) rest_proper rest_finite there' rest_stays
    exact ⟨r'', there'', same'.trans same⟩

/-- **A record that is saved under a new id** is live from then on, and as old as it says, until it is deleted. -/
theorem dated_since {later : List Call} (h : s.Holds records) (settled : AllSettled records)
    (proper : ∀ d ∈ c :: later, d.Proper) (finite : ∀ d ∈ c :: later, d.AllFinite)
    (saves : c.saved? = some r) (absent : records.get? r.id = none) (made : s.call c = .ok (s', told))
    (stays : .delete r.id ∉ later) :
    ∃ stored, ((s.calls (c :: later)).2.foldl noting records).get? r.id = some stored ∧
      stored.createdAt = r.createdAt := by
  obtain ⟨proper, proper_later⟩ := List.forall_mem_cons.mp proper
  obtain ⟨finite, finite_later⟩ := List.forall_mem_cons.mp finite
  obtain ⟨first, rfl, -, dated⟩ := h.settled_of_saved proper finite saves made
  have there : (noting records (s.after c).2).get? r.id = some first := by
    rw [after_of_ok made, noting_of_saved saves, Dict.get?_put, if_pos rfl]
  have settled_after := (h.does_after settled proper finite).settled settled
  obtain ⟨stored, live, same⟩ :=
    (h.after proper).dated_calls settled_after proper_later finite_later there stays
  rw [absent] at dated
  exact ⟨stored, live, same.trans dated⟩

end Holds

/-- **What a change of status and later saves leave alone.** Call a store in any way from the start on, and bring
finite numbers only. A record that is live is found as it was stored last. To give it another status works if the word
is one, and puts in its place a record that is the same but for the status and the time of change; every other file,
and whatever is found under another id, stays as it is. A word that is no status is refused, and changes nothing.

And let one of the calls save a record under an id that is not live. Then as long as the id is not deleted, what is
found under it was made when that record was made, whatever is saved under it and whatever status it gets. -/
theorem settled_and_dated (cs : List Call) (proper : ∀ c ∈ cs, c.Proper) (finite : ∀ c ∈ cs, c.AllFinite) :
    let s := (Store.calls {} cs).1
    let log := (Store.calls {} cs).2
    (∀ id r now, (live log).get? id = some r → now.OnClock → s.load id = .ok (some r) ∧
      (∀ word status, Status.ofWord? word = some status → ∃ s',
        s.setStatus id word now = .ok (s', some { r with status, updatedAt := now }) ∧
        s'.load id = .ok (some { r with status, updatedAt := now }) ∧
        (∀ name, name ≠ id ++ ending → s'.files.get? name = s.files.get? name) ∧
        ∀ other, other ≠ id → s'.load other = s.load other) ∧
      ∀ word, Status.ofWord? word = none → ∃ issues, s.setStatus id word now = .error (.unreadable issues) ∧
        (s.after (.setStatus id word now)).1 = s) ∧
    ∀ before c later r, cs = before ++ c :: later → c.saved? = some r →
      (live (Store.calls {} before).2).get? r.id = none →
      (∃ done, (Store.calls {} before).1.call c = .ok done) → .delete r.id ∉ later →
      ∃ stored, (live log).get? r.id = some stored ∧ s.load r.id = .ok (some stored) ∧
        stored.createdAt = r.createdAt := by
  intro s log
  have none_live : AllSettled [] := fun _ _ there => nomatch there
  have h : s.Holds (live log) := Holds.empty.calls proper
  have settled : AllSettled (live log) :=
    Holds.empty.settled_calls none_live proper finite
  refine ⟨fun id r now there clock => ⟨?_, fun word status named => ?_, fun word nameless => ?_⟩, ?_⟩
  · exact (h.load_eq_iff there).mpr (settled id r there).finite
  · have set := h.setStatus_of_settled there (settled id r there) clock named
    have held := h.setStatus clock set
    refine ⟨_, set, ?_, fun name ne => get?_files_put ne, fun other ne => load_put ne⟩
    refine (held.load_eq_iff ?_).mpr ((settled id r there).stamped status r.createdAt now).finite
    rw [Dict.get?_put, if_pos rfl]
  · obtain ⟨issues, refused⟩ := h.setStatus_of_no_status there (settled id r there) nameless now
    refine ⟨issues, refused, ?_⟩
    rw [after_of_error (e := .unreadable issues)]
    rw [call, refused]
    rfl
  · rintro before c later r rfl saves absent ⟨⟨next, told⟩, made⟩ stays
    obtain ⟨proper_before, proper_rest⟩ := List.forall_mem_append.mp proper
    obtain ⟨finite_before, finite_rest⟩ := List.forall_mem_append.mp finite
    have held : (Store.calls {} before).1.Holds (live (Store.calls {} before).2) :=
      Holds.empty.calls proper_before
    have rested := Holds.empty.settled_calls none_live proper_before finite_before
    obtain ⟨stored, there, dated⟩ := held.dated_since rested proper_rest finite_rest saves absent made stays
    rw [← live_append] at there
    exact ⟨stored, there, (h.load_eq_iff there).mpr (settled _ _ there).finite, dated⟩

/-- A record that waits for five seconds, as it is read at some time. -/
def restingRecord (made : Moment) : Record :=
  { acceptedRecord (waitingRecord "b" (.int 5)) with createdAt := made, updatedAt := made }

/-- Calls that save the record, give it another status, and save it again as one that was made later. -/
def restingCalls : List Call :=
  [.save (restingRecord ⟨1, none⟩) ⟨1, none⟩, .setStatus "b" "paused" ⟨2, none⟩,
    .save (restingRecord ⟨3, none⟩) ⟨3, none⟩]

/-- The record stays as old as it was, and gets another status without any other change. -/
theorem settled_and_dated_resting :
    (∀ c ∈ restingCalls, c.Proper) ∧ (∀ c ∈ restingCalls, c.AllFinite) ∧
    ∃ r s', (live (Store.calls {} restingCalls).2).get? "b" = some r ∧ r.createdAt = ⟨1, none⟩ ∧
      (Store.calls {} restingCalls).1.setStatus "b" "active" ⟨4, none⟩ =
        .ok (s', some { r with status := .active, updatedAt := ⟨4, none⟩ }) ∧
      s'.load "b" = .ok (some { r with status := .active, updatedAt := ⟨4, none⟩ }) := by
  have clock (n : Int) (h : Moment.InCalendar (n.fdiv Moment.dayLength)) : Moment.OnClock ⟨n, none⟩ :=
    ⟨Moment.valid_of_clock h, rfl⟩
  have accepted (n : Int) (h : Moment.InCalendar (n.fdiv Moment.dayLength)) :
      (restingRecord ⟨n, none⟩).Accepted :=
    ⟨"", ⟨n, none⟩, waitingRecord "b" (.int 5), (clock n h).1, rfl⟩
  have resting (made : Moment) : (restingRecord made).AllFinite := by
    have steps : ∀ s ∈ (acceptedRecord (waitingRecord "b" (.int 5))).workflow,
        s.Legible ∧ ∀ fs ∈ s.untyped, Value.fieldsFinite fs = true := by decide +kernel
    exact ⟨steps, rfl⟩
  have proper : ∀ c ∈ restingCalls, c.Proper := by
    simp only [restingCalls, List.forall_mem_cons]
    exact ⟨⟨accepted 1 (by decide), clock 1 (by decide)⟩, clock 2 (by decide),
      ⟨accepted 3 (by decide), clock 3 (by decide)⟩, fun _ mem => absurd mem List.not_mem_nil⟩
  have finite : ∀ c ∈ restingCalls, c.AllFinite := by
    simp only [restingCalls, List.forall_mem_cons]
    exact ⟨resting _, trivial, resting _, fun _ mem => absurd mem List.not_mem_nil⟩
  obtain ⟨changes, dates⟩ := settled_and_dated restingCalls proper finite
  have saved : (Store.call {} (.save (restingRecord ⟨1, none⟩) ⟨1, none⟩)).toOption.isSome = true := by
    decide +kernel
  have first : ∃ done, Store.call {} (.save (restingRecord ⟨1, none⟩) ⟨1, none⟩) = .ok done := by
    cases made : Store.call {} (.save (restingRecord ⟨1, none⟩) ⟨1, none⟩) with
    | ok done => exact ⟨done, rfl⟩
    | error e => rw [made] at saved; cases saved
  obtain ⟨r, there, -, made⟩ := dates [] (.save (restingRecord ⟨1, none⟩) ⟨1, none⟩) _
    (restingRecord ⟨1, none⟩) rfl rfl rfl first (by simp)
  obtain ⟨-, renames, -⟩ := changes "b" r ⟨4, none⟩ there (clock 4 (by decide))
  obtain ⟨s', set, found, -⟩ := renames "active" .active rfl
  exact ⟨proper, finite, r, s', there, made, set, found⟩

end Store

end Parley
