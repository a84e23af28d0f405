import Parley.Proofs.Store.Live

/-!
# The store as a map

A store is called again and again, and each call tells something or fails. From what the calls tell alone,
without a look at the files, one can keep account of the records that are *live* (`Parley.Store.live`): a
record goes in under its id when it is saved, in the place of the one before, and goes out when its id is
deleted. The store holds the live records: one call keeps it so, whatever comes of it
(`Parley.Store.Holds.after`), and hence so do all of them, one after the other.

A store is therefore a map from ids to records, as far as its records are finite
(`Parley.Store.calls_live`).
-/

namespace Parley

/-! ### Calls -/

/-- A call of a store. Calls that write are told the time. -/
inductive Call where
  | save (r : Record) (now : Moment)
  | saveGraph (r : Record) (g : Graph) (now : Moment)
  | setStatus (id word : String) (now : Moment)
  | delete (id : String)
  | load (id : String)
  | list

/-- What a call tells. -/
inductive Told where
  | record (found : Option Record)
  | deleted (there : Bool)
  | records (records : List Record)

/-- A call, and what it told or why it failed. -/
abbrev Event := Call × Except StoreError Told

/-- Whether a record is one that a reader accepts. -/
def Record.Accepted (r : Record) : Prop :=
  ∃ id made v, Moment.Valid made ∧ Record.readerWith id made v = .ok r

theorem Record.Accepted.fit {r : Record} (h : r.Accepted) : r.Fit := by
  obtain ⟨id, made, v, valid, read⟩ := h
  exact Record.fit_of_readerWith valid read

/-- Whether a call can be made: its records are accepted, its graph was built, and its time is told by the
clock of the store. -/
def Call.Proper : Call → Prop
  | save r now => r.Accepted ∧ now.OnClock
  | saveGraph r g now => r.Accepted ∧ g.Built ∧ now.OnClock
  | setStatus _ _ now => now.OnClock
  | delete _ => True
  | load _ => True
  | list => True

namespace Store

/-- Makes a call. -/
def call (s : Store) : Call → Except StoreError (Store × Told)
  | .save r now => (fun done => (done.1, .record (some done.2))) <$> s.save r now
  | .saveGraph r g now => (fun done => (done.1, .record (some done.2))) <$> s.saveGraph r g now
  | .setStatus id word now => (fun done => (done.1, .record done.2)) <$> s.setStatus id word now
  | .delete id => (fun done => (done.1, .deleted done.2)) <$> s.delete id
  | .load id => (fun found => (s, .record found)) <$> s.load id
  | .list => (fun records => (s, .records records)) <$> s.list

/-- The store after a call, and what came of the call. -/
def after (s : Store) (c : Call) : Store × Event :=
  match s.call c with
  | .ok (next, told) => (next, c, .ok told)
  | .error e => (s, c, .error e)

/-- The store after some calls, and what came of each of them. -/
def calls (s : Store) : List Call → Store × List Event
  | [] => (s, [])
  | c :: rest => (((s.after c).1.calls rest).1, (s.after c).2 :: ((s.after c).1.calls rest).2)

/-- The live records after one more call. -/
def noting (live : Dict Record) : Event → Dict Record
  | (.save r _, .ok (.record (some stored))) => live.put r.id stored
  | (.saveGraph r _ _, .ok (.record (some stored))) => live.put r.id stored
  | (.setStatus id _ _, .ok (.record (some stored))) => live.put id stored
  | (.delete id, .ok _) => live.erase id
  | _ => live

/-- **The live records**: under each id the one that was stored last, unless the id was deleted since. -/
def live (log : List Event) : Dict Record := log.foldl noting []

variable {s : Store} {records : Dict Record} {c : Call}

theorem after_of_error {e : StoreError} (fails : s.call c = .error e) : s.after c = (s, c, .error e) := by
  rw [after, fails]

/-- A call that fails makes no difference to the live records. -/
theorem noting_error (e : StoreError) : noting records (c, .error e) = records := by
  cases c <;> rfl

theorem calls_append (s : Store) (cs more : List Call) :
    s.calls (cs ++ more) =
      (((s.calls cs).1.calls more).1, (s.calls cs).2 ++ ((s.calls cs).1.calls more).2) := by
  induction cs generalizing s with
  | nil => rfl
  | cons c rest ih => rw [List.cons_append, calls, ih, calls, List.cons_append]

/-! ### What calls keep -/

namespace Holds

/-- **One call keeps account of the live records**, whatever comes of it. -/
theorem after (h : s.Holds records) (proper : c.Proper) :
    (s.after c).1.Holds (noting records (s.after c).2) := by
  cases made : s.call c with
  | error e =>
    rw [after_of_error made, noting_error]
    exact h
  | ok done =>
    rw [Store.after, made]
    cases c with
    | save r now =>
      obtain ⟨⟨next, stored⟩, saved, rfl⟩ := Except.map_eq_ok_iff.mp made
      exact h.save proper.1.fit proper.2 saved
    | saveGraph r g now =>
      obtain ⟨⟨next, stored⟩, saved, rfl⟩ := Except.map_eq_ok_iff.mp made
      obtain ⟨accepted, built, clock⟩ := proper
      have created := accepted.fit.created
      rw [saveGraph_eq built.sound created clock.1] at saved
      have held := h.save (built.normal_recorded created clock).fit clock saved
      exact held
    | setStatus id word now =>
      obtain ⟨⟨next, found⟩, set, rfl⟩ := Except.map_eq_ok_iff.mp made
      cases found with
      | some stored => exact h.setStatus proper set
      | none =>
        rcases setStatus_eq_ok.mp set with ⟨-, rfl, -⟩ | ⟨_, _, _, -, -, -, found⟩
        · exact h
        · cases found
    | delete id =>
      obtain ⟨⟨next, there⟩, deleted, rfl⟩ := Except.map_eq_ok_iff.mp made
      obtain ⟨-, rfl, -⟩ := delete_eq_ok.mp deleted
      exact h.erase id
    | load id =>
      obtain ⟨found, -, rfl⟩ := Except.map_eq_ok_iff.mp made
      exact h
    | list =>
      obtain ⟨all, -, rfl⟩ := Except.map_eq_ok_iff.mp made
      exact h

/-- **All calls keep account of the live records.** -/
theorem calls {cs : List Call} (h : s.Holds records) (proper : ∀ c ∈ cs, c.Proper) :
    (s.calls cs).1.Holds ((s.calls cs).2.foldl noting records) := by
  induction cs generalizing s records with
  | nil => exact h
  | cons c rest ih =>
    exact ih (h.after (proper c List.mem_cons_self)) fun d mem => proper d (List.mem_cons_of_mem c mem)

/-- No records are held at first. -/
theorem empty : Store.Holds {} [] :=
  ⟨rfl, List.nodup_nil, fun _ mem => absurd mem List.not_mem_nil⟩

/-! ### What calls tell -/

/-- **A record is found as it is** exactly if it is finite. -/
theorem load_eq_iff (h : s.Holds records) {id : String} {r : Record} (there : records.get? id = some r) :
    s.load id = .ok (some r) ↔ r.Finite := by
  refine ⟨fun found => ?_, fun finite => ?_⟩
  · by_cases legible : r.Legible
    · rw [h.load_legible there legible] at found
      exact ⟨legible, Record.kept_eq_self_iff.mp (Option.some.inj (Except.ok.inj found))⟩
    · obtain ⟨issues, fails⟩ := h.load_illegible there legible
      cases fails.symm.trans found
  · rw [h.load_legible there finite.1, Record.kept_eq_self_iff.mpr finite.2]

/-- **The records are listed as they are** exactly if all of them are finite. -/
theorem list_iff (h : s.Holds records) :
    (∃ all, s.list = .ok all ∧ all.Perm (records.map (·.2))) ↔ ∀ entry ∈ records, entry.2.Finite := by
  refine ⟨?_, fun finite => ?_⟩
  · rintro ⟨all, listed, same⟩ entry mem
    have legible : ∀ entry ∈ records, entry.2.Legible := by
      intro other there
      by_contra bad
      obtain ⟨issues, fails⟩ := h.list_illegible ⟨other, there, bad⟩
      cases fails.symm.trans listed
    refine ⟨legible entry mem, Record.kept_eq_self_iff.mp ?_⟩
    obtain ⟨kept, listed', same'⟩ := h.list_legible legible
    cases listed'.symm.trans listed
    -- the record is listed as some record is kept, and that one goes by the same id
    have there : entry.2 ∈ records.map fun e => e.2.kept :=
      same'.subset (same.symm.subset (List.mem_map_of_mem mem))
    obtain ⟨other, mem', is_kept⟩ := List.mem_map.mp there
    have id : other.1 = entry.1 := by
      rw [← (h.own other mem').1, ← (h.own entry mem).1, ← is_kept, Record.id_kept]
    have found := (Dict.get?_eq_some_iff h.distinct).mpr mem
    have found' := (Dict.get?_eq_some_iff h.distinct).mpr mem'
    rw [id, found] at found'
    rw [← Option.some.inj found'] at is_kept
    exact is_kept
  · obtain ⟨all, listed, same⟩ := h.list_legible fun entry mem => (finite entry mem).1
    refine ⟨all, listed, ?_⟩
    rw [List.map_congr_left fun entry mem => Record.kept_eq_self_iff.mpr (finite entry mem).2] at same
    exact same

end Holds

/-- **The store is a map from ids to records, as far as its records are finite.** However it is called from the
start on, under an id that is not live nothing is found, and under one that is live the record that was stored
last is found exactly if all its numbers are finite; the list is that of the live records exactly if all their
numbers are; an id is there to be deleted exactly if it is live; and a call that fails changes nothing. An
infinite number among the settings of a record's trigger comes back as null, and one with a meaning in a step
makes its record unreadable, and with it the list. -/
theorem calls_live (cs : List Call) (proper : ∀ c ∈ cs, c.Proper) :
    let s := (Store.calls {} cs).1
    let log := (Store.calls {} cs).2
    (live log).keys.Nodup ∧ (∀ entry ∈ live log, entry.2.id = entry.1) ∧
    (∀ id, (live log).get? id = none →
      s.load id = if isValidId id then .ok none else .error (.invalidId id)) ∧
    (∀ id r, (live log).get? id = some r → (s.load id = .ok (some r) ↔ r.Finite) ∧
      (r.Legible → s.load id = .ok (some r.kept)) ∧
      (¬ r.Legible → ∃ issues, s.load id = .error (.unreadable issues))) ∧
    ((∃ all, s.list = .ok all ∧ all.Perm ((live log).map (·.2))) ↔ ∀ entry ∈ live log, entry.2.Finite) ∧
    ((∀ entry ∈ live log, entry.2.Legible) →
      ∃ all, s.list = .ok all ∧ all.Perm ((live log).map fun entry => entry.2.kept)) ∧
    ((∃ entry ∈ live log, ¬ entry.2.Legible) → ∃ issues, s.list = .error (.unreadable issues)) ∧
    (∀ id, isValidId id = true → ∃ rest, s.delete id = .ok (rest, (live log).has id)) ∧
    (∀ c e, s.call c = .error e → Store.calls {} (cs ++ [c]) = (s, log ++ [(c, .error e)]) ∧
      live (log ++ [(c, .error e)]) = live log) := by
  intro s log
  have h : s.Holds (live log) := Holds.empty.calls proper
  refine ⟨h.distinct, fun entry mem => (h.own entry mem).1, fun id absent => ?_, fun id r there => ?_,
    h.list_iff, h.list_legible, h.list_illegible, fun id valid => ?_, fun c e fails => ?_⟩
  · cases valid : isValidId id with
    | true => exact h.load_none valid absent
    | false =>
      rw [load, fileName, valid]
      rfl
  · exact ⟨h.load_eq_iff there, h.load_legible there, h.load_illegible there⟩
  · refine ⟨_, delete_eq_ok.mpr ⟨valid, rfl, ?_⟩⟩
    rw [h.files, has_filesOf]
  · refine ⟨?_, ?_⟩
    · rw [calls_append, calls, after_of_error fails]
      rfl
    · rw [live, List.foldl_append, List.foldl_cons, noting_error]
      rfl

/-- A record with a single step that waits for so long. -/
def waitingRecord (id : String) (duration : Value) : Value :=
  .dict [("id", .str id), ("workflow", .list [.dict [("id", .str "wait"), ("type", .str "delay"),
    ("config", .dict [("duration", duration)])]])]

/-- The record as it is read. -/
def acceptedRecord (v : Value) : Record :=
  match Record.readerWith "" ⟨0, none⟩ v with
  | .ok r => r
  | .error _ => { id := "", createdAt := ⟨0, none⟩, updatedAt := ⟨0, none⟩ }

/-- Calls that save a record that waits forever and one that does not. -/
def waitingCalls : List Call :=
  [.save (acceptedRecord (waitingRecord "a" (.str "inf"))) ⟨1, none⟩,
    .save (acceptedRecord (waitingRecord "b" (.int 5))) ⟨2, none⟩, .setStatus "b" "active" ⟨3, none⟩,
    .delete "c"]

theorem calls_live_waiting :
    (∀ c ∈ waitingCalls, c.Proper) ∧
    ∃ a b, (live (Store.calls {} waitingCalls).2).get? "a" = some a ∧
      (live (Store.calls {} waitingCalls).2).get? "b" = some b ∧
      (∃ issues, (Store.calls {} waitingCalls).1.load "a" = .error (.unreadable issues)) ∧
      (Store.calls {} waitingCalls).1.load "b" = .ok (some b) ∧ b.status = .active ∧
      (Store.calls {} waitingCalls).1.load "c" = .ok none ∧
      ∃ issues, (Store.calls {} waitingCalls).1.list = .error (.unreadable issues) := by
  have clock (n : Int) (h : Moment.InCalendar (n.fdiv Moment.dayLength)) : Moment.OnClock ⟨n, none⟩ :=
    ⟨Moment.valid_of_clock h, rfl⟩
  have accepted (v : Value) (h : Record.readerWith "" ⟨0, none⟩ v = .ok (acceptedRecord v)) :
      (acceptedRecord v).Accepted :=
    ⟨"", ⟨0, none⟩, v, (clock 0 (by decide)).1, h⟩
  have proper : ∀ c ∈ waitingCalls, c.Proper := by
    simp only [waitingCalls, List.forall_mem_cons]
    exact ⟨⟨accepted _ rfl, clock 1 (by decide)⟩, ⟨accepted _ rfl, clock 2 (by decide)⟩,
      clock 3 (by decide), trivial, fun _ mem => absurd mem List.not_mem_nil⟩
  obtain ⟨-, -, absent, present, -, -, unlisted, -, -⟩ := calls_live waitingCalls proper
  have at_a : ((live (Store.calls {} waitingCalls).2).get? "a").any (fun r => decide ¬ r.Legible) = true := by
    decide +kernel
  have at_b : ((live (Store.calls {} waitingCalls).2).get? "b").any
      (fun r => decide (r.Finite ∧ r.status = .active)) = true := by
    decide +kernel
  obtain ⟨a, there, illegible⟩ := Option.any_eq_true .. |>.mp at_a
  obtain ⟨b, there', finite⟩ := Option.any_eq_true .. |>.mp at_b
  obtain ⟨finite, active⟩ := of_decide_eq_true finite
  have illegible := of_decide_eq_true illegible
  exact ⟨proper, a, b, there, there', (present "a" a there).2.2 illegible, (present "b" b there').1.mpr finite,
    active, absent "c" (by decide +kernel), unlisted ⟨("a", a), Dict.mem_of_get? there, illegible⟩⟩

end Store

end Parley
