import Parley.Proofs.Store.Saving

/-!
# The records that a store holds

A store holds some records under their ids if its files are those of the records and nothing else
(`Parley.Store.Holds`). What a look at such a store finds is settled here, for one record and for all of them,
and that a record which is saved, given another status or deleted is held afterwards, or no longer.

A record is not what comes back if one of its numbers is infinite or not a number, since null is written in its
place. Where the number has a meaning, the record cannot be read at all, and then neither can the list of all
records (`Parley.Store.Holds.load_illegible`, `Parley.Store.Holds.list_illegible`).
-/

namespace Parley

/-! ### Many computations that can fail -/

section Many

variable {ε α β : Type} {f : α → Except ε β} {as : List α} {bs : List β}

theorem Except.mapM_eq_ok {g : α → β} (h : ∀ a ∈ as, f a = .ok (g a)) : as.mapM f = .ok (as.map g) := by
  induction as with
  | nil => rfl
  | cons a rest ih =>
    rw [List.mapM_cons, h a List.mem_cons_self, ih fun a mem => h a (List.mem_cons_of_mem _ mem)]
    rfl

/-- If all of them are to succeed, each has to. -/
theorem Except.exists_of_mapM_eq_ok (h : as.mapM f = .ok bs) {a : α} (mem : a ∈ as) : ∃ b, f a = .ok b := by
  induction as generalizing bs with
  | nil => cases mem
  | cons first rest ih =>
    rw [List.mapM_cons] at h
    obtain ⟨b, head, h⟩ := Except.bind_eq_ok_iff.mp h
    obtain ⟨bs, tail, -⟩ := Except.bind_eq_ok_iff.mp h
    rcases List.mem_cons.mp mem with rfl | later
    · exact ⟨b, head⟩
    · exact ih tail later

/-- If they fail, then as one of them does. -/
theorem Except.exists_of_mapM_eq_error {e : ε} (h : as.mapM f = .error e) : ∃ a ∈ as, f a = .error e := by
  induction as with
  | nil => cases h
  | cons first rest ih =>
    rw [List.mapM_cons] at h
    cases head : f first with
    | error e' =>
      rw [head] at h
      cases h
      exact ⟨first, List.mem_cons_self, head⟩
    | ok b =>
      rw [head] at h
      cases tail : rest.mapM f with
      | ok bs =>
        rw [tail] at h
        cases h
      | error e' =>
        rw [tail] at h
        cases h
        obtain ⟨a, mem, fails⟩ := ih tail
        exact ⟨a, List.mem_cons_of_mem _ mem, fails⟩

end Many

namespace Store

/-! ### Files -/

/-- The files of some records, each under its id. -/
def filesOf (live : Dict Record) : Dict Contents :=
  live.map fun entry => (entry.1 ++ ending, .document entry.2.write.finite)

section Files

variable {live : Dict Record} {id : String} {r : Record}

theorem get?_filesOf :
    (filesOf live).get? (id ++ ending) = (live.get? id).map fun r => .document r.write.finite := by
  induction live with
  | nil => rfl
  | cons entry rest ih =>
    rw [filesOf, List.map_cons, Dict.get?_cons, Dict.get?_cons]
    by_cases same : entry.1 = id
    · rw [if_pos same, if_pos (congrArg (· ++ ending) same)]
      rfl
    · rw [if_neg same, if_neg (mt (String.append_left_inj ending).mp same)]
      exact ih

theorem put_filesOf :
    (filesOf live).put (id ++ ending) (.document r.write.finite) = filesOf (live.put id r) := by
  induction live with
  | nil => rfl
  | cons entry rest ih =>
    rw [filesOf, List.map_cons, Dict.put, Dict.put]
    by_cases same : entry.1 = id
    · simp [same, filesOf]
    · simpa [same, String.append_left_inj, filesOf] using ih

theorem erase_filesOf : (filesOf live).erase (id ++ ending) = filesOf (live.erase id) := by
  rw [filesOf, filesOf, Dict.erase, Dict.erase, List.filter_map]
  refine congrArg _ (List.filter_congr fun entry _ => ?_)
  simp [String.append_left_inj, bne, BEq.beq]

theorem has_filesOf : (filesOf live).has (id ++ ending) = live.has id := by
  rw [filesOf, Dict.has, Dict.has, List.any_map]
  refine List.any_congr rfl fun entry => ?_
  simp [String.append_left_inj]

/-- The files of records are all files of automations. -/
theorem isRecordFile_append : isRecordFile (id ++ ending) = true := by
  rw [isRecordFile, String.toList_append, List.reverse_append, List.isPrefixOf_iff_prefix]
  exact List.prefix_append _ _

end Files

/-! ### Holding records -/

/-- **A store that holds some records**: its files are theirs, and each record is in normal form and goes by
its own id. -/
structure Holds (s : Store) (live : Dict Record) : Prop where
  files : s.files = filesOf live
  distinct : live.keys.Nodup
  own : ∀ entry ∈ live, entry.2.id = entry.1 ∧ isValidId entry.1 = true ∧ entry.2.Normal

namespace Holds

variable {s s' : Store} {live : Dict Record} {id word : String} {r stored : Record} {now : Moment}
  {found : Option Record}

theorem own_of_get? (h : s.Holds live) (there : live.get? id = some r) :
    r.id = id ∧ isValidId id = true ∧ r.Normal :=
  h.own _ (Dict.mem_of_get? there)

/-! ### Looking at them -/

/-- What is not there is not found. -/
theorem load_none (h : s.Holds live) (valid : isValidId id = true) (absent : live.get? id = none) :
    s.load id = .ok none := by
  rw [load_eq valid, h.files, get?_filesOf, absent]
  rfl

/-- What is there is looked up in its document. -/
theorem load_some (h : s.Holds live) (there : live.get? id = some r) :
    s.load id = some <$> recordIn (.document r.write.finite) := by
  rw [load_eq (h.own_of_get? there).2.1, h.files, get?_filesOf, there]
  rfl

theorem load_legible (h : s.Holds live) (there : live.get? id = some r) (legible : r.Legible) :
    s.load id = .ok (some r.kept) := by
  rw [h.load_some there, recordIn_document (h.own_of_get? there).2.2 legible]
  rfl

theorem load_illegible (h : s.Holds live) (there : live.get? id = some r) (illegible : ¬ r.Legible) :
    ∃ issues, s.load id = .error (.unreadable issues) := by
  obtain ⟨issues, fails⟩ := recordIn_illegible illegible
  rw [h.load_some there, fails]
  exact ⟨issues, rfl⟩

/-- Whatever is found is a live record as it is kept. -/
theorem eq_of_load (h : s.Holds live) (loaded : s.load id = .ok found) :
    isValidId id = true ∧ found = (live.get? id).map Record.kept := by
  have valid : isValidId id = true := by
    obtain ⟨name, named, -⟩ := Except.bind_eq_ok_iff.mp loaded
    exact (fileName_eq_ok.mp named).1
  refine ⟨valid, ?_⟩
  cases there : live.get? id with
  | none =>
    rw [h.load_none valid there] at loaded
    exact (Except.ok.inj loaded).symm
  | some r =>
    by_cases legible : r.Legible
    · rw [h.load_legible there legible] at loaded
      exact (Except.ok.inj loaded).symm
    · obtain ⟨issues, fails⟩ := h.load_illegible there legible
      cases fails.symm.trans loaded

/-- To list the records is to look up each of them. -/
theorem list_eq (h : s.Holds live) :
    s.list = (do
      let records ← live.mapM fun entry => recordIn (.document entry.2.write.finite)
      if records.any (·.updatedAt.ahead.isSome) && records.any (·.updatedAt.ahead.isNone) then
        .error .unordered
      else
        pure (records.mergeSort fun a b => b.updatedAt.instant ≤ a.updatedAt.instant)) := by
  -- no file is passed over
  have all : (filesOf live).filter (fun entry => isRecordFile entry.1) = filesOf live := by
    refine List.filter_eq_self.mpr fun entry mem => ?_
    obtain ⟨_, -, rfl⟩ := List.mem_map.mp mem
    exact isRecordFile_append
  rw [list, h.files, all, filesOf, List.mapM_map]
  rfl

/-- **Legible records are listed**, each once; they all tell their time of change by the same clock. -/
theorem list_legible (h : s.Holds live) (legible : ∀ entry ∈ live, entry.2.Legible) :
    ∃ records, s.list = .ok records ∧ records.Perm (live.map fun entry => entry.2.kept) := by
  have read : (live.mapM fun entry => recordIn (.document entry.2.write.finite)) =
      .ok (live.map fun entry => entry.2.kept) :=
    Except.mapM_eq_ok fun entry mem => recordIn_document (h.own entry mem).2.2 (legible entry mem)
  have one_clock : ((live.map fun entry => entry.2.kept).any fun r => r.updatedAt.ahead.isSome) = false := by
    rw [List.any_map, List.any_eq_false]
    intro entry mem
    simp [(h.own entry mem).2.2.onClock]
  refine ⟨(live.map fun entry => entry.2.kept).mergeSort fun a b => b.updatedAt.instant ≤ a.updatedAt.instant,
    ?_, List.mergeSort_perm _ _⟩
  rw [h.list_eq, read]
  show (if _ then _ else _) = _
  rw [one_clock, Bool.false_and, if_neg Bool.false_ne_true]
  rfl

/-- A single record that is not legible keeps all the others from being listed. -/
theorem list_illegible (h : s.Holds live) (illegible : ∃ entry ∈ live, ¬ entry.2.Legible) :
    ∃ issues, s.list = .error (.unreadable issues) := by
  rw [h.list_eq]
  cases read : live.mapM fun entry => recordIn (.document entry.2.write.finite) with
  | ok records =>
    -- all would have to be read, and one is not
    obtain ⟨entry, mem, bad⟩ := illegible
    obtain ⟨r, back⟩ := Except.exists_of_mapM_eq_ok read mem
    obtain ⟨issues, fails⟩ := recordIn_illegible bad
    cases fails.symm.trans back
  | error e =>
    obtain ⟨entry, mem, fails⟩ := Except.exists_of_mapM_eq_error read
    -- the first that fails is one that is not legible
    by_cases good : entry.2.Legible
    · cases (recordIn_document (h.own entry mem).2.2 good).symm.trans fails
    · obtain ⟨issues, same⟩ := recordIn_illegible good
      cases same.symm.trans fails
      exact ⟨issues, rfl⟩

/-! ### Changing them -/

/-- A record that is put into its file is held in the place of the one before. -/
theorem put (h : s.Holds live) (own : stored.id = id) (valid : isValidId id = true)
    (normal : stored.Normal) : (s.put (id ++ ending) stored).Holds (live.put id stored) := by
  refine ⟨?_, Dict.nodup_keys_put h.distinct, fun entry mem => ?_⟩
  · show s.files.put (id ++ ending) (.document stored.write.finite) = _
    rw [h.files, put_filesOf]
  · rcases (Dict.mem_put h.distinct).mp mem with rfl | ⟨old, -⟩
    · exact ⟨own, valid, normal⟩
    · exact h.own entry old

/-- A record whose file is removed is no longer held. -/
theorem erase (h : s.Holds live) (id : String) :
    Store.Holds { s with files := s.files.erase (id ++ ending) } (live.erase id) := by
  refine ⟨?_, Dict.nodup_keys_erase h.distinct, fun entry mem => h.own entry (Dict.mem_erase.mp mem).1⟩
  show s.files.erase (id ++ ending) = _
  rw [h.files, erase_filesOf]

/-- **A record that is saved is held** under its id. -/
theorem save (h : s.Holds live) (fit : r.Fit) (clock : now.OnClock)
    (saved : s.save r now = .ok (s', stored)) : s'.Holds (live.put r.id stored) := by
  obtain ⟨valid, g, found, made, loaded, rfl, rfl⟩ := (save_eq_ok fit clock).mp saved
  have normal := (Graph.built_of_ofRecord fit made).normal_recorded fit.created clock
  obtain ⟨-, rfl⟩ := h.eq_of_load loaded
  cases there : live.get? r.id with
  | none => exact h.put rfl valid normal
  | some old =>
    -- the record keeps the time of its making from the one before
    refine h.put rfl valid ⟨normal.read, normal.tidy, ?_, normal.updated, normal.onClock⟩
    exact (h.own_of_get? there).2.2.created

/-- A record that gets another status is held under its id. -/
theorem setStatus (h : s.Holds live) (clock : now.OnClock)
    (set : s.setStatus id word now = .ok (s', some stored)) : s'.Holds (live.put id stored) := by
  rcases setStatus_eq_ok.mp set with ⟨-, -, none⟩ | ⟨r, status, stored', loaded, -, saved, same⟩
  · cases none
  · cases same
    obtain ⟨-, found⟩ := h.eq_of_load loaded
    obtain ⟨old, there, rfl⟩ := Option.map_eq_some_iff.mp found.symm
    obtain ⟨rfl, -, normal⟩ := h.own_of_get? there
    have fit : Record.Fit { old.kept with status, updatedAt := now } := ⟨normal.read, normal.created⟩
    have held := h.save fit clock saved
    exact held

end Holds

end Store

end Parley
