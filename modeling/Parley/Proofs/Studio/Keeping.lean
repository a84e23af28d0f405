import Parley.Proofs.Live.Clock
import Parley.Proofs.Store.Calls
import Parley.Proofs.Store.Graphs
import Parley.Studio.Handle

/-!
# What the studio keeps

A studio that is *sound* (`Parley.Studio.Sound`) holds some records, each with a graph, and has a preview or a
waiting run at most once; all its ids were issued before. What it finds then depends on the records alone
(`Parley.Studio.Sound.find_eq_ok`), and so does what it does when an automation is created, replaced or deleted:
a draft that makes a graph is stored without fail. Whatever is done to a sound studio keeps it sound.
-/

namespace Parley

open Reading

/-! ### Records and drafts -/

/-- A record as a studio stores it: it has a graph, and the settings of its trigger hold no infinite number. -/
structure Record.Stored (r : Record) : Prop where
  graph : ∃ g, Graph.ofRecord r = .ok g
  settings : Value.fieldsFinite r.triggerConfig = true

/-- What a request can find: the time of the clock of the store, and an id that may stand in a file name. -/
structure Occasion.Proper (o : Occasion) : Prop where
  clock : o.now.OnClock
  valid : Store.isValidId o.freshId = true

theorem Occasion.proper_iff {o : Occasion} : o.Proper ↔ o.now.ahead = none ∧
    Moment.InCalendar (o.now.clock.fdiv Moment.dayLength) ∧ Store.isValidId o.freshId = true := by
  refine ⟨fun h => ⟨h.clock.2, h.clock.1.clock, h.valid⟩, fun ⟨local_, days, valid⟩ => ?_⟩
  exact ⟨⟨⟨days, fun _ known => by cases local_.symm.trans known⟩, local_⟩, valid⟩

instance (o : Occasion) : Decidable o.Proper := decidable_of_iff' _ Occasion.proper_iff

namespace Draft

/-- The record that begins with a draft. -/
def begun (d : Draft) (o : Occasion) : Record :=
  { id := o.freshId, name := d.name, description := d.description, status := d.status
    createdAt := o.now, updatedAt := o.now }

/-- The record that a draft makes of one that is there. -/
def revised (d : Draft) (r : Record) : Record :=
  { r with name := d.name, description := d.description, status := d.status }

end Draft

namespace Studio

/-- The graph of a draft: it is built from the steps of the draft, apart from where they lead. -/
structure Drafted (d : Draft) (g : Graph) : Prop where
  whole : g.Whole
  mutable : g.frozen = false
  built : g.Built
  steps : ∀ s ∈ g.steps, ∃ fs ∈ d.workflow, ∃ t, Step.reader (.dict fs) = .ok t ∧ s.detached = t.detached

theorem drafted_of_graphOf {d : Draft} {g : Graph} (h : graphOf d = .ok g) : Drafted d g := by
  have built : Graph.build (d.workflow.map fun fs => Step.reader (.dict fs)) d.connections = .ok g := by
    unfold graphOf at h
    split at h
    · rename_i eq
      cases h
      exact eq
    · cases h
    · cases h
  refine ⟨Graph.whole_of_build built, Graph.frozen_of_build built,
    Graph.built_of_build built fun r mem => ?_, fun s mem => ?_⟩
  · obtain ⟨fs, -, rfl⟩ := List.mem_map.mp mem
    exact ⟨_, rfl⟩
  · obtain ⟨t, among, same⟩ := Graph.exists_of_build built mem
    obtain ⟨fs, there, read⟩ := List.mem_map.mp among
    exact ⟨fs, there, t, read, same⟩

/-- **Why a draft makes no graph**: it would break, a step of it cannot be read, or a step is without a kind. -/
theorem graphOf_eq_error {d : Draft} {t : Trouble} (h : graphOf d = .error t) :
    (∃ reason : Refusal, t = .refused reason ∧ reason.status = 422) ∨
      t = .failed .untaggable ∧ ∃ fs ∈ d.workflow, Step.hasKind fs = false := by
  unfold graphOf at h
  split at h
  · cases h
  · cases h
    exact .inl ⟨_, rfl, rfl⟩
  · rename_i issues eq
    cases kind : Issue.untaggable? issues with
    | false =>
      rw [kind] at h
      cases h
      exact .inl ⟨_, rfl, rfl⟩
    | true =>
      rw [kind] at h
      cases h
      refine .inr ⟨rfl, ?_⟩
      obtain ⟨fs, there, bad⟩ := List.mem_map.mp (Graph.exists_of_build_unreadable eq)
      refine ⟨fs, there, Bool.eq_false_iff.mpr fun kinded => ?_⟩
      exact Bool.false_ne_true ((Step.reader_tame_iff.mpr kinded issues bad).symm.trans kind)

/-! ### Sound studios -/

/-- **A sound studio** that holds some records, after some ids were issued. -/
structure Sound (s : Studio) (live : Dict Record) (issued : List String) : Prop where
  holds : s.store.Holds live
  stored : ∀ entry ∈ live, entry.2.Stored
  /-- No two previews have the same id. -/
  distinct : s.previews.keys.Nodup
  /-- No two runs wait in the same conversation. -/
  single : s.conversations.pending.Nodup
  issuedLive : ∀ id ∈ live.keys, id ∈ issued
  issuedOpen : ∀ id ∈ s.previews.keys, id ∈ issued

theorem Sound.empty : Sound {} [] [] :=
  ⟨Store.Holds.empty, nofun, List.nodup_nil, List.nodup_nil, nofun, nofun⟩

namespace Sound

variable {s : Studio} {live : Dict Record} {issued more : List String} {id : String} {r : Record} {g : Graph}
  {d : Draft} {o : Occasion}

/-- More ids may be issued. -/
theorem mono (h : s.Sound live issued) (sub : issued ⊆ more) : s.Sound live more :=
  { h with issuedLive := fun id mem => sub (h.issuedLive id mem)
           issuedOpen := fun id mem => sub (h.issuedOpen id mem) }

theorem stored_of_get? (h : s.Sound live issued) (there : live.get? id = some r) : r.Stored :=
  h.stored _ (Dict.mem_of_get? there)

/-- A record that is legible is loaded as it is. -/
theorem load_legible (h : s.Sound live issued) (there : live.get? id = some r) (legible : r.Legible) :
    s.store.load id = .ok (some r) := by
  have kept := Record.kept_eq_self_iff.mpr (h.stored_of_get? there).settings
  rw [h.holds.load_legible there legible, kept]

/-! ### Finding automations -/

/-- What is not live is not there. -/
theorem find_absent (h : s.Sound live issued) (absent : live.get? id = none) :
    s.find id = .error (.refused .noAutomation) := by
  rw [find, h.holds.loadGraph_absent absent]
  cases valid : Store.isValidId id with
  | true => rw [if_pos rfl]
  | false =>
    rw [if_neg Bool.false_ne_true]
    exact congrArg Except.error (if_pos rfl)

/-- A record that is not legible counts as one that is not there. -/
theorem find_illegible (h : s.Sound live issued) (there : live.get? id = some r) (illegible : ¬r.Legible) :
    s.find id = .error (.refused .noAutomation) := by
  obtain ⟨issues, fails, kinds⟩ := h.holds.loadGraph_illegible there illegible
  rw [find, fails]
  exact congrArg Except.error (if_pos (by rw [isAbsence, kinds]; rfl))

/-- **An automation is found** exactly if its record is live and legible. -/
theorem find_eq_ok (h : s.Sound live issued) :
    s.find id = .ok (r, g) ↔ live.get? id = some r ∧ r.Legible ∧ Graph.ofRecord r = .ok g := by
  refine ⟨fun found => ?_, ?_⟩
  · cases there : live.get? id with
    | none => cases (h.find_absent there).symm.trans found
    | some old =>
      by_cases legible : old.Legible
      · obtain ⟨⟨back, made⟩, settings⟩ := h.stored_of_get? there
        rw [find, h.holds.loadGraph_legible there legible settings made] at found
        cases found
        exact ⟨rfl, legible, made⟩
      · cases (h.find_illegible there legible).symm.trans found
  · rintro ⟨there, legible, made⟩
    rw [find, h.holds.loadGraph_legible there legible (h.stored_of_get? there).settings made]

/-- An automation that is not found counts as one that is not there. -/
theorem find_eq_error (h : s.Sound live issued) {t : Trouble} (missing : s.find id = .error t) :
    t = .refused .noAutomation := by
  cases there : live.get? id with
  | none => exact Except.error.inj (missing.symm.trans (h.find_absent there))
  | some old =>
    by_cases legible : old.Legible
    · obtain ⟨back, made⟩ := (h.stored_of_get? there).graph
      cases (h.find_eq_ok.mpr ⟨there, legible, made⟩).symm.trans missing
    · exact Except.error.inj (missing.symm.trans (h.find_illegible there legible))

/-- Nothing can be loaded under an id under which no automation is found. -/
theorem load_ne_some (h : s.Sound live issued) {t : Trouble} (missing : s.find id = .error t) (r : Record) :
    s.store.load id ≠ .ok (some r) := by
  intro loaded
  obtain ⟨-, same⟩ := h.holds.eq_of_load loaded
  obtain ⟨old, there, -⟩ := Option.map_eq_some_iff.mp same.symm
  by_cases legible : old.Legible
  · obtain ⟨g, made⟩ := (h.stored_of_get? there).graph
    cases (h.find_eq_ok.mpr ⟨there, legible, made⟩).symm.trans missing
  · obtain ⟨issues, fails⟩ := h.holds.load_illegible there legible
    cases fails.symm.trans loaded

end Sound

/-! ### Storing graphs -/

section Storing

variable {s : Studio} {r : Record} {g : Graph} {d : Draft} {o : Occasion} {id : String} {t : Trouble}

/-- The studio with a record stored. -/
def storing (s : Studio) (r : Record) : Studio := { s with store := s.store.put (r.id ++ Store.ending) r }

/-- The studio with the previews of an automation showing another graph. -/
def showing (s : Studio) (id : String) (g : Graph) : Studio :=
  { s with previews := refresh s.previews id g }

/-- The studio without an automation: its previews are closed, and its runs that wait are cancelled. -/
def without (s : Studio) (id : String) : Studio where
  store := { s.store with files := s.store.files.erase (id ++ Store.ending) }
  conversations := (s.conversations.cancelAutomation id).2
  previews := s.previews.filter fun entry => entry.2.automation != id

/-- The graph of a draft is stored, if what is found under its id can be read. -/
theorem Drafted.saveGraph_eq (made : Drafted d g) {store : Store} (valid : Store.isValidId r.id = true)
    (created : r.createdAt.Valid) {now : Moment} (clock : now.OnClock) {found : Option Record}
    (loaded : store.load r.id = .ok found) :
    store.saveGraph r g now =
      .ok (store.put (r.id ++ Store.ending) (g.stored r now found), g.stored r now found) :=
  (Store.saveGraph_eq_ok made.built made.whole made.mutable created clock).mpr
    ⟨valid, found, loaded, rfl, rfl⟩

/-- **A graph of a draft is stored without fail**, if what is found under its id can be read. -/
theorem save_eq (made : Drafted d g) (valid : Store.isValidId r.id = true) (created : r.createdAt.Valid)
    {now : Moment} (clock : now.OnClock) {found : Option Record} (loaded : s.store.load r.id = .ok found) :
    s.save r g now = .ok (s.storing (g.stored r now found), g.stored r now found) := by
  unfold save
  rw [made.saveGraph_eq valid created clock loaded]
  dsimp only
  rw [storing, Graph.id_stored]

theorem create_of_error (fails : graphOf d = .error t) : s.create d o = .error t := by
  rw [create, fails]
  rfl

theorem replace_of_missing (missing : s.find id = .error t) : s.replace id d o = .error t := by
  rw [replace, missing]
  rfl

theorem replace_of_error {found : Record × Graph} (there : s.find id = .ok found)
    (fails : graphOf d = .error t) : s.replace id d o = .error t := by
  unfold replace
  rw [there, Except.ok_bind]
  dsimp only
  rw [fails]
  rfl

theorem keys_refresh (previews : Dict Session) (id : String) (g : Graph) :
    (refresh previews id g).keys = previews.keys := by
  rw [refresh, Dict.keys, Dict.keys, List.map_map]
  refine List.map_congr_left fun entry _ => ?_
  rw [Function.comp_apply]
  split <;> rfl

end Storing

/-! ### Creating, replacing and deleting automations -/

namespace Sound

variable {s : Studio} {live : Dict Record} {issued : List String} {id : String} {r : Record} {g : Graph}
  {d : Draft} {o : Occasion}

/-- A studio in which a graph of a draft is stored is sound. -/
theorem storing (h : s.Sound live issued) (made : Drafted d g) (valid : Store.isValidId r.id = true)
    (created : r.createdAt.Valid) (settings : Value.fieldsFinite r.triggerConfig = true) {now : Moment}
    (clock : now.OnClock) (known : r.id ∈ issued) {found : Option Record}
    (loaded : s.store.load r.id = .ok found) :
    (s.storing (g.stored r now found)).Sound (live.put r.id (g.stored r now found)) issued := by
  have saved := made.saveGraph_eq valid created clock loaded
  refine ⟨?_, fun entry mem => ?_, h.distinct, h.single, fun id mem => ?_, h.issuedOpen⟩
  · rw [Studio.storing, Graph.id_stored]
    exact h.holds.saveGraph made.built created clock saved
  · rcases (Dict.mem_put h.holds.distinct).mp mem with rfl | ⟨old, -⟩
    · exact ⟨⟨_, made.whole.ofRecord_stored made.mutable⟩, Graph.finite_triggerConfig_stored settings⟩
    · exact h.stored entry old
  · rcases Dict.mem_keys_put.mp mem with rfl | old
    · exact known
    · exact h.issuedLive id old

/-- Nothing is found under a new id. -/
theorem load_fresh (h : s.Sound live issued) (proper : o.Proper) (fresh : o.freshId ∉ issued) :
    s.store.load o.freshId = .ok none :=
  h.holds.load_none proper.valid (Dict.get?_eq_none_iff.mpr fun mem => fresh (h.issuedLive _ mem))

/-- **What creating an automation does**, if the draft makes a graph. -/
theorem create_eq (h : s.Sound live issued) (proper : o.Proper) (fresh : o.freshId ∉ issued)
    (made : graphOf d = .ok g) :
    s.create d o =
      .ok (s.storing (g.stored (d.begun o) o.now none), g.stored (d.begun o) o.now none) := by
  have stores := save_eq (r := d.begun o) (drafted_of_graphOf made) proper.valid proper.clock.1 proper.clock
    (h.load_fresh proper fresh)
  unfold create
  rw [made, Except.ok_bind]
  exact stores

theorem created (h : s.Sound live issued) (proper : o.Proper) (fresh : o.freshId ∉ issued)
    (made : graphOf d = .ok g) :
    (s.storing (g.stored (d.begun o) o.now none)).Sound
      (live.put o.freshId (g.stored (d.begun o) o.now none)) (o.freshId :: issued) := by
  have more := h.mono (List.subset_cons_self o.freshId issued)
  exact more.storing (r := d.begun o) (drafted_of_graphOf made) proper.valid proper.clock.1 rfl proper.clock
    List.mem_cons_self (h.load_fresh proper fresh)

/-- **What replacing an automation does**, if it is there and the draft makes a graph. -/
theorem replace_eq (h : s.Sound live issued) (clock : o.now.OnClock) (there : live.get? id = some r)
    (legible : r.Legible) (made : graphOf d = .ok g) :
    s.replace id d o = .ok ((s.storing (g.stored (d.revised r) o.now (some r))).showing id g,
      g.stored (d.revised r) o.now (some r)) := by
  obtain ⟨back, found⟩ := (h.stored_of_get? there).graph
  obtain ⟨rfl, valid, normal⟩ := h.holds.own_of_get? there
  have stores := save_eq (r := d.revised r) (drafted_of_graphOf made) valid normal.created clock
    (h.load_legible there legible)
  unfold replace
  rw [h.find_eq_ok.mpr ⟨there, legible, found⟩, Except.ok_bind]
  dsimp only
  rw [made, Except.ok_bind]
  exact congrArg (· >>= _) stores

theorem replaced (h : s.Sound live issued) (clock : o.now.OnClock) (there : live.get? id = some r)
    (legible : r.Legible) (made : graphOf d = .ok g) :
    ((s.storing (g.stored (d.revised r) o.now (some r))).showing id g).Sound
      (live.put id (g.stored (d.revised r) o.now (some r))) issued := by
  obtain ⟨rfl, valid, normal⟩ := h.holds.own_of_get? there
  have stored := h.storing (r := d.revised r) (drafted_of_graphOf made) valid normal.created
    (h.stored_of_get? there).settings clock (h.issuedLive _ (Dict.mem_keys_of_get? there))
    (h.load_legible there legible)
  have same := keys_refresh s.previews r.id g
  exact ⟨stored.holds, stored.stored, same ▸ h.distinct, h.single, stored.issuedLive,
    fun id mem => h.issuedOpen id (same ▸ mem)⟩

/-- **What deleting an automation does**: it is there to be deleted exactly if it is live. -/
theorem delete_eq (h : s.Sound live issued) : s.delete id =
    if id ∈ live.keys then .ok (s.without id, (s.conversations.cancelAutomation id).1)
    else .error (.refused .noAutomation) := by
  have has : s.store.files.has (id ++ Store.ending) = live.has id := by
    rw [h.holds.files, Store.has_filesOf]
  by_cases there : id ∈ live.keys
  · obtain ⟨r, at_id⟩ := Dict.mem_keys_iff.mp there
    have valid := (h.holds.own_of_get? at_id).2.1
    have present : true = s.store.files.has (id ++ Store.ending) :=
      (has.trans (Dict.has_iff_mem_keys.mpr there)).symm
    rw [if_pos there, delete, Store.delete_eq_ok.mpr ⟨valid, rfl, present⟩]
    rfl
  · rw [if_neg there, delete]
    split
    · rename_i store deleted
      obtain ⟨-, -, present⟩ := Store.delete_eq_ok.mp deleted
      exact absurd (Dict.has_iff_mem_keys.mp (has ▸ present.symm)) there
    · rfl

theorem deleted (h : s.Sound live issued) (id : String) : (s.without id).Sound (live.erase id) issued where
  holds := h.holds.erase id
  stored entry mem := h.stored entry (Dict.mem_erase.mp mem).1
  distinct := h.distinct.sublist (List.Sublist.map _ List.filter_sublist)
  single := h.single.sublist (List.Sublist.map _ List.filter_sublist)
  issuedLive id mem := by
    rw [Dict.keys_erase] at mem
    exact h.issuedLive id (List.mem_of_mem_filter mem)
  issuedOpen id mem := by
    obtain ⟨entry, there, rfl⟩ := List.mem_map.mp mem
    exact h.issuedOpen _ (Dict.mem_keys_of_mem (List.mem_of_mem_filter there))

/-! ### Previews and conversations -/

/-- A preview is opened under a new id, or goes on under its own. -/
theorem shown (h : s.Sound live issued) (session : Session) (known : id ∈ issued) :
    Sound { s with previews := s.previews.put id session } live issued := by
  refine ⟨h.holds, h.stored, Dict.nodup_keys_put h.distinct, h.single, h.issuedLive, fun other mem => ?_⟩
  rcases Dict.mem_keys_put.mp mem with rfl | old
  · exact known
  · exact h.issuedOpen other old

/-- Conversations go on, and still no two runs wait in the same one. -/
theorem conversed (h : s.Sound live issued) {conversations : Conversations}
    (single : conversations.pending.Nodup) : Sound { s with conversations } live issued :=
  { h with single }

end Sound

end Studio

end Parley
