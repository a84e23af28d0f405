import Parley.Proofs.Studio.History

/-!
# Deleting automations

Three things belong to an automation: its record, its open previews and its runs that wait. When it is deleted,
all of these go at once, and nothing else does. They do not come back, whatever happens then
(`Parley.Studio.deletion_is_final`): a record is only stored under a new id or under one that is live, a preview
is only opened of an automation that is live, and a run only waits after a message to such an automation or
after a run of its own. For the same reasons nothing more is sent of the automation.

What is sent is known from a list that the transport keeps of what it took. The services do not see this list,
and so the runs of previews leave it alone.
-/

namespace Parley

variable {σ α : Type}

/-! ### Previews beside a list -/

namespace Session

/-- The run of a preview leaves alone what the services do not see. -/
theorem snd_runOf_beside (s : Session) (r : Runner σ) (start : Option Start) (w : σ × α) :
    (s.runOf r.beside.stage start w).2.1.2 = w.2 := by
  cases start with
  | none => rfl
  | some start =>
    have watched := r.beside.walker.watched_over.executeAll s.graph.snapshot start.entries start.message
      start.context s.automation (w, [])
    have beside := (r.over_beside w.2).executeAll s.graph.snapshot start.entries start.message start.context
      s.automation w.1
    have world : (s.runOf r.beside.stage start w).2.1 = (_, w.2) := congrArg Prod.snd (watched.symm.trans beside)
    rw [world]

theorem snd_move_beside {s : Session} {r : Runner σ} {everyStep : Bool} {m : Move} {w : σ × α}
    {after : Session × (σ × α)} (done : s.move r.beside.stage everyStep m w = .ok after) : after.2.2 = w.2 := by
  rw [world_of_move done, snd_runOf_beside]

end Session

/-! ### Conversations of other automations -/

/-- Between two lists of what was taken, nothing of an automation was taken. -/
def NothingTaken (automation : String) (before after : List Delivery) : Prop :=
  ∃ sent, after = before ++ sent ∧ ∀ d ∈ sent, d.automation ≠ automation

namespace NothingTaken

variable {automation : String} {first second third : List Delivery}

theorem refl (automation : String) (taken : List Delivery) : NothingTaken automation taken taken :=
  ⟨[], (List.append_nil _).symm, nofun⟩

theorem trans (early : NothingTaken automation first second) (late : NothingTaken automation second third) :
    NothingTaken automation first third := by
  obtain ⟨sent, rfl, others⟩ := early
  obtain ⟨more, rfl, others'⟩ := late
  refine ⟨sent ++ more, List.append_assoc .., fun d mem => ?_⟩
  rcases List.mem_append.mp mem with here | there
  · exact others d here
  · exact others' d there

end NothingTaken

namespace Conversations

variable {c : Conversations} {id : String} {t : Transport σ}

/-- No run of an automation waits. -/
def Without (c : Conversations) (automation : String) : Prop := ∀ p ∈ c.waiting, p.automation ≠ automation

/-- **One event.** If no run of an automation waits, and the event is no message to it, then nothing of it is
sent, and none of its runs waits afterwards. -/
theorem Without.happen (h : c.Without id) (r : Runner σ) (t : Transport σ) (everyStep : Bool) {e : LiveEvent}
    (other : ∀ m, e = .message m → m.automation ≠ id) (w : σ × List Delivery) :
    (c.happen r.beside t.recording everyStep e w).1.Without id ∧
      NothingTaken id w.2 (c.happen r.beside t.recording everyStep e w).2.2 := by
  obtain ⟨after, v, sent, did, ways⟩ := c.happen_cases r t everyStep e w.1 w.2
  rw [show w = (w.1, w.2) from rfl, did]
  rcases ways with ⟨-, rfl, rfl, quiet⟩ | ⟨s, u, unsent, -, -, settled, how⟩
  · refine ⟨fun p mem => h p ?_, [], rfl, nofun⟩
    rw [quiet.waiting] at mem
    exact List.mem_of_mem_filter mem
  · -- the stretch is that of a message to another automation, or of a run that waits
    have own : s.automation ≠ id := by
      rcases how with ⟨m, begins, -⟩ | ⟨p, goes, -⟩
      · rw [begins.automation]
        exact other m begins.event
      · rw [← goes.automation]
        exact h p goes.waits
    have others : ∀ p ∈ c.others s.automation s.recipient, p.automation ≠ id :=
      fun p mem => h p (List.mem_of_mem_filter mem)
    refine ⟨?_, sent, rfl, fun d mem => ?_⟩
    · rcases settled.waiting with ⟨p, waiting, -, leaves⟩ | ⟨waiting, -⟩
      · rw [Without, waiting, List.forall_mem_append, List.forall_mem_singleton, leaves.automation]
        exact ⟨others, own⟩
      · rw [Without, waiting]
        exact others
    · have among : d ∈ s.deliveries := settled.all ▸ List.mem_append_left unsent mem
      obtain ⟨e, -, rfl⟩ := List.mem_map.mp among
      exact own

/-- **Many events**, none of which is a message to the automation. -/
theorem Without.happenAll (h : c.Without id) (r : Runner σ) (t : Transport σ) (everyStep : Bool)
    {events : List LiveEvent} (others : ∀ m, .message m ∈ events → m.automation ≠ id)
    (w : σ × List Delivery) :
    (c.happenAll r.beside t.recording everyStep events w).1.Without id ∧
      NothingTaken id w.2 (c.happenAll r.beside t.recording everyStep events w).2.2 := by
  induction events generalizing c w with
  | nil => exact ⟨h, .refl id w.2⟩
  | cons e rest ih =>
    obtain ⟨still, first⟩ := h.happen r t everyStep (e := e)
      (fun m same => others m (same ▸ List.mem_cons_self)) w
    obtain ⟨last, later⟩ := ih still (fun m mem => others m (List.mem_cons_of_mem e mem)) _
    exact ⟨last, first.trans later⟩

end Conversations

/-! ### What an action is about -/

/-- The automation that an action names, if it names one. -/
def Action.automation? : Action → Option String
  | .fetch id => some id
  | .replace id _ => some id
  | .delete id => some id
  | .inspect id => some id
  | .receive id _ => some id
  | .openPreview id _ => some id
  | _ => none

/-- The preview that an action names, if it names one. -/
def Action.preview? : Action → Option String
  | .fetchPreview id => some id
  | .gesture id _ => some id
  | _ => none

/-- The workshop whose transport also keeps a list of what it took. -/
def Workshop.recording (k : Workshop σ) : Workshop (σ × List Delivery) where
  runner := k.runner.beside
  transport := k.transport.recording
  everyStep := k.everyStep
  longestDelay := k.longestDelay
  typingPause := k.typingPause

namespace Studio

/-- **An automation is gone**, and so are some previews: neither is there any more, and nothing belongs to the
automation. -/
structure Gone (id : String) (closed : List String) (s : Studio) (live : Dict Record) : Prop where
  record : id ∉ live.keys
  waiting : s.conversations.Without id
  previews : ∀ entry ∈ s.previews, entry.2.automation ≠ id
  closed : ∀ preview ∈ closed, preview ∉ s.previews.keys

section Later

variable {k : Workshop σ} {o : Occasion} {s s' : Studio} {live live' : Dict Record}
  {issued closed : List String} {id preview : String} {h : Happening} {a : Action}

/-! ### What is gone stays away -/

/-- **A deed leaves alone what is gone**, and sends nothing of it. -/
theorem Gone.deed {w w' : σ × List Delivery} (gone : Gone id closed s live) (sound : s.Sound live issued)
    (new : o.freshId ≠ id) (new_preview : o.freshId ∉ closed)
    (deed : Deed k.recording o s live w h s' live' w') :
    Gone id closed s' live' ∧ NothingTaken id w.2 w'.2 := by
  have nothing := NothingTaken.refl id w.2
  -- what is live is not gone
  have other {id' : String} {r : Record} (there : live.get? id' = some r) : id' ≠ id := by
    rintro rfl
    exact gone.record (Dict.mem_keys_of_get? there)
  cases deed with
  | nothing => exact ⟨gone, nothing⟩
  | created asked made =>
    refine ⟨⟨fun mem => ?_, gone.waiting, gone.previews, gone.closed⟩, nothing⟩
    rcases Dict.mem_keys_put.mp mem with same | old
    · exact new same.symm
    · exact gone.record old
  | @replaced id' d r g asked there legible made =>
    refine ⟨⟨fun mem => ?_, gone.waiting, fun entry mem => ?_, fun p mem => ?_⟩, nothing⟩
    · rcases Dict.mem_keys_put.mp mem with same | old
      · exact other there same.symm
      · exact gone.record old
    · obtain ⟨old, among, rfl⟩ := List.mem_map.mp mem
      split <;> exact gone.previews old among
    · rw [showing, keys_refresh]
      exact gone.closed p mem
  | deleted asked there =>
    refine ⟨⟨fun mem => ?_, ?_, ?_, fun p mem still => ?_⟩, nothing⟩
    · rw [Dict.keys_erase] at mem
      exact gone.record (List.mem_of_mem_filter mem)
    · exact fun p mem => gone.waiting p (List.mem_of_mem_filter mem)
    · exact fun entry mem => gone.previews entry (List.mem_of_mem_filter mem)
    · obtain ⟨entry, there, rfl⟩ := List.mem_map.mp still
      exact gone.closed _ mem (Dict.mem_keys_of_mem (List.mem_of_mem_filter there))
  | opened asked there made =>
    refine ⟨⟨gone.record, gone.waiting, fun entry mem => ?_, fun p mem still => ?_⟩, nothing⟩
    · rcases (Dict.mem_put sound.distinct).mp mem with rfl | ⟨old, -⟩
      · exact other there
      · exact gone.previews entry old
    · rcases Dict.mem_keys_put.mp still with rfl | old
      · exact new_preview mem
      · exact gone.closed p mem old
  | gestured asked present done =>
    have among := Dict.mem_of_get? present
    refine ⟨⟨gone.record, gone.waiting, fun entry mem => ?_, fun p mem still => ?_⟩, ?_⟩
    · rcases (Dict.mem_put sound.distinct).mp mem with rfl | ⟨old, -⟩
      · rw [(Session.move_keeps done).2]
        exact gone.previews _ among
      · exact gone.previews entry old
    · rcases Dict.mem_keys_put.mp still with rfl | old
      · exact gone.closed p mem (Dict.mem_keys_of_mem among)
      · exact gone.closed p mem old
    · have same := Session.snd_move_beside (r := (k.atTime o.now).runner) done
      rw [same]
      exact nothing
  | conversed time known =>
    have others : ∀ m, LiveEvent.message m ∈ _ → m.automation ≠ id :=
      fun m mem same => gone.record (same ▸ known m mem)
    obtain ⟨waiting, taken⟩ := gone.waiting.happenAll (k.atTime o.now).runner k.transport k.everyStep others w
    exact ⟨⟨gone.record, waiting, gone.previews, gone.closed⟩, taken⟩

/-! ### What is gone is not found -/

/-- **An action that names an automation which is not live** is refused. -/
theorem Sound.act_of_absent (sound : s.Sound live issued) (absent : id ∉ live.keys)
    (named : a.automation? = some id) (w : σ) :
    s.act k o a w = (.error (.refused .noAutomation), s, w) := by
  have missing := sound.find_absent (Dict.get?_eq_none_iff.mpr absent)
  cases a with
  | fetch _ =>
    cases named
    simp only [act, missing]
    rfl
  | replace _ d =>
    cases named
    simp only [act, replace_of_missing missing]
  | delete _ =>
    cases named
    simp only [act, sound.delete_eq, if_neg absent]
  | inspect _ =>
    cases named
    simp only [act, missing]
    rfl
  | receive _ m =>
    cases named
    simp only [act, receive, missing]
    rfl
  | openPreview _ audience =>
    cases named
    simp only [act, openPreview, missing]
    rfl
  | _ => cases named

/-- **An action that names a preview which is not open** is refused. -/
theorem act_of_closed (absent : preview ∉ s.previews.keys) (named : a.preview? = some preview) (w : σ) :
    s.act k o a w = (.error (.refused .noPreview), s, w) := by
  have missing : s.preview preview = .error (.refused .noPreview) := by
    rw [Studio.preview, Dict.get?_eq_none_iff.mpr absent]
  cases a with
  | fetchPreview _ =>
    cases named
    simp only [act, missing]
    rfl
  | gesture _ g =>
    cases named
    simp only [act, gesture, missing]
    rfl
  | _ => cases named

/-- Only live records are listed. -/
theorem Sound.mem_keys_of_list (sound : s.Sound live issued) {records : List Record}
    (listed : s.store.list = .ok records) {r : Record} (mem : r ∈ records) : r.id ∈ live.keys := by
  by_cases legible : ∀ entry ∈ live, entry.2.Legible
  · obtain ⟨found, same, perm⟩ := sound.holds.list_legible legible
    obtain rfl := Except.ok.inj (listed.symm.trans same)
    obtain ⟨entry, there, rfl⟩ := List.mem_map.mp (perm.mem_iff.mp mem)
    rw [Record.id_kept, (sound.holds.own entry there).1]
    exact Dict.mem_keys_of_mem there
  · push Not at legible
    obtain ⟨issues, fails⟩ := sound.holds.list_illegible legible
    cases listed.symm.trans fails

/-- **What is gone stays away**, whatever happens, and nothing is sent of it. -/
theorem Gone.later (k : Workshop σ) (gone : Gone id closed s live) (sound : s.Sound live issued)
    (named : id ∈ issued) (known : closed ⊆ issued) {history : List (Occasion × Happening)}
    (proper : ∀ h ∈ history, h.1.Proper) (fresh : (history.map (·.1.freshId)).Nodup)
    (new : ∀ h ∈ history, h.1.freshId ∉ issued) (w : σ × List Delivery) :
    ∃ live' issued', (s.happenings k.recording history w).1.Sound live' issued' ∧
      Gone id closed (s.happenings k.recording history w).1 live' ∧
      NothingTaken id w.2 (s.happenings k.recording history w).2.2 := by
  obtain ⟨live', sound', still⟩ := happenings_induction
    (motive := fun s live (v : σ × List Delivery) => Gone id closed s live ∧ NothingTaken id w.2 v.2) sound
    ⟨gone, .refl id w.2⟩ proper fresh new fun {_ _ _ _ o _ _ _ _} sound _ _ mem deed before => by
      have unknown := new _ mem
      have apart : o.freshId ≠ id := fun same => unknown (same ▸ named)
      obtain ⟨after, taken⟩ := before.1.deed sound apart (fun again => unknown (known again)) deed
      exact ⟨after, before.2.trans taken⟩
  exact ⟨live', _, sound', still⟩

/-- **A request for what is gone** is answered that it is not found. -/
theorem Gone.handle (gone : Gone id closed s live) (sound : s.Sound live issued) {request : Request}
    (understood : request.action = .ok a)
    (about : a.automation? = some id ∨ ∃ preview ∈ closed, a.preview? = some preview) (w : σ) :
    ∃ reason : Refusal, reason.status = 404 ∧ s.handle k o request w = (.ok reason.answer, s, w) := by
  rcases about with named | ⟨preview, mem, named⟩
  · exact ⟨.noAutomation, rfl, handle_of_error understood (sound.act_of_absent gone.record named w)⟩
  · exact ⟨.noPreview, rfl, handle_of_error understood (act_of_closed (gone.closed preview mem) named w)⟩

/-- **What is gone is not listed.** -/
theorem Gone.list (gone : Gone id closed s live) (sound : s.Sound live issued) {request : Request}
    (understood : request.action = .ok .listAutomations) {w : σ} {answer : Answer}
    (answered : (s.handle k o request w).1 = .ok answer) :
    ∃ records : List Record, answer = ⟨200, .list (records.map Record.write)⟩ ∧
      ∀ r ∈ records, r.id ≠ id := by
  cases listed : s.store.list with
  | error e =>
    have acts : s.act k o .listAutomations w = (.error (.failed (.store e)), s, w) := by
      rw [act, Studio.list, listed]
      rfl
    rw [handle_of_error understood acts] at answered
    cases answered
  | ok records =>
    have acts : s.act k o .listAutomations w = (.ok ⟨200, .list (records.map Record.write)⟩, s, w) := by
      rw [act, Studio.list, listed]
      rfl
    rw [handle_of_ok understood acts] at answered
    refine ⟨records, ?_, fun r mem same => gone.record (same ▸ sound.mem_keys_of_list listed mem)⟩
    dsimp only [Answer.written] at answered
    split at answered
    · exact (Except.ok.inj answered).symm
    · cases answered

end Later

/-! ### Deletion -/

/-- What is stored of other automations is untouched by a deletion. -/
theorem load_without (s : Studio) {id other : String} (apart : other ≠ id) :
    (s.without id).store.load other = s.store.load other := by
  cases valid : Store.isValidId other with
  | true =>
    rw [Store.load_eq valid, Store.load_eq valid, without, Dict.get?_erase,
      if_neg (mt (String.append_left_inj Store.ending).mp apart)]
  | false => rw [Store.load, Store.load, Store.fileName, if_neg (Bool.eq_false_iff.mp valid)]; rfl

/-- The previews of an automation. -/
def previewsOf (s : Studio) (automation : String) : List String :=
  Dict.keys (s.previews.filter fun entry => entry.2.automation == automation)

/-- Once it is deleted, an automation is gone with its previews. -/
theorem Sound.gone {s : Studio} {live : Dict Record} {issued : List String} (sound : s.Sound live issued)
    (id : String) : Gone id (s.previewsOf id) (s.without id) (live.erase id) where
  record mem := by
    rw [Dict.keys_erase] at mem
    simpa using (List.mem_filter.mp mem).2
  waiting p mem := by simpa using (List.mem_filter.mp mem).2
  previews entry mem := by simpa using (List.mem_filter.mp mem).2
  closed preview mem still := by
    -- a preview has one id, so it would be one of the automation and of another one
    obtain ⟨own, there, rfl⟩ := List.mem_map.mp mem
    obtain ⟨other, among, same⟩ := List.mem_map.mp still
    obtain ⟨there, is_own⟩ := List.mem_filter.mp there
    obtain ⟨among, is_other⟩ := List.mem_filter.mp among
    obtain rfl := List.inj_on_of_nodup_map sound.distinct among there same
    simp [beq_iff_eq.mp is_own] at is_other

/-- **An answer that an automation was deleted** is given only if it was live, and then it is deleted. -/
theorem Sound.deleted_of_handle {s : Studio} {live : Dict Record} {issued : List String}
    (sound : s.Sound live issued) {k : Workshop σ} {o : Occasion} {request : Request} {id : String} {w : σ}
    (asked : request.action = .ok (.delete id)) {answer : Answer}
    (answered : (s.handle k o request w).1 = .ok answer) (success : answer.status = 200) :
    id ∈ live.keys ∧ (s.handle k o request w).2 = (s.without id, w) := by
  by_cases there : id ∈ live.keys
  · refine ⟨there, ?_⟩
    rw [handle_snd asked]
    simp only [act, sound.delete_eq, if_pos there]
  · have refused := handle_of_error asked (sound.act_of_absent (k := k) (o := o) there rfl w)
    rw [refused] at answered
    cases answered
    cases success

/-- **Deletion is final.** After any history from the start on, an automation is deleted, and then anything may
happen. The deletion closes the previews of the automation and cancels its runs that wait; all other previews,
waiting runs and records are untouched, and nothing is sent. Afterwards no run of the automation waits and
nothing of it is sent; no list shows it, and a request that names it or one of its previews is answered that it
is not found. -/
theorem deletion_is_final (k : Workshop σ) (before after : List (Occasion × Happening)) (o : Occasion)
    (request : Request) (id : String) (w₀ : σ)
    (proper : ∀ h ∈ before ++ (o, .request request) :: after, h.1.Proper)
    (fresh : ((before ++ (o, .request request) :: after).map (·.1.freshId)).Nodup)
    (asked : request.action = .ok (.delete id)) :
    let s := (happenings {} k.recording before (w₀, [])).1
    let w := (happenings {} k.recording before (w₀, [])).2
    let done := s.handle (k.recording.atTime o.now) o request w
    let later := happenings done.2.1 k.recording after done.2.2
    ∀ answer, done.1 = .ok answer → answer.status = 200 →
      (done.2.1.previews = s.previews.filter (fun entry => entry.2.automation != id) ∧
        done.2.1.conversations.waiting = s.conversations.waiting.filter (fun p => p.automation != id) ∧
        (∀ other ≠ id, done.2.1.store.load other = s.store.load other) ∧ done.2.2 = w) ∧
      (∀ p ∈ later.1.conversations.waiting, p.automation ≠ id) ∧
      (∃ sent, later.2.2 = w.2 ++ sent ∧ ∀ d ∈ sent, d.automation ≠ id) ∧
      ∀ now next,
        let answered := later.1.handle (k.recording.atTime now.now) now next later.2
        (next.action = .ok .listAutomations → ∀ answer, answered.1 = .ok answer →
          ∃ records : List Record, answer = ⟨200, .list (records.map Record.write)⟩ ∧
            ∀ r ∈ records, r.id ≠ id) ∧
        ∀ a, next.action = .ok a →
          (a.automation? = some id ∨ ∃ preview ∈ s.previewsOf id, a.preview? = some preview) →
          ∃ reason : Refusal, reason.status = 404 ∧ answered = (.ok reason.answer, later) := by
  intro s w done later answer answered success
  rw [List.map_append, List.map_cons, List.nodup_append] at fresh
  obtain ⟨fresh_before, fresh_after, apart⟩ := fresh
  obtain ⟨-, fresh_later⟩ := List.nodup_cons.mp fresh_after
  rw [List.forall_mem_append, List.forall_mem_cons] at proper
  obtain ⟨live, sound⟩ := sound_of_happenings k.recording (w₀, []) proper.1 fresh_before
  obtain ⟨there, deleted⟩ := sound.deleted_of_handle asked answered success
  obtain ⟨studio, world⟩ : done.2.1 = s.without id ∧ done.2.2 = w := Prod.ext_iff.mp deleted
  have closed : s.previewsOf id ⊆ (before.map (·.1.freshId)).reverse := by
    intro preview mem
    obtain ⟨entry, among, rfl⟩ := List.mem_map.mp mem
    exact sound.issuedOpen _ (Dict.mem_keys_of_mem (List.mem_of_mem_filter among))
  have new : ∀ h ∈ after, h.1.freshId ∉ (before.map (·.1.freshId)).reverse := by
    intro h mem old
    exact apart _ (List.mem_reverse.mp old) _ (List.mem_cons_of_mem _ (List.mem_map_of_mem mem)) rfl
  obtain ⟨live', issued', sound', gone, taken⟩ := (sound.gone id).later k (sound.deleted id)
    (sound.issuedLive id there) closed proper.2.2 fresh_later new w
  have later_eq : later = happenings (s.without id) k.recording after w := by
    show happenings done.2.1 k.recording after done.2.2 = _
    rw [studio, world]
  rw [← later_eq] at sound' gone taken
  refine ⟨⟨?_, ?_, ?_, world⟩, gone.waiting, taken, fun now next => ⟨?_, ?_⟩⟩
  · exact congrArg Studio.previews studio
  · exact congrArg (fun s => s.conversations.waiting) studio
  · intro other apart
    rw [studio]
    exact s.load_without apart
  · intro understood _ listed
    exact gone.list sound' understood listed
  · intro a understood about
    exact gone.handle sound' understood about later.2

/-- A preview is closed with its automation, and stays closed when a message comes in. -/
theorem deletion_is_final_rehearsal :
    let k := idle.recording
    let s := (happenings {} k rehearsal (0, [])).1
    let w := (happenings {} k rehearsal (0, [])).2
    let o : Occasion := ⟨⟨3, none⟩, "four"⟩
    let done := s.handle (k.atTime o.now) o { method := "DELETE", path := ["api", "automations", "one"] } w
    let message : Request :=
      { method := "POST", path := ["api", "automations", "one", "inbound"]
        body := .dict [("recipient", .str "you"), ("text", .str "hi")] }
    let later := happenings done.2.1 k [(⟨⟨4, none⟩, "five"⟩, .request message)] done.2.2
    s.previewsOf "one" = ["two"] ∧ ∃ reason : Refusal, reason.status = 404 ∧
      later.1.handle (k.atTime ⟨5, none⟩) ⟨⟨5, none⟩, "six"⟩
        { method := "GET", path := ["api", "preview", "two"] } later.2 = (.ok reason.answer, later) := by
  intro k s w o done message later
  have opened : s.previewsOf "one" = ["two"] := by decide +kernel
  have of_check : ∀ result : Except Fault Answer,
      (match result with
        | .ok answer => answer.status == 200
        | .error _ => false) = true → ∃ answer, result = .ok answer ∧ answer.status = 200 := by
    intro result check
    split at check
    · exact ⟨_, rfl, beq_iff_eq.mp check⟩
    · cases check
  obtain ⟨answer, answered, success⟩ := of_check done.1 (by decide +kernel)
  obtain ⟨-, -, -, final⟩ := deletion_is_final idle rehearsal [(⟨⟨4, none⟩, "five"⟩, .request message)] o
    { method := "DELETE", path := ["api", "automations", "one"] } "one" 0 (by decide +kernel)
    (by decide +kernel) rfl answer answered success
  obtain ⟨-, missing⟩ := final ⟨⟨5, none⟩, "six"⟩ { method := "GET", path := ["api", "preview", "two"] }
  have among : "two" ∈ s.previewsOf "one" := by
    rw [opened]
    exact List.mem_singleton_self _
  have understood : Request.action { method := "GET", path := ["api", "preview", "two"] } =
      .ok (.fetchPreview "two") := rfl
  obtain ⟨reason, status, same⟩ := missing (.fetchPreview "two") understood (.inr ⟨"two", among, rfl⟩)
  refine ⟨opened, reason, status, ?_⟩
  dsimp only [later, done, s, w, k]
  exact same

end Studio

end Parley
