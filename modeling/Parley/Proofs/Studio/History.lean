import Parley.Proofs.Preview.Answers
import Parley.Proofs.Studio.Keeping

/-!
# What happens to the studio

Requests arrive one at a time, delays are over and time passes; each of these finds an occasion, with the time
of the clock and an id that was not issued before. All that can come of it is listed by `Parley.Studio.Deed`:
one way for each thing that the studio does, with what is stored before and after. That nothing else comes of
it (`Parley.Studio.Sound.deed`) is the one place where the handling of requests is opened; what holds
of all histories is then shown deed by deed (`Parley.Studio.happenings_induction`).
-/

namespace Parley

variable {σ : Type}

/-! ### Happenings -/

/-- What can happen to a studio. -/
inductive Happening where
  | request (r : Request)
  /-- The delay is over at which a run waits in a conversation. -/
  | delayOver (automation recipient : String)
  /-- The clock of the conversations moves. -/
  | pass (seconds : Float)

/-- The action that is asked for, if one is. -/
def Happening.action? : Happening → Option Action
  | request r => r.action.toOption
  | delayOver .. => none
  | pass _ => none

/-- The draft of an automation that comes with an action, if one does. -/
def Action.draft? : Action → Option Draft
  | .create d => some d
  | .replace _ d => some d
  | _ => none

/-- The workshop at some time. -/
def Workshop.atTime (k : Workshop σ) (now : Moment) : Workshop σ :=
  { k with runner := { k.runner with now } }

/-- What a user does, as a move in a preview. -/
def Gesture.move : Gesture → Session.Move
  | send text => .send text
  | click entry index => .click entry index
  | fire integration event payload => .fire integration event payload

namespace Studio

/-- Takes what happens on an occasion. -/
def happen (s : Studio) (k : Workshop σ) (o : Occasion) (h : Happening) (w : σ) : Studio × σ :=
  let k := k.atTime o.now
  match h with
  | .request r => (s.handle k o r w).2
  | .delayOver automation recipient =>
    let (conversations, w) :=
      s.conversations.happen k.runner k.transport k.everyStep (.delayOver automation recipient) w
    ({ s with conversations }, w)
  | .pass seconds => s.advance k seconds w

/-- Takes what happens on one occasion after the other. -/
def happenings (s : Studio) (k : Workshop σ) (history : List (Occasion × Happening)) (w : σ) : Studio × σ :=
  history.foldl (fun at_ h => at_.1.happen k h.1 h.2 at_.2) (s, w)

theorem perform_eq_move (session : Session) (k : Workshop σ) (g : Gesture) (w : σ) :
    perform session k g w = session.move k.runner.stage k.everyStep g.move w := by
  cases g <;> rfl

/-! ### Deeds -/

/-- **All that can come of what happens on an occasion**, with the records that are live before and after. -/
inductive Deed (k : Workshop σ) (o : Occasion) (s : Studio) (live : Dict Record) (w : σ) :
    Happening → Studio → Dict Record → σ → Prop where
  | nothing (h : Happening) : Deed k o s live w h s live w
  | created {h : Happening} {d : Draft} {g : Graph} (asked : h.action? = some (.create d))
      (made : graphOf d = .ok g) :
      Deed k o s live w h (s.storing (g.stored (d.begun o) o.now none))
        (live.put o.freshId (g.stored (d.begun o) o.now none)) w
  | replaced {h : Happening} {id : String} {d : Draft} {r : Record} {g : Graph}
      (asked : h.action? = some (.replace id d)) (there : live.get? id = some r) (legible : r.Legible)
      (made : graphOf d = .ok g) :
      Deed k o s live w h ((s.storing (g.stored (d.revised r) o.now (some r))).showing id g)
        (live.put id (g.stored (d.revised r) o.now (some r))) w
  | deleted {h : Happening} {id : String} (asked : h.action? = some (.delete id)) (there : id ∈ live.keys) :
      Deed k o s live w h (s.without id) (live.erase id) w
  | opened {h : Happening} {id : String} {audience : Audience} {r : Record} {g : Graph}
      (asked : h.action? = some (.openPreview id audience)) (there : live.get? id = some r)
      (made : Graph.ofRecord r = .ok g) :
      Deed k o s live w h
        { s with
          previews := s.previews.put o.freshId (newPreview (k.atTime o.now) id g audience o.freshId) }
        live w
  | gestured {h : Happening} {id : String} {gesture : Gesture} {before after : Session} {w' : σ}
      (asked : h.action? = some (.gesture id gesture)) (present : s.previews.get? id = some before)
      (done : before.move (k.atTime o.now).runner.stage k.everyStep gesture.move w = .ok (after, w')) :
      Deed k o s live w h { s with previews := s.previews.put id after } live w'
  | conversed {h : Happening} {events : List LiveEvent} (time : Float)
      (known : ∀ m, LiveEvent.message m ∈ events → m.automation ∈ live.keys) :
      Deed k o s live w h
        { s with conversations :=
          { (s.conversations.happenAll (k.atTime o.now).runner k.transport k.everyStep events w).1 with time } }
        live (s.conversations.happenAll (k.atTime o.now).runner k.transport k.everyStep events w).2

section Handling

variable {s s' : Studio} {k : Workshop σ} {o : Occasion} {r : Request} {a : Action} {w w' : σ}

/-- An action that is carried out is answered as far as its answer can be written. -/
theorem handle_of_ok {answer : Answer} (understood : r.action = .ok a)
    (acts : s.act k o a w = (.ok answer, s', w')) : s.handle k o r w = (answer.written, s', w') := by
  unfold handle
  rw [understood]
  dsimp only
  rw [acts]

/-- An action that is not carried out is answered if it is refused. -/
theorem handle_of_error {t : Trouble} (understood : r.action = .ok a)
    (acts : s.act k o a w = (.error t, s', w')) : s.handle k o r w = (t.answer, s', w') := by
  unfold handle
  rw [understood]
  dsimp only
  rw [acts]

/-- Answering a request makes no difference to what comes of it. -/
theorem handle_snd (understood : r.action = .ok a) : (s.handle k o r w).2 = (s.act k o a w).2 := by
  unfold handle
  rw [understood]
  dsimp only
  split <;> rename_i eq <;> rw [eq]

end Handling

namespace Sound

variable {s : Studio} {live : Dict Record} {issued : List String} {o : Occasion} {w : σ} {h : Happening}

/-- A message of a live conversation is an event, and so are the delays that are over already. -/
theorem deed_receive (sound : s.Sound live issued) (k : Workshop σ) (id : String) (m : Inbound) :
    ∃ live', Deed k o s live w h (s.receive (k.atTime o.now) id m w).2.1 live'
      (s.receive (k.atTime o.now) id m w).2.2 := by
  cases found : s.find id with
  | error t =>
    simp only [receive, found]
    exact ⟨live, .nothing h⟩
  | ok both =>
    obtain ⟨r, g⟩ := both
    obtain ⟨there, -, -⟩ := sound.find_eq_ok.mp found
    let incoming : Incoming :=
      { automation := id, graph := g, text := m.text
        context := { recipient := m.recipient, contact := m.contact } }
    obtain ⟨keys, events⟩ := Conversations.inbound_eq_happenAll sound.single (k.atTime o.now).runner
      k.transport k.everyStep incoming w
    have known : ∀ m, LiveEvent.message m ∈ .message incoming :: Conversations.delaysOver keys →
        m.automation ∈ live.keys := by
      intro m mem
      rcases List.mem_cons.mp mem with same | delay
      · cases same
        exact Dict.mem_keys_of_get? there
      · exact absurd delay Conversations.message_not_mem_delaysOver
    have deed := Deed.conversed (k := k) (o := o) (s := s) (w := w) (h := h)
      (s.conversations.inbound (k.atTime o.now).runner k.transport k.everyStep id g m.text
        incoming.context w).2.1.time known
    rw [← events] at deed
    refine ⟨live, ?_⟩
    simp only [receive, found]
    split <;> exact deed

/-- Nothing but a deed comes of an action. -/
theorem deed_act (sound : s.Sound live issued) (k : Workshop σ) (proper : o.Proper) (fresh : o.freshId ∉ issued)
    {a : Action} (asked : h.action? = some a) :
    ∃ live', Deed k o s live w h (s.act (k.atTime o.now) o a w).2.1 live'
      (s.act (k.atTime o.now) o a w).2.2 := by
  have nothing : ∃ live', Deed k o s live w h s live' w := ⟨live, .nothing h⟩
  cases a with
  | greet => exact nothing
  | listAutomations => exact nothing
  | fetch id => exact nothing
  | inspect id => exact nothing
  | fetchPreview id => exact nothing
  | listIntegrations category => exact nothing
  | create d =>
    cases made : graphOf d with
    | error t =>
      simp only [act, create_of_error made]
      exact nothing
    | ok g =>
      simp only [act, sound.create_eq proper fresh made]
      exact ⟨_, .created asked made⟩
  | replace id d =>
    cases found : s.find id with
    | error t =>
      simp only [act, replace_of_missing found]
      exact nothing
    | ok both =>
      obtain ⟨there, legible, -⟩ := sound.find_eq_ok.mp found
      cases made : graphOf d with
      | error t =>
        simp only [act, replace_of_error found made]
        exact nothing
      | ok g =>
        simp only [act, sound.replace_eq proper.clock there legible made]
        exact ⟨_, .replaced asked there legible made⟩
  | delete id =>
    by_cases there : id ∈ live.keys
    · simp only [act, sound.delete_eq, if_pos there]
      exact ⟨_, .deleted asked there⟩
    · simp only [act, sound.delete_eq, if_neg there]
      exact nothing
  | receive id m => exact sound.deed_receive k id m
  | openPreview id audience =>
    cases found : s.find id with
    | error t =>
      simp only [act, openPreview, found]
      exact nothing
    | ok both =>
      obtain ⟨there, -, made⟩ := sound.find_eq_ok.mp found
      simp only [act, openPreview, found]
      exact ⟨_, .opened asked there made⟩
  | gesture id g =>
    cases present : s.previews.get? id with
    | none =>
      simp only [act, gesture, preview, present]
      exact nothing
    | some before =>
      cases done : perform before (k.atTime o.now) g w with
      | error e =>
        simp only [act, gesture, preview, present, Except.ok_bind, done]
        exact nothing
      | ok after =>
        simp only [act, gesture, preview, present, Except.ok_bind, done]
        rw [perform_eq_move] at done
        exact ⟨_, .gestured asked present done⟩

/-- **Nothing but a deed comes of what happens.** -/
theorem deed (sound : s.Sound live issued) (k : Workshop σ) (proper : o.Proper) (fresh : o.freshId ∉ issued)
    (h : Happening) (w : σ) :
    ∃ live', Deed k o s live w h (s.happen k o h w).1 live' (s.happen k o h w).2 := by
  have known {keys : List (String × String)} : ∀ m, LiveEvent.message m ∈ Conversations.delaysOver keys →
      m.automation ∈ live.keys :=
    fun m mem => absurd mem Conversations.message_not_mem_delaysOver
  cases h with
  | request r =>
    cases understood : r.action with
    | error reason =>
      simp only [happen, handle, understood]
      exact ⟨live, .nothing _⟩
    | ok a =>
      simp only [happen, handle_snd understood]
      exact sound.deed_act k proper fresh (congrArg Except.toOption understood)
  | delayOver automation recipient =>
    have none_known : ∀ m, LiveEvent.message m ∈ Conversations.delaysOver [(automation, recipient)] →
        m.automation ∈ live.keys := known
    exact ⟨live, .conversed _ none_known⟩
  | pass seconds =>
    obtain ⟨keys, advanced⟩ := Conversations.advance_eq_happenAll sound.single (k.atTime o.now).runner
      k.transport k.everyStep seconds w
    simp only [happen, advance]
    rw [show (k.atTime o.now).transport = k.transport from rfl, advanced]
    exact ⟨live, .conversed _ known⟩

end Sound

namespace Deed

variable {k : Workshop σ} {o : Occasion} {s s' : Studio} {live live' : Dict Record} {issued : List String}
  {w w' : σ} {h : Happening}

/-- **A deed keeps a studio sound.** -/
theorem sound (deed : Deed k o s live w h s' live' w') (sound : s.Sound live issued) (proper : o.Proper)
    (fresh : o.freshId ∉ issued) : s'.Sound live' (o.freshId :: issued) := by
  have more : s.Sound live (o.freshId :: issued) := sound.mono (List.subset_cons_self _ _)
  cases deed with
  | nothing => exact more
  | created asked made => exact sound.created proper fresh made
  | replaced asked there legible made => exact more.replaced proper.clock there legible made
  | deleted asked there => exact more.deleted _
  | opened asked there made => exact more.shown _ List.mem_cons_self
  | gestured asked present done =>
    exact more.shown _ (more.issuedOpen _ (Dict.mem_keys_of_mem (Dict.mem_of_get? present)))
  | conversed time known =>
    exact more.conversed (Conversations.nodup_pending_happenAll sound.single _ k.transport k.everyStep _ w)

end Deed

/-- **What every deed keeps holds after every history** that begins with it. -/
theorem happenings_induction {k : Workshop σ} {motive : Studio → Dict Record → σ → Prop} {s : Studio}
    {live : Dict Record} {issued : List String} {w : σ} {history : List (Occasion × Happening)}
    (sound : s.Sound live issued) (start : motive s live w) (proper : ∀ h ∈ history, h.1.Proper)
    (fresh : (history.map (·.1.freshId)).Nodup) (new : ∀ h ∈ history, h.1.freshId ∉ issued)
    (keeps : ∀ {s live issued w o h s' live' w'}, s.Sound live issued → o.freshId ∉ issued → o.Proper →
      (o, h) ∈ history → Deed k o s live w h s' live' w' → motive s live w → motive s' live' w') :
    ∃ live', (s.happenings k history w).1.Sound live' ((history.map (·.1.freshId)).reverse ++ issued) ∧
      motive (s.happenings k history w).1 live' (s.happenings k history w).2 := by
  induction history generalizing s live issued w with
  | nil => exact ⟨live, sound, start⟩
  | cons first rest ih =>
    obtain ⟨o, h⟩ := first
    have new_first := new _ List.mem_cons_self
    obtain ⟨live', deed⟩ := sound.deed k (proper _ List.mem_cons_self) new_first h w
    rw [List.map_cons, List.nodup_cons] at fresh
    have new_rest : ∀ later ∈ rest, later.1.freshId ∉ o.freshId :: issued := by
      intro later mem again
      rcases List.mem_cons.mp again with same | old
      · exact fresh.1 (same ▸ List.mem_map_of_mem mem)
      · exact new later (List.mem_cons_of_mem _ mem) old
    obtain ⟨last, after, holds⟩ := ih (deed.sound sound (proper _ List.mem_cons_self) new_first)
      (keeps sound new_first (proper _ List.mem_cons_self) List.mem_cons_self deed start)
      (fun later mem => proper later (List.mem_cons_of_mem _ mem)) fresh.2 new_rest
      (fun a b c mem d e => keeps a b c (List.mem_cons_of_mem _ mem) d e)
    refine ⟨last, ?_, holds⟩
    rw [List.map_cons, List.reverse_cons, List.append_assoc]
    exact after

/-- After any history from the start on a studio is sound. -/
theorem sound_of_happenings (k : Workshop σ) {history : List (Occasion × Happening)} (w : σ)
    (proper : ∀ h ∈ history, h.1.Proper) (fresh : (history.map (·.1.freshId)).Nodup) :
    ∃ live, (happenings {} k history w).1.Sound live (history.map (·.1.freshId)).reverse := by
  obtain ⟨live, sound, -⟩ := happenings_induction (motive := fun _ _ _ => True) (k := k) (w := w) Sound.empty
    trivial proper fresh nofun fun _ _ _ _ _ _ => trivial
  rw [List.append_nil] at sound
  exact ⟨live, sound⟩

/-! ### A short history -/

/-- A workshop in which nothing is delivered and no service is asked. -/
def idle : Workshop Nat :=
  { runner := { services := {}, now := ⟨0, none⟩ }, transport := ⟨fun _ w => .ok w⟩ }

/-- A preview is opened of an automation, which is then replaced. -/
def rehearsal : List (Occasion × Happening) :=
  let step (id text : String) : Value :=
    .dict [("id", .str id), ("type", .str "message"),
      ("config", .dict [("content", .str text), ("note", .null)])]
  let one : Value := .dict [("workflow", .list [step "hello" "Hello!"])]
  let two : Value := .dict [("workflow", .list [step "hi" "Hi!", step "bye" "Bye!"]),
    ("connections", .list [.dict [("source", .str "hi"), ("target", .str "bye")]])]
  [(⟨⟨0, none⟩, "one"⟩, .request { method := "POST", path := ["api", "automations"], body := one }),
    (⟨⟨1, none⟩, "two"⟩, .request { method := "POST", path := ["api", "automations", "one", "preview"] }),
    (⟨⟨2, none⟩, "three"⟩, .request { method := "PUT", path := ["api", "automations", "one"], body := two })]

end Studio

end Parley
