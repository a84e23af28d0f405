import Mathlib.Data.List.Nodup
import Parley.Live.Conversations
import Parley.Proofs.Run.Through

/-!
# What happens in live conversations

Live conversations are moved on by four kinds of events, one at a time: a message comes in, a delay is over,
the run that waits in a conversation is cancelled, or all the runs of an automation that wait are. An event
lets at most one run go on, and that run for one stretch.

What a stretch sends is known from the transport, so the transport is watched: it keeps a list of what it
took (`Parley.Transport.recording`). The services stand beside it and do not see the list. The one lemma
that later proofs need is `Parley.Conversations.happen_cases`, which says all that an event can do.
-/

namespace Parley

variable {σ : Type}

/-! ### Events -/

/-- A message that comes in, and the graph of the automation as it then is. -/
structure Incoming where
  automation : String
  graph : Graph
  text : String
  context : Context

namespace Incoming

/-- The match of the message. -/
def found (m : Incoming) (everyStep : Bool) : Match := m.graph.snapshot.matchMessage everyStep m.text

/-- The first stretch of the run that the message starts. -/
def firstStretch (m : Incoming) (r : Runner σ) (everyStep : Bool) (w : σ) : RunResult × σ :=
  r.execute m.graph.snapshot (m.found everyStep).entries m.text m.context m.automation w

end Incoming

/-- What can happen to live conversations. -/
inductive LiveEvent where
  | message (m : Incoming)
  /-- The delay is over at which a run waits in a conversation. -/
  | delayOver (automation recipient : String)
  | cancel (automation recipient : String)
  | cancelAutomation (automation : String)

namespace LiveEvent

/-- Whether an event has to do with a conversation. -/
def concerns (automation recipient : String) : LiveEvent → Bool
  | message m => automation == m.automation && recipient == m.context.recipient
  | delayOver a r => automation == a && recipient == r
  | cancel a r => automation == a && recipient == r
  | cancelAutomation a => automation == a

/-- Whether an event cancels what waits in a conversation. -/
def cancels (automation recipient : String) : LiveEvent → Bool
  | cancel a r => automation == a && recipient == r
  | cancelAutomation a => automation == a
  | _ => false

/-- Whether an event is a message in a conversation. -/
def isMessageIn (automation recipient : String) : LiveEvent → Bool
  | message m => automation == m.automation && recipient == m.context.recipient
  | _ => false

/-- An event cancels nothing in a conversation that it has nothing to do with. -/
theorem cancels_eq_false {automation recipient : String} {e : LiveEvent}
    (h : e.concerns automation recipient = false) : e.cancels automation recipient = false := by
  cases e with
  | message m => rfl
  | delayOver a r => rfl
  | cancel a r => exact h
  | cancelAutomation a => exact h

end LiveEvent

namespace Conversations

/-- The run that waits in a conversation. -/
def waitingIn? (c : Conversations) (automation recipient : String) : Option Waiting :=
  c.waiting.find? fun p => p.isOf automation recipient

/-- Where at most one run waits in each conversation, it is known by its conversation. -/
theorem eq_of_nodup_pending {c : Conversations} {p q : Waiting} (h : c.pending.Nodup)
    (mem : p ∈ c.waiting) (mem' : q ∈ c.waiting) (sameAutomation : p.automation = q.automation)
    (sameRecipient : p.recipient = q.recipient) : p = q :=
  List.inj_on_of_nodup_map h mem mem' (Prod.ext sameAutomation sameRecipient)

theorem isOf_iff {p : Waiting} {automation recipient : String} :
    p.isOf automation recipient = true ↔ p.automation = automation ∧ p.recipient = recipient := by
  simp only [Waiting.isOf, Bool.and_eq_true, beq_iff_eq]

theorem waitingIn?_eq_some {c : Conversations} {automation recipient : String} {p : Waiting}
    (found : c.waitingIn? automation recipient = some p) :
    p ∈ c.waiting ∧ p.isOf automation recipient = true := by
  have isOf := List.find?_some found
  exact ⟨List.mem_of_find?_eq_some found, isOf⟩

/-- Takes an event. -/
def happen (c : Conversations) (r : Runner σ) (t : Transport σ) (everyStep : Bool) (e : LiveEvent)
    (w : σ) : Conversations × σ :=
  match e with
  | .message m => (c.answer r t everyStep m.automation m.graph m.text m.context w).2
  | .delayOver automation recipient =>
    match c.waitingIn? automation recipient with
    | some p => c.fire r t p w
    | none => (c, w)
  | .cancel automation recipient => ((c.cancel automation recipient).2, w)
  | .cancelAutomation automation => ((c.cancelAutomation automation).2, w)

end Conversations

/-! ### Stretches of runs in conversations -/

/-- A stretch of a run in a conversation. -/
structure Stretch where
  /-- Which run it is, in the order in which runs began. -/
  run : Nat
  automation : String
  recipient : String
  /-- The graph as it was when the run began. -/
  graph : Graph
  result : RunResult

/-- What a stretch has to send. -/
def Stretch.deliveries (s : Stretch) : List Delivery :=
  s.result.effects.map (Conversations.deliveryOf s.automation s.recipient)

/-- The run that waits at the end of a stretch. -/
structure Stretch.Leaves (s : Stretch) (p : Waiting) : Prop where
  run : p.run = s.run
  automation : p.automation = s.automation
  recipient : p.recipient = s.recipient
  graph : p.graph = s.graph
  ending : ∃ pause, s.result.ending = .suspended pause p.state

/-- The stretch that an event sets going. -/
def Conversations.stretch? (c : Conversations) (r : Runner σ) (everyStep : Bool) (e : LiveEvent) (w : σ) :
    Option Stretch :=
  match e with
  | .message m =>
    if (m.found everyStep).triggered then
      some { run := c.begun, automation := m.automation, recipient := m.context.recipient
             graph := m.graph.snapshot, result := (m.firstStretch r everyStep w).1 }
    else none
  | .delayOver automation recipient =>
    (c.waitingIn? automation recipient).map fun p =>
      { run := p.run, automation, recipient, graph := p.graph
        result := (r.resume p.graph p.state w).1 }
  | _ => none

/-! ### Services beside a list -/

/-- Services in a world with a second part, which they leave alone. -/
def Services.beside {α : Type} (s : Services σ) : Services (σ × α) :=
  { reply := s.reply.map fun ask q w => ((ask q w.1).1, (ask q w.1).2, w.2)
    call := s.call.map fun ask q w => ((ask q w.1).1, (ask q w.1).2, w.2) }

theorem Services.over_beside {α : Type} (s : Services σ) (a : α) : s.Over s.beside fun w => (w, a) where
  reply := by
    unfold Services.beside
    cases s.reply with
    | none => exact .none
    | some ask => exact .some fun _ _ => rfl
  call := by
    unfold Services.beside
    cases s.call with
    | none => exact .none
    | some ask => exact .some fun _ _ => rfl

/-- The runner in a world with a second part. -/
def Runner.beside {α : Type} (r : Runner σ) : Runner (σ × α) :=
  { services := r.services.beside, now := r.now, maxSteps := r.maxSteps }

namespace Runner

variable {α : Type} (r : Runner σ) (g : Graph) (a : α)

theorem over_beside : r.walker.Over (r.beside : Runner (σ × α)).walker fun w => (w, a) :=
  (r.services.over_beside a).walker (fun _ => r.now) r.maxSteps

theorem beside_resume (st : RunState) (w : σ) :
    r.beside.resume g st (w, a) = ((r.resume g st w).1, (r.resume g st w).2, a) :=
  (r.over_beside a).walk g st [] w

theorem beside_execute (entries : List String) (message : String) (context : Context)
    (automation : String) (w : σ) :
    r.beside.execute g entries message context automation (w, a) =
      ((r.execute g entries message context automation w).1,
        (r.execute g entries message context automation w).2, a) := by
  cases entries with
  | nil => rfl
  | cons first rest => exact (r.over_beside a).walk g _ [] w

end Runner

namespace Transport

/-- The transport that also keeps a list of what it took. -/
def recording (t : Transport σ) : Transport (σ × List Delivery) :=
  { deliver := fun d w =>
      match t.deliver d w.1 with
      | .ok v => .ok (v, w.2 ++ [d])
      | .error failure => .error failure }

/-- The transport takes some deliveries one after the other, and that leads from a world to another. -/
inductive Takes (t : Transport σ) : List Delivery → σ → σ → Prop where
  | nothing (w : σ) : Takes t [] w w
  | more {d : Delivery} {rest : List Delivery} {w u v : σ} (first : t.deliver d w = .ok u)
      (later : Takes t rest u v) : Takes t (d :: rest) w v

end Transport

/-! ### Deliveries -/

namespace Conversations

variable {t : Transport σ}

/-- **What is sent of some effects**: all of it, or all before the first delivery that fails. -/
theorem deliverAll_recording (t : Transport σ) (automation recipient : String) (effects : List Effect)
    (w : σ) (log : List Delivery) :
    ∃ failure v sent unsent,
      deliverAll t.recording automation recipient effects (w, log) = (failure, v, log ++ sent) ∧
      sent ++ unsent = effects.map (deliveryOf automation recipient) ∧ t.Takes sent w v ∧
      (failure = none ∧ unsent = [] ∨
        ∃ text d u, failure = some text ∧ unsent.head? = some d ∧ t.deliver d u = .error text) := by
  induction effects generalizing w log with
  | nil => exact ⟨none, w, [], [], by rw [List.append_nil]; rfl, rfl, .nothing w, .inl ⟨rfl, rfl⟩⟩
  | cons e rest ih =>
    cases took : t.deliver (deliveryOf automation recipient e) w with
    | error text =>
      refine ⟨some text, w, [], (e :: rest).map (deliveryOf automation recipient), ?_, rfl,
        .nothing w, .inr ⟨text, _, w, rfl, rfl, took⟩⟩
      simp only [deliverAll, Transport.recording, took, List.append_nil]
    | ok v =>
      obtain ⟨failure, v', sent, unsent, did, all, takes, how⟩ :=
        ih v (log ++ [deliveryOf automation recipient e])
      refine ⟨failure, v', deliveryOf automation recipient e :: sent, unsent, ?_, ?_, .more took takes, how⟩
      · simp only [deliverAll, Transport.recording, took]
        rw [List.append_assoc] at did
        exact did
      · rw [List.cons_append, all, List.map_cons]

/-- **How a stretch is settled**: of what it has to send, all is sent or all before a delivery that fails; no
run is left waiting in its conversation but its own, and that one waits exactly if all was sent and the
stretch ends at a delay. -/
structure Settled (t : Transport σ) (s : Stretch) (others : List Waiting) (after : Conversations)
    (sent unsent : List Delivery) : Prop where
  all : sent ++ unsent = s.deliveries
  refused : ∀ d ∈ unsent.head?, ∃ w failure, t.deliver d w = .error failure
  waiting : (∃ p, after.waiting = others ++ [p] ∧ unsent = [] ∧ s.Leaves p) ∨
    after.waiting = others ∧ (unsent = [] → ∀ pause left, s.result.ending ≠ .suspended pause left)

theorem settled_settle (t : Transport σ) (c : Conversations) (s : Stretch) (w : σ) (log : List Delivery)
    (alone : ∀ p ∈ c.waiting, p.isOf s.automation s.recipient = false) :
    ∃ failure after v sent unsent,
      c.settle t.recording s.run s.automation s.recipient s.graph s.result (w, log) =
        (failure, after, v, log ++ sent) ∧
      after.begun = c.begun ∧ t.Takes sent w v ∧ Settled t s c.waiting after sent unsent := by
  obtain ⟨failure, v, sent, unsent, did, all, takes, how⟩ :=
    deliverAll_recording t s.automation s.recipient s.result.effects w log
  unfold settle
  rw [did]
  rcases how with ⟨rfl, rfl⟩ | ⟨text, d, u, rfl, first, refused⟩
  · have others : c.waiting.filter (fun p => !p.isOf s.automation s.recipient) = c.waiting :=
      List.filter_eq_self.mpr fun p mem => by rw [alone p mem]; rfl
    have none_refused : ∀ d ∈ ([] : List Delivery).head?, ∃ w failure, t.deliver d w = .error failure :=
      fun d mem => by cases mem
    cases ended : s.result.suspension? with
    | none =>
      exact ⟨none, c, v, sent, [], rfl, rfl, takes, all, none_refused,
        .inr ⟨rfl, fun _ => RunResult.suspension?_eq_none.mp ended⟩⟩
    | some found =>
      obtain ⟨pause, left⟩ := found
      have ending := RunResult.suspension?_eq_some.mp ended
      refine ⟨none, _, v, sent, [], rfl, rfl, takes, all, none_refused,
        .inl ⟨⟨s.automation, s.recipient, c.dueAfter pause.seconds, s.graph, left, s.run⟩, ?_, rfl,
          rfl, rfl, rfl, rfl, pause, ending⟩⟩
      simp only [schedule, drop, others]
  · refine ⟨some text, c, v, sent, unsent, rfl, rfl, takes, all, ?_, .inr ⟨rfl, fun none_left => ?_⟩⟩
    · intro d' mem
      rw [first] at mem
      cases mem
      exact ⟨u, text, refused⟩
    · rw [none_left] at first
      cases first

/-! ### What an event does -/

/-- An event that lets no run go on: it is no message that starts one, and what no longer waits was
cancelled. -/
structure Quiet (c : Conversations) (everyStep : Bool) (e : LiveEvent) (after : Conversations) : Prop where
  ignored : ∀ m, e = .message m → (m.found everyStep).triggered = false
  begun : after.begun = c.begun
  waiting : after.waiting = c.waiting.filter fun p => !e.cancels p.automation p.recipient

/-- The stretch with which a message begins a run, which leads from a world to another. -/
structure Begins (c : Conversations) (r : Runner σ) (everyStep : Bool) (e : LiveEvent) (s : Stretch)
    (w u : σ) (m : Incoming) : Prop where
  event : e = .message m
  triggered : (m.found everyStep).triggered = true
  automation : s.automation = m.automation
  recipient : s.recipient = m.context.recipient
  graph : s.graph = m.graph.snapshot
  run : s.run = c.begun
  result : m.firstStretch r everyStep w = (s.result, u)

/-- The stretch with which a run goes on that waits, and which leads from a world to another. -/
structure GoesOn (c : Conversations) (r : Runner σ) (e : LiveEvent) (s : Stretch) (w u : σ)
    (p : Waiting) : Prop where
  event : e = .delayOver s.automation s.recipient
  found : c.waitingIn? s.automation s.recipient = some p
  graph : s.graph = p.graph
  run : s.run = p.run
  result : r.resume p.graph p.state w = (s.result, u)

namespace GoesOn

variable {c : Conversations} {r : Runner σ} {e : LiveEvent} {s : Stretch} {w u : σ} {p : Waiting}

theorem waits (h : c.GoesOn r e s w u p) : p ∈ c.waiting := (waitingIn?_eq_some h.found).1

theorem automation (h : c.GoesOn r e s w u p) : p.automation = s.automation :=
  (isOf_iff.mp (waitingIn?_eq_some h.found).2).1

theorem recipient (h : c.GoesOn r e s w u p) : p.recipient = s.recipient :=
  (isOf_iff.mp (waitingIn?_eq_some h.found).2).2

end GoesOn

/-- The runs that wait in other conversations. -/
def others (c : Conversations) (automation recipient : String) : List Waiting :=
  c.waiting.filter fun p => !p.isOf automation recipient

theorem isOf_of_mem_others {c : Conversations} {automation recipient : String} {p : Waiting}
    (mem : p ∈ c.others automation recipient) : p.isOf automation recipient = false := by
  simpa using (List.mem_filter.mp mem).2

/-- **All that an event can do.** It lets no run go on, or it begins a run or lets one go on that waits, and
then it settles one stretch of it. -/
theorem happen_cases (c : Conversations) (r : Runner σ) (t : Transport σ) (everyStep : Bool)
    (e : LiveEvent) (w : σ) (log : List Delivery) :
    ∃ after v sent, c.happen r.beside t.recording everyStep e (w, log) = (after, v, log ++ sent) ∧
      (c.stretch? r everyStep e w = none ∧ sent = [] ∧ v = w ∧ c.Quiet everyStep e after ∨
        ∃ s u unsent, c.stretch? r everyStep e w = some s ∧ t.Takes sent u v ∧
          Settled t s (c.others s.automation s.recipient) after sent unsent ∧
          ((∃ m, c.Begins r everyStep e s w u m ∧ after.begun = c.begun + 1) ∨
            ∃ p, c.GoesOn r e s w u p ∧ after.begun = c.begun)) := by
  have keeps : c.waiting.filter (fun _ => true) = c.waiting := List.filter_eq_self.mpr fun _ _ => rfl
  cases e with
  | message m =>
    by_cases triggered : (m.found everyStep).triggered = true
    · have alone : ∀ p ∈ (c.drop m.automation m.context.recipient).waiting,
          p.isOf m.automation m.context.recipient = false := fun p mem => isOf_of_mem_others mem
      obtain ⟨failure, after, v, sent, unsent, did, begun, takes, settled⟩ := settled_settle t
        { c.drop m.automation m.context.recipient with begun := c.begun + 1 }
        ⟨c.begun, m.automation, m.context.recipient, m.graph.snapshot, (m.firstStretch r everyStep w).1⟩
        (m.firstStretch r everyStep w).2 log alone
      unfold Incoming.firstStretch Incoming.found at did
      unfold Incoming.found at triggered
      refine ⟨after, v, sent, ?_, .inr ⟨_, _, unsent, if_pos triggered, takes, settled, .inl ⟨m,
        ⟨rfl, triggered, rfl, rfl, rfl, rfl, rfl⟩, begun⟩⟩⟩
      simp only [happen, answer, if_pos triggered, r.beside_execute, did]
      cases failure <;> rfl
    · refine ⟨c, w, [], ?_, .inl ⟨if_neg triggered, rfl, rfl, ?_, rfl, keeps.symm⟩⟩
      · unfold Incoming.found at triggered
        simp only [happen, answer, if_neg triggered, List.append_nil]
      · rintro _ ⟨⟩
        exact Bool.eq_false_iff.mpr triggered
  | delayOver automation recipient =>
    cases found : c.waitingIn? automation recipient with
    | none =>
      refine ⟨c, w, [], ?_, .inl ⟨?_, rfl, rfl, (fun _ eq => LiveEvent.noConfusion eq), rfl, keeps.symm⟩⟩
      · simp only [happen, found, List.append_nil]
      · simp only [stretch?, found, Option.map_none]
    | some p =>
      obtain ⟨rfl, rfl⟩ := isOf_iff.mp (waitingIn?_eq_some found).2
      have alone : ∀ q ∈ (c.drop p.automation p.recipient).waiting,
          q.isOf p.automation p.recipient = false := fun q mem => isOf_of_mem_others mem
      obtain ⟨failure, after, v, sent, unsent, did, begun, takes, settled⟩ := settled_settle t
        { c.drop p.automation p.recipient with time := p.due.getD c.time }
        ⟨p.run, p.automation, p.recipient, p.graph, (r.resume p.graph p.state w).1⟩
        (r.resume p.graph p.state w).2 log alone
      simp only [happen, found, fire, r.beside_resume, did, stretch?, Option.map_some]
      -- a failure is noted, and makes no other difference
      cases failure with
      | none =>
        exact ⟨after, v, sent, rfl, .inr ⟨_, _, unsent, rfl, takes, settled,
          .inr ⟨p, ⟨rfl, found, rfl, rfl, rfl⟩, begun⟩⟩⟩
      | some text =>
        exact ⟨_, v, sent, rfl, .inr ⟨_, _, unsent, rfl, takes,
          ⟨settled.all, settled.refused, settled.waiting⟩, .inr ⟨p, ⟨rfl, found, rfl, rfl, rfl⟩, begun⟩⟩⟩
  | cancel automation recipient =>
    exact ⟨(c.cancel automation recipient).2, w, [], by rw [List.append_nil]; rfl,
      .inl ⟨rfl, rfl, rfl, (fun _ eq => LiveEvent.noConfusion eq), rfl, rfl⟩⟩
  | cancelAutomation automation =>
    exact ⟨(c.cancelAutomation automation).2, w, [], by rw [List.append_nil]; rfl,
      .inl ⟨rfl, rfl, rfl, (fun _ eq => LiveEvent.noConfusion eq), rfl, rfl⟩⟩

end Conversations

end Parley
