import Mathlib.Data.List.Induction
import Mathlib.Data.List.Nodup
import Parley.Proofs.List
import Parley.Proofs.Live.Events

/-!
# Every run in order, and only the latest one

The events of live conversations, with what came of each of them, make up a *chronicle*. What it says of a run
is found by the number of the run: its stretches, and what the transport took of them.

A conversation hears of its runs one after the other. While a run is the latest of its conversation and
nobody cancels it, it may wait, go on, wait again; once another run has begun there, or what waits has been
cancelled, it is never heard of again (`Parley.Chronicle.orderly`).

Everything rests on an account that is kept of each run (`Parley.Account`): its stretches follow one another,
what was sent is what they have to send, and the run waits exactly where its last stretch does. An event
either sets a stretch of the run going, or leaves the account as it is but for the question whether the
run still waits.
-/

namespace Parley

open Conversations

variable {σ : Type} {r : Runner σ} {t : Transport σ} {everyStep : Bool}

/-! ### Turns -/

/-- An event, and what came of it. -/
structure Turn where
  event : LiveEvent
  /-- The conversations before. -/
  found : Conversations
  /-- The conversations after. -/
  left : Conversations
  /-- The stretch that the event set going. -/
  stretch : Option Stretch
  /-- What the transport took meanwhile. -/
  sent : List Delivery

namespace Turn

/-- Whether a stretch of a run was set going. -/
def isOf (run : Nat) (x : Turn) : Bool := x.stretch.any fun s => s.run == run

/-- Whether the runs so far of a conversation end: another one begins there, or what waits is cancelled. -/
def ends (automation recipient : String) (x : Turn) : Bool :=
  x.event.cancels automation recipient || (x.event.isMessageIn automation recipient && x.stretch.isSome)

/-- The results of the stretches of a run. -/
def resultsOf (run : Nat) (turns : List Turn) : List RunResult :=
  turns.filterMap fun x => (x.stretch.filter fun s => s.run == run).map (·.result)

/-- What the transport took of a run. -/
def sentOf (run : Nat) (turns : List Turn) : List Delivery :=
  (turns.filter (isOf run)).flatMap (·.sent)

variable {x : Turn} {s : Stretch} {run : Nat}

theorem isOf_eq_true_iff : x.isOf run = true ↔ ∃ s, x.stretch = some s ∧ s.run = run := by
  simp only [isOf, Option.any_eq_true, beq_iff_eq]

theorem resultsOf_concat_of (turns : List Turn) (ran : x.stretch = some s) (own : s.run = run) :
    resultsOf run (turns ++ [x]) = resultsOf run turns ++ [s.result] := by
  simp [resultsOf, ran, own, Option.filter]

theorem resultsOf_concat_other (turns : List Turn) (other : x.isOf run = false) :
    resultsOf run (turns ++ [x]) = resultsOf run turns := by
  cases ran : x.stretch with
  | none => simp [resultsOf, ran]
  | some s =>
    have apart : s.run ≠ run := by simpa [isOf, ran] using other
    simp [resultsOf, ran, apart, Option.filter]

theorem sentOf_concat_of (turns : List Turn) (own : x.isOf run = true) :
    sentOf run (turns ++ [x]) = sentOf run turns ++ x.sent := by
  simp [sentOf, own]

theorem sentOf_concat_other (turns : List Turn) (other : x.isOf run = false) :
    sentOf run (turns ++ [x]) = sentOf run turns := by
  simp [sentOf, other]

/-- Nothing is known of a run that no turn is of. -/
theorem nothing_of {turns : List Turn} (h : ∀ x ∈ turns, x.isOf run = false) :
    resultsOf run turns = [] ∧ sentOf run turns = [] := by
  induction turns using List.reverseRecOn with
  | nil => exact ⟨rfl, rfl⟩
  | append_singleton turns x ih =>
    have last := h x (List.mem_append_right _ (List.mem_singleton.mpr rfl))
    rw [resultsOf_concat_other turns last, sentOf_concat_other turns last]
    exact ih fun y mem => h y (List.mem_append_left _ mem)

end Turn

/-! ### Chronicles -/

/-- Events and what came of them, the conversations and the world as they then are, and all that the
transport took. -/
structure Chronicle (σ : Type) where
  turns : List Turn := []
  conversations : Conversations := {}
  world : σ
  taken : List Delivery := []

namespace Chronicle

/-- What is known after one more event, which happens at some time. -/
def add (h : Chronicle σ) (r : Runner σ) (t : Transport σ) (everyStep : Bool) (now : Moment)
    (e : LiveEvent) : Chronicle σ :=
  let r := { r with now }
  let (left, world, taken) := h.conversations.happen r.beside t.recording everyStep e (h.world, h.taken)
  { turns := h.turns ++ [{ event := e, found := h.conversations, left
                           stretch := h.conversations.stretch? r everyStep e h.world
                           sent := taken.drop h.taken.length }]
    conversations := left, world, taken }

/-- What is known after some more events. -/
def after (h : Chronicle σ) (r : Runner σ) (t : Transport σ) (everyStep : Bool)
    (events : List (Moment × LiveEvent)) : Chronicle σ :=
  events.foldl (fun h e => h.add r t everyStep e.1 e.2) h

/-- The chronicle of some events, from the beginning. -/
def ofEvents (r : Runner σ) (t : Transport σ) (everyStep : Bool) (w : σ)
    (events : List (Moment × LiveEvent)) : Chronicle σ :=
  ({ world := w } : Chronicle σ).after r t everyStep events

/-- What is known after one more event, in terms of what the event does. -/
theorem add_of_happen (h : Chronicle σ) {r : Runner σ} {t : Transport σ} {everyStep : Bool} (now : Moment)
    {e : LiveEvent} {left : Conversations} {v : σ} {sent : List Delivery}
    (did : h.conversations.happen ({ r with now } : Runner σ).beside t.recording everyStep e
      (h.world, h.taken) = (left, v, h.taken ++ sent)) :
    h.add r t everyStep now e =
      { turns := h.turns ++ [⟨e, h.conversations, left,
          h.conversations.stretch? { r with now } everyStep e h.world, sent⟩]
        conversations := left, world := v, taken := h.taken ++ sent } := by
  simp only [add, did, List.drop_left]

end Chronicle

/-- **What a turn is**: an event that lets no run go on, or a message that begins a run and settles the first
stretch of it, or a delay that is over and one more stretch, which is settled too. -/
inductive Turn.Made (r : Runner σ) (t : Transport σ) (everyStep : Bool) (x : Turn) : Prop where
  | quiet (still : x.stretch = none) (sent : x.sent = []) (quiet : x.found.Quiet everyStep x.event x.left)
  | began {s : Stretch} {unsent : List Delivery} {now : Moment} {w u : σ} {m : Incoming}
      (ran : x.stretch = some s)
      (settled : Settled t s (x.found.others s.automation s.recipient) x.left x.sent unsent)
      (begins : x.found.Begins { r with now } everyStep x.event s w u m)
      (begun : x.left.begun = x.found.begun + 1)
  | wentOn {s : Stretch} {unsent : List Delivery} {now : Moment} {w u : σ} {p : Waiting}
      (ran : x.stretch = some s)
      (settled : Settled t s (x.found.others s.automation s.recipient) x.left x.sent unsent)
      (goes : x.found.GoesOn { r with now } x.event s w u p)
      (begun : x.left.begun = x.found.begun)

/-- One more event is one more turn. -/
theorem Chronicle.add_turns (h : Chronicle σ) (r : Runner σ) (t : Transport σ) (everyStep : Bool)
    (now : Moment) (e : LiveEvent) :
    ∃ x : Turn, x.event = e ∧ x.found = h.conversations ∧ x.Made r t everyStep ∧
      (h.add r t everyStep now e).turns = h.turns ++ [x] ∧
      (h.add r t everyStep now e).conversations = x.left ∧
      (h.add r t everyStep now e).taken = h.taken ++ x.sent := by
  obtain ⟨after, v, sent, did, how⟩ :=
    h.conversations.happen_cases { r with now } t everyStep e h.world h.taken
  rw [h.add_of_happen now did]
  refine ⟨_, rfl, rfl, ?_, rfl, rfl, rfl⟩
  rcases how with ⟨still, nothing, -, quiet⟩ | ⟨s, u, unsent, ran, -, settled, by_message | by_delay⟩
  · exact .quiet still nothing quiet
  · obtain ⟨m, begins, begun⟩ := by_message
    exact .began ran settled begins begun
  · obtain ⟨p, goes, begun⟩ := by_delay
    exact .wentOn ran settled goes begun

/-! ### What a turn does to runs that wait -/

namespace Conversations

variable {c : Conversations} {automation recipient : String} {p q : Waiting}

theorem mem_others : p ∈ c.others automation recipient ↔
    p ∈ c.waiting ∧ ¬(p.automation = automation ∧ p.recipient = recipient) := by
  rw [others, List.mem_filter, ← isOf_iff, Bool.not_eq_true', Bool.not_eq_true]

theorem Settled.mem_waiting {s : Stretch} {others : List Waiting} {after : Conversations}
    {sent unsent : List Delivery} (h : Settled t s others after sent unsent) (mem : p ∈ after.waiting) :
    p ∈ others ∨ unsent = [] ∧ s.Leaves p := by
  rcases h.waiting with ⟨q, waiting, all, leaves⟩ | ⟨waiting, -⟩
  · rw [waiting, List.mem_append, List.mem_singleton] at mem
    rcases mem with other | rfl
    · exact .inl other
    · exact .inr ⟨all, leaves⟩
  · exact .inl (waiting ▸ mem)

theorem Settled.mem_of_others {s : Stretch} {others : List Waiting} {after : Conversations}
    {sent unsent : List Delivery} (h : Settled t s others after sent unsent) (mem : p ∈ others) :
    p ∈ after.waiting := by
  rcases h.waiting with ⟨q, waiting, -, -⟩ | ⟨waiting, -⟩
  · exact waiting ▸ List.mem_append_left _ mem
  · exact waiting ▸ mem

/-- The run of a stretch waits after it exactly if all was sent and the stretch ends at a delay. -/
theorem Settled.exists_leaves_iff {s : Stretch} {others : List Waiting} {after : Conversations}
    {sent unsent : List Delivery} (h : Settled t s others after sent unsent)
    (fresh : ∀ p ∈ others, p.run ≠ s.run) :
    (∃ p ∈ after.waiting, p.run = s.run) ↔
      unsent = [] ∧ ∃ pause left, s.result.ending = .suspended pause left := by
  constructor
  · rintro ⟨p, mem, own⟩
    rcases h.mem_waiting mem with other | ⟨all, leaves⟩
    · exact absurd own (fresh p other)
    · obtain ⟨pause, ending⟩ := leaves.ending
      exact ⟨all, pause, p.state, ending⟩
  · rintro ⟨all, pause, left, ending⟩
    rcases h.waiting with ⟨p, waiting, -, leaves⟩ | ⟨-, ends⟩
    · exact ⟨p, waiting ▸ List.mem_append_right _ (List.mem_singleton.mpr rfl), leaves.run⟩
    · exact absurd ending (ends all pause left)

theorem nodup_pending_others (h : c.pending.Nodup) (automation recipient : String) :
    ((c.others automation recipient).map fun p => (p.automation, p.recipient)).Nodup :=
  h.sublist (List.filter_sublist.map _)

/-- A run may wait besides those of the other conversations. -/
theorem nodup_pending_concat (h : c.pending.Nodup) (p : Waiting) :
    ((c.others p.automation p.recipient ++ [p]).map fun p => (p.automation, p.recipient)).Nodup := by
  rw [List.map_append, List.nodup_append]
  refine ⟨nodup_pending_others h _ _, List.pairwise_singleton _ _, fun a mem b last same => ?_⟩
  obtain ⟨q, other, rfl⟩ := List.mem_map.mp mem
  obtain rfl : b = (p.automation, p.recipient) := by simpa using last
  exact (mem_others.mp other).2 ⟨congrArg Prod.fst same, congrArg Prod.snd same⟩

/-- After a stretch, still at most one run waits in each conversation. -/
theorem Settled.nodup_pending {s : Stretch} {after : Conversations} {sent unsent : List Delivery}
    (settled : Settled t s (c.others s.automation s.recipient) after sent unsent)
    (h : c.pending.Nodup) : after.pending.Nodup := by
  unfold pending
  rcases settled.waiting with ⟨p, waiting, -, leaves⟩ | ⟨waiting, -⟩
  · rw [waiting, ← leaves.automation, ← leaves.recipient]
    exact nodup_pending_concat h p
  · rw [waiting]
    exact nodup_pending_others h s.automation s.recipient

end Conversations

namespace Turn.Made

variable {x : Turn} {s : Stretch} {p : Waiting}

/-- Still at most one run waits in each conversation. -/
theorem nodup_pending (made : x.Made r t everyStep) (h : x.found.pending.Nodup) :
    x.left.pending.Nodup := by
  cases made with
  | quiet still sent quiet =>
    unfold pending
    rw [quiet.waiting]
    exact h.sublist (List.filter_sublist.map _)
  | began ran settled begins begun => exact settled.nodup_pending h
  | wentOn ran settled goes begun => exact settled.nodup_pending h

/-- **A run that the turn is not of** waits afterwards if it waited before and the turn does not end it. -/
theorem mem_left_iff (made : x.Made r t everyStep) (h : x.found.pending.Nodup)
    (other : x.isOf p.run = false) :
    p ∈ x.left.waiting ↔ p ∈ x.found.waiting ∧ x.ends p.automation p.recipient = false := by
  -- the run of a stretch is another one, so only the runs of other conversations matter
  have of_others : ∀ {s : Stretch} {unsent : List Delivery}, x.stretch = some s →
      Settled t s (x.found.others s.automation s.recipient) x.left x.sent unsent →
      (p ∈ x.left.waiting ↔ p ∈ x.found.others s.automation s.recipient) := by
    intro s unsent ran settled
    refine ⟨fun mem => ?_, settled.mem_of_others⟩
    rcases settled.mem_waiting mem with there | ⟨-, leaves⟩
    · exact there
    · have own : x.isOf p.run = true := isOf_eq_true_iff.mpr ⟨s, ran, leaves.run.symm⟩
      exact absurd (other.symm.trans own) Bool.false_ne_true
  cases made with
  | quiet still sent quiet =>
    rw [quiet.waiting, List.mem_filter, ends, still, Option.isSome_none, Bool.and_false, Bool.or_false,
      Bool.not_eq_true']
  | @began s unsent now w u m ran settled begins begun =>
    rw [of_others ran settled, mem_others, ends, ran, begins.event]
    simp [LiveEvent.cancels, LiveEvent.isMessageIn, begins.automation, begins.recipient]
  | @wentOn s unsent now w u q ran settled goes begun =>
    rw [of_others ran settled, mem_others, ends, goes.event]
    simp only [LiveEvent.cancels, LiveEvent.isMessageIn, Bool.false_and, Bool.or_false, and_true,
      and_iff_left_iff_imp]
    rintro mem ⟨sameAutomation, sameRecipient⟩
    obtain rfl := eq_of_nodup_pending h mem goes.waits (sameAutomation.trans goes.automation.symm)
      (sameRecipient.trans goes.recipient.symm)
    have own : x.isOf p.run = true := isOf_eq_true_iff.mpr ⟨s, ran, goes.run⟩
    exact absurd (other.symm.trans own) Bool.false_ne_true

theorem begun_le (made : x.Made r t everyStep) : x.found.begun ≤ x.left.begun := by
  cases made with
  | quiet still sent quiet => exact Nat.le_of_eq quiet.begun.symm
  | began ran settled begins begun => exact begun ▸ Nat.le_succ _
  | wentOn ran settled goes begun => exact Nat.le_of_eq begun.symm

/-- A message begins a run with a new number. -/
theorem run_eq_begun {m : Incoming} (made : x.Made r t everyStep) (event : x.event = .message m)
    (ran : x.stretch = some s) : s.run = x.found.begun := by
  cases made with
  | quiet still sent quiet => cases still.symm.trans ran
  | began ran' settled begins begun =>
    cases ran.symm.trans ran'
    exact begins.run
  | wentOn ran' settled goes begun => cases event.symm.trans goes.event

theorem triggered {m : Incoming} (made : x.Made r t everyStep) (event : x.event = .message m)
    (ran : x.stretch = some s) : (m.found everyStep).triggered = true := by
  cases made with
  | quiet still sent quiet => cases still.symm.trans ran
  | began ran' settled begins begun =>
    cases event.symm.trans begins.event
    exact begins.triggered
  | wentOn ran' settled goes begun => cases event.symm.trans goes.event

theorem run_lt_begun (made : x.Made r t everyStep) (ran : x.stretch = some s)
    (numbered : ∀ p ∈ x.found.waiting, p.run < x.found.begun) : s.run < x.left.begun := by
  cases made with
  | quiet still sent quiet => cases still.symm.trans ran
  | began ran' settled begins begun =>
    cases ran.symm.trans ran'
    rw [begins.run, begun]
    exact Nat.lt_succ_self _
  | @wentOn _ unsent now w u q ran' settled goes begun =>
    cases ran.symm.trans ran'
    rw [goes.run, begun]
    exact numbered q goes.waits

/-- A message that starts a run sets a stretch going. -/
theorem exists_stretch {m : Incoming} (made : x.Made r t everyStep) (event : x.event = .message m)
    (triggered : (m.found everyStep).triggered = true) : ∃ s, x.stretch = some s := by
  cases made with
  | quiet still sent quiet => cases (quiet.ignored m event).symm.trans triggered
  | began ran settled begins begun => exact ⟨_, ran⟩
  | wentOn ran settled goes begun => exact ⟨_, ran⟩

/-- A message that starts no run sends nothing and leaves in place what waits. -/
theorem ignored {m : Incoming} (made : x.Made r t everyStep) (event : x.event = .message m)
    (ignored : (m.found everyStep).triggered = false) :
    x.sent = [] ∧ x.left.waiting = x.found.waiting := by
  cases made with
  | quiet still sent quiet =>
    refine ⟨sent, ?_⟩
    rw [quiet.waiting, event]
    exact List.filter_eq_self.mpr fun _ _ => rfl
  | began ran settled begins begun =>
    cases event.symm.trans begins.event
    cases ignored.symm.trans begins.triggered
  | wentOn ran settled goes begun => cases event.symm.trans goes.event

theorem sent_eq_nil (made : x.Made r t everyStep) (still : x.stretch = none) : x.sent = [] := by
  cases made with
  | quiet still' sent quiet => exact sent
  | began ran settled begins begun => cases ran.symm.trans still
  | wentOn ran settled goes begun => cases ran.symm.trans still

/-- **An event leaves other conversations alone.** -/
theorem waiting_of_other (made : x.Made r t everyStep) {automation recipient : String}
    (other : x.event.concerns automation recipient = false) :
    x.left.waiting.filter (fun p => p.isOf automation recipient) =
      x.found.waiting.filter fun p => p.isOf automation recipient := by
  -- a run that is left out, or put in, is not one of this conversation
  have of_others : ∀ {s : Stretch} {unsent : List Delivery},
      Settled t s (x.found.others s.automation s.recipient) x.left x.sent unsent →
      ¬(s.automation = automation ∧ s.recipient = recipient) →
      x.left.waiting.filter (fun p => p.isOf automation recipient) =
        x.found.waiting.filter fun p => p.isOf automation recipient := by
    intro s unsent settled apart
    have kept : (x.found.others s.automation s.recipient).filter (fun p => p.isOf automation recipient) =
        x.found.waiting.filter fun p => p.isOf automation recipient := by
      refine List.filter_filter_of_imp fun p _ here => ?_
      obtain ⟨rfl, rfl⟩ := isOf_iff.mp here
      rw [Bool.not_eq_true', ← Bool.not_eq_true, isOf_iff]
      exact fun same => apart ⟨same.1.symm, same.2.symm⟩
    rcases settled.waiting with ⟨p, waiting, -, leaves⟩ | ⟨waiting, -⟩
    · have elsewhere : p.isOf automation recipient = false := by
        rw [← Bool.not_eq_true, isOf_iff, leaves.automation, leaves.recipient]
        exact apart
      rw [waiting, List.filter_append, kept, List.filter_cons_of_neg (Bool.not_eq_true _ ▸ elsewhere),
        List.filter_nil, List.append_nil]
    · rw [waiting, kept]
  cases made with
  | quiet still sent quiet =>
    rw [quiet.waiting]
    refine List.filter_filter_of_imp fun p _ here => ?_
    obtain ⟨rfl, rfl⟩ := isOf_iff.mp here
    rw [LiveEvent.cancels_eq_false other]
    rfl
  | began ran settled begins begun =>
    refine of_others settled fun same => ?_
    rw [begins.event, LiveEvent.concerns, ← begins.automation, ← begins.recipient, same.1, same.2] at other
    simp at other
  | wentOn ran settled goes begun =>
    refine of_others settled fun same => ?_
    rw [goes.event, LiveEvent.concerns, same.1, same.2] at other
    simp at other

end Turn.Made

/-! ### The account of a run -/

/-- The first stretches of the run that a message starts: that of its execution, and then that of each
resumption where the stretch before waits. The clock may move and the world may change between them. -/
inductive FirstStretches (r : Runner σ) (everyStep : Bool) (m : Incoming) : List RunResult → Prop where
  | executed (now : Moment) (w : σ) :
      FirstStretches r everyStep m [(m.firstStretch { r with now } everyStep w).1]
  | resumed {results : List RunResult} {last : RunResult} {pause : Suspension} {left : RunState}
      (before : FirstStretches r everyStep m results) (ends : results.getLast? = some last)
      (waits : last.ending = .suspended pause left) (now : Moment) (w : σ) :
      FirstStretches r everyStep m
        (results ++ [(({ r with now } : Runner σ).resume m.graph.snapshot left w).1])

/-- What the stretches of the run of a message have to send. -/
def Incoming.deliveries (m : Incoming) (results : List RunResult) : List Delivery :=
  results.flatMap fun result => result.effects.map (deliveryOf m.automation m.context.recipient)

/-- **The account of the run that a message began**, `late` being what happened after that message. -/
structure Account (r : Runner σ) (t : Transport σ) (everyStep : Bool) (turns : List Turn)
    (c : Conversations) (m : Incoming) (run : Nat) (late : List Turn) : Prop where
  /-- Its stretches follow one another. -/
  stretches : FirstStretches r everyStep m (Turn.resultsOf run turns)
  /-- All that they have to send was sent, in order and once, or all before a delivery that failed. The run
  waits if and only if nothing is left unsent, its last stretch waits, and nothing has ended it. -/
  sent : ∃ unsent, Turn.sentOf run turns ++ unsent = m.deliveries (Turn.resultsOf run turns) ∧
    (∀ d ∈ unsent.head?, ∃ w failure, t.deliver d w = .error failure) ∧
    ((∃ p ∈ c.waiting, p.run = run) ↔ unsent = [] ∧
      (∃ last pause left, (Turn.resultsOf run turns).getLast? = some last ∧
        last.ending = .suspended pause left) ∧
      ∀ y ∈ late, y.ends m.automation m.context.recipient = false)
  /-- If it waits, then in its conversation, where its last stretch does, and with the graph as it was. -/
  waits : ∀ p ∈ c.waiting, p.run = run →
    p.automation = m.automation ∧ p.recipient = m.context.recipient ∧ p.graph = m.graph.snapshot ∧
    ∃ last pause, (Turn.resultsOf run turns).getLast? = some last ∧
      last.ending = .suspended pause p.state
  /-- It is not heard of again once something has ended it. -/
  silent : ∀ before y after, late = before ++ y :: after →
    y.ends m.automation m.context.recipient = true → ∀ z ∈ y :: after, z.isOf run = false

namespace Account

variable {turns late : List Turn} {x : Turn} {m : Incoming} {run : Nat} {s : Stretch}

/-- **A turn of another run** leaves the account as it is, but it may end the run. -/
theorem other (account : Account r t everyStep turns x.found m run late) (made : x.Made r t everyStep)
    (h : x.found.pending.Nodup) (other : x.isOf run = false) :
    Account r t everyStep (turns ++ [x]) x.left m run (late ++ [x]) := by
  have results := Turn.resultsOf_concat_other turns other
  have sent' := Turn.sentOf_concat_other turns other
  have waiting : ∀ p : Waiting, p.run = run → (p ∈ x.left.waiting ↔
      p ∈ x.found.waiting ∧ x.ends p.automation p.recipient = false) :=
    fun p own => made.mem_left_iff h (own ▸ other)
  obtain ⟨unsent, all, refused, still⟩ := account.sent
  refine ⟨results ▸ account.stretches, ⟨unsent, by rw [results, sent', all], refused, ?_⟩, ?_, ?_⟩
  · rw [results]
    constructor
    · rintro ⟨p, mem, own⟩
      obtain ⟨there, goes_on⟩ := (waiting p own).mp mem
      obtain ⟨sameAutomation, sameRecipient, -⟩ := account.waits p there own
      obtain ⟨all, last, before⟩ := still.mp ⟨p, there, own⟩
      refine ⟨all, last, fun y late => ?_⟩
      rcases List.mem_append.mp late with early | one
      · exact before y early
      · rw [List.mem_singleton.mp one, ← sameAutomation, ← sameRecipient]
        exact goes_on
    · rintro ⟨all, last, before⟩
      obtain ⟨p, there, own⟩ := still.mpr ⟨all, last, fun y mem => before y (List.mem_append_left _ mem)⟩
      obtain ⟨sameAutomation, sameRecipient, -⟩ := account.waits p there own
      refine ⟨p, (waiting p own).mpr ⟨there, ?_⟩, own⟩
      rw [sameAutomation, sameRecipient]
      exact before x (List.mem_append_right _ (List.mem_singleton.mpr rfl))
  · intro p mem own
    rw [results]
    exact account.waits p ((waiting p own).mp mem).1 own
  · intro before y after cut ended z mem
    rcases List.concat_eq_append_cons cut with ⟨rfl, rfl, -⟩ | ⟨after', rfl, cut'⟩
    · exact List.mem_singleton.mp mem ▸ other
    · rw [← List.cons_append] at mem
      rcases List.mem_append.mp mem with early | one
      · exact account.silent before y after' cut' ended z early
      · exact List.mem_singleton.mp one ▸ other

/-- **A turn of the run itself** adds the stretch after its last one. -/
theorem own (account : Account r t everyStep turns x.found m run late) (made : x.Made r t everyStep)
    (earlier : run < x.found.begun) (own : x.isOf run = true) :
    Account r t everyStep (turns ++ [x]) x.left m run (late ++ [x]) := by
  obtain ⟨s, ran, rfl⟩ := Turn.isOf_eq_true_iff.mp own
  cases made with
  | quiet still sent quiet => cases still.symm.trans ran
  | began ran' settled begins begun =>
    cases ran.symm.trans ran'
    exact absurd begins.run (by omega)
  | @wentOn _ unsent now w u q ran' settled goes begun =>
    cases ran.symm.trans ran'
    -- the run waited before, so nothing is missing from the account up to here
    obtain ⟨sameAutomation, sameRecipient, sameGraph, last, pause, ends, waits⟩ :=
      account.waits q goes.waits goes.run.symm
    obtain ⟨unsent', all', -, still⟩ := account.sent
    obtain ⟨rfl, -, before⟩ := still.mp ⟨q, goes.waits, goes.run.symm⟩
    have automation : s.automation = m.automation := goes.automation.symm.trans sameAutomation
    have recipient : s.recipient = m.context.recipient := goes.recipient.symm.trans sameRecipient
    have results := Turn.resultsOf_concat_of turns ran rfl
    have fresh : ∀ p ∈ x.found.others s.automation s.recipient, p.run ≠ s.run := by
      intro p mem same
      obtain ⟨there, apart⟩ := mem_others.mp mem
      obtain ⟨sameAutomation', sameRecipient', -⟩ := account.waits p there same
      exact apart ⟨sameAutomation'.trans automation.symm, sameRecipient'.trans recipient.symm⟩
    have goes_on : x.ends m.automation m.context.recipient = false := by
      rw [Turn.ends, goes.event]
      rfl
    have before' : ∀ y ∈ late ++ [x], y.ends m.automation m.context.recipient = false := by
      intro y mem
      rcases List.mem_append.mp mem with early | one
      · exact before y early
      · exact List.mem_singleton.mp one ▸ goes_on
    refine ⟨?_, ⟨unsent, ?_, settled.refused, ?_⟩, ?_, ?_⟩
    · have next : (({ r with now } : Runner σ).resume q.graph q.state w).1 = s.result :=
        congrArg Prod.fst goes.result
      rw [results, ← next, sameGraph]
      exact .resumed account.stretches ends waits now w
    · rw [List.append_nil] at all'
      rw [results, Turn.sentOf_concat_of turns own, List.append_assoc, settled.all, all', Incoming.deliveries,
        Incoming.deliveries, List.flatMap_append, List.flatMap_singleton, Stretch.deliveries, automation,
        recipient]
    · rw [settled.exists_leaves_iff fresh, results, List.getLast?_concat]
      constructor
      · rintro ⟨all, pause, left, ending⟩
        exact ⟨all, ⟨s.result, pause, left, rfl, ending⟩, before'⟩
      · rintro ⟨all, ⟨_, pause, left, ⟨⟩, ending⟩, -⟩
        exact ⟨all, pause, left, ending⟩
    · intro p mem same
      rcases settled.mem_waiting mem with there | ⟨-, leaves⟩
      · exact absurd same (fresh p there)
      · obtain ⟨pause, ending⟩ := leaves.ending
        rw [results, List.getLast?_concat]
        exact ⟨leaves.automation.trans automation, leaves.recipient.trans recipient,
          leaves.graph.trans (goes.graph.trans sameGraph), s.result, pause, rfl, ending⟩
    · intro early y after cut ended
      have goes_on := before' y (cut ▸ List.mem_append_right _ List.mem_cons_self)
      exact absurd (goes_on.symm.trans ended) Bool.false_ne_true

/-- **The turn that begins the run** opens the account. -/
theorem first (made : x.Made r t everyStep) (event : x.event = .message m) (ran : x.stretch = some s)
    (new : ∀ y ∈ turns, y.isOf s.run = false) (numbered : ∀ p ∈ x.found.waiting, p.run < x.found.begun) :
    Account r t everyStep (turns ++ [x]) x.left m s.run [] := by
  cases made with
  | quiet still sent quiet => cases still.symm.trans ran
  | wentOn ran' settled goes begun => cases event.symm.trans goes.event
  | @began _ unsent now w u m' ran' settled begins begun =>
    cases ran.symm.trans ran'
    cases event.symm.trans begins.event
    obtain ⟨no_results, none_sent⟩ := Turn.nothing_of new
    have results := Turn.resultsOf_concat_of turns ran rfl
    rw [no_results, List.nil_append] at results
    have own : x.isOf s.run = true := Turn.isOf_eq_true_iff.mpr ⟨s, ran, rfl⟩
    have fresh : ∀ p ∈ x.found.others s.automation s.recipient, p.run ≠ s.run := by
      intro p mem same
      have earlier := numbered p (mem_others.mp mem).1
      rw [same, begins.run] at earlier
      exact Nat.lt_irrefl _ earlier
    refine ⟨?_, ⟨unsent, ?_, settled.refused, ?_⟩, ?_, ?_⟩
    · have first : (m.firstStretch { r with now } everyStep w).1 = s.result :=
        congrArg Prod.fst begins.result
      rw [results, ← first]
      exact .executed now w
    · rw [results, Turn.sentOf_concat_of turns own, none_sent, List.nil_append, settled.all,
        Incoming.deliveries, List.flatMap_singleton, Stretch.deliveries, begins.automation, begins.recipient]
    · rw [settled.exists_leaves_iff fresh, results]
      constructor
      · rintro ⟨all, pause, left, ending⟩
        exact ⟨all, ⟨s.result, pause, left, rfl, ending⟩, fun _ mem => absurd mem List.not_mem_nil⟩
      · rintro ⟨all, ⟨_, pause, left, ⟨⟩, ending⟩, -⟩
        exact ⟨all, pause, left, ending⟩
    · intro p mem same
      rcases settled.mem_waiting mem with there | ⟨-, leaves⟩
      · exact absurd same (fresh p there)
      · obtain ⟨pause, ending⟩ := leaves.ending
        rw [results]
        exact ⟨leaves.automation.trans begins.automation, leaves.recipient.trans begins.recipient,
          leaves.graph.trans begins.graph, s.result, pause, rfl, ending⟩
    · intro before y after cut
      cases before <;> cases cut

end Account

/-! ### All runs -/

/-- What is known of the turns so far, and of the conversations as they then are. -/
structure Kept (r : Runner σ) (t : Transport σ) (everyStep : Bool) (turns : List Turn)
    (c : Conversations) : Prop where
  made : ∀ x ∈ turns, x.Made r t everyStep
  single : c.pending.Nodup
  waiting_lt : ∀ p ∈ c.waiting, p.run < c.begun
  turns_lt : ∀ x ∈ turns, ∀ s, x.stretch = some s → s.run < c.begun
  origin : ∀ p ∈ c.waiting, ∃ early x late m s, turns = early ++ x :: late ∧ x.event = .message m ∧
    x.stretch = some s ∧ s.run = p.run
  accounts : ∀ early x late m s, turns = early ++ x :: late → x.event = .message m →
    x.stretch = some s →
    (∀ y ∈ early, y.isOf s.run = false) ∧ Account r t everyStep turns c m s.run late

namespace Kept

variable {turns : List Turn} {x : Turn}

theorem start : Kept r t everyStep [] {} where
  made := fun _ mem => absurd mem List.not_mem_nil
  single := List.nodup_nil
  waiting_lt := fun _ mem => absurd mem List.not_mem_nil
  turns_lt := fun _ mem => absurd mem List.not_mem_nil
  origin := fun _ mem => absurd mem List.not_mem_nil
  accounts := fun early _ _ _ _ cut => by cases early <;> cases cut

/-- **One more turn.** -/
theorem turn (kept : Kept r t everyStep turns x.found) (made : x.Made r t everyStep) :
    Kept r t everyStep (turns ++ [x]) x.left where
  made y mem := by
    rcases List.mem_append.mp mem with early | one
    · exact kept.made y early
    · exact List.mem_singleton.mp one ▸ made
  single := made.nodup_pending kept.single
  waiting_lt p mem := by
    cases own : x.isOf p.run with
    | false =>
      have there := ((made.mem_left_iff kept.single own).mp mem).1
      exact Nat.lt_of_lt_of_le (kept.waiting_lt p there) made.begun_le
    | true =>
      obtain ⟨s, ran, same⟩ := Turn.isOf_eq_true_iff.mp own
      exact same ▸ made.run_lt_begun ran kept.waiting_lt
  turns_lt y mem s ran := by
    rcases List.mem_append.mp mem with early | one
    · exact Nat.lt_of_lt_of_le (kept.turns_lt y early s ran) made.begun_le
    · rw [List.mem_singleton.mp one] at ran
      exact made.run_lt_begun ran kept.waiting_lt
  origin p mem := by
    have later : ∀ q ∈ x.found.waiting, q.run = p.run → ∃ early y late m s,
        turns ++ [x] = early ++ y :: late ∧ y.event = .message m ∧ y.stretch = some s ∧ s.run = p.run := by
      intro q there same
      obtain ⟨early, y, late, m, s, rfl, event, ran, number⟩ := kept.origin q there
      exact ⟨early, y, late ++ [x], m, s, by rw [List.append_assoc, List.cons_append], event, ran,
        number.trans same⟩
    cases own : x.isOf p.run with
    | false => exact later p ((made.mem_left_iff kept.single own).mp mem).1 rfl
    | true =>
      obtain ⟨s, ran, same⟩ := Turn.isOf_eq_true_iff.mp own
      cases made with
      | quiet still sent quiet => cases still.symm.trans ran
      | began ran' settled begins begun => exact ⟨turns, x, [], _, s, rfl, begins.event, ran, same⟩
      | wentOn ran' settled goes begun =>
        cases ran.symm.trans ran'
        exact later _ goes.waits (goes.run.symm.trans same)
  accounts early y late m s cut event ran := by
    rcases List.concat_eq_append_cons cut with ⟨rfl, rfl, rfl⟩ | ⟨late', rfl, cut'⟩
    · have new : ∀ z ∈ early, z.isOf s.run = false := by
        intro z mem
        rw [← Bool.not_eq_true, Turn.isOf_eq_true_iff]
        rintro ⟨s', ran', same⟩
        have earlier := kept.turns_lt z mem s' ran'
        rw [same, made.run_eq_begun event ran] at earlier
        exact Nat.lt_irrefl _ earlier
      exact ⟨new, .first made event ran new kept.waiting_lt⟩
    · obtain ⟨new, account⟩ := kept.accounts early y late' m s cut' event ran
      refine ⟨new, ?_⟩
      cases own : x.isOf s.run with
      | false => exact account.other made kept.single own
      | true =>
        have mem : y ∈ turns := cut' ▸ List.mem_append_right _ List.mem_cons_self
        exact account.own made (kept.turns_lt y mem s ran) own

end Kept

namespace Chronicle

/-- **Live conversations that are in order.** -/
structure Orderly (r : Runner σ) (t : Transport σ) (everyStep : Bool) (h : Chronicle σ) : Prop where
  /-- In no conversation do two runs wait. -/
  single : h.conversations.pending.Nodup
  /-- A run that waits is that of the latest message in its conversation that started one, and nobody has
  cancelled it since. It has the graph as it was then, and goes on where its last stretch waits. -/
  newest : ∀ p ∈ h.conversations.waiting, ∃ early x late m last pause,
    h.turns = early ++ x :: late ∧ x.event = .message m ∧ (m.found everyStep).triggered = true ∧
    x.isOf p.run = true ∧ m.automation = p.automation ∧ m.context.recipient = p.recipient ∧
    (∀ y ∈ late, y.ends p.automation p.recipient = false) ∧ p.graph = m.graph.snapshot ∧
    (Turn.resultsOf p.run h.turns).getLast? = some last ∧ last.ending = .suspended pause p.state
  /-- A message that starts a run begins a new one, of which the account is kept. -/
  runs : ∀ early x late m, h.turns = early ++ x :: late → x.event = .message m →
    (m.found everyStep).triggered = true → ∃ s, x.stretch = some s ∧
      (∀ y ∈ early, y.isOf s.run = false) ∧ Account r t everyStep h.turns h.conversations m s.run late
  /-- A message that starts no run sends nothing, and leaves everything that waits in place. -/
  ignored : ∀ x ∈ h.turns, ∀ m, x.event = .message m → (m.found everyStep).triggered = false →
    x.sent = [] ∧ x.left.waiting = x.found.waiting
  /-- An event changes nothing about what waits in conversations that it does not concern. -/
  apart : ∀ x ∈ h.turns, ∀ automation recipient, x.event.concerns automation recipient = false →
    x.left.waiting.filter (fun p => p.isOf automation recipient) =
      x.found.waiting.filter fun p => p.isOf automation recipient
  /-- The transport takes what runs send, and nothing else. -/
  taken : h.taken = h.turns.flatMap (·.sent) ∧ ∀ x ∈ h.turns, x.stretch = none → x.sent = []

theorem kept_ofEvents (r : Runner σ) (t : Transport σ) (everyStep : Bool) (w : σ)
    (events : List (Moment × LiveEvent)) :
    Kept r t everyStep (ofEvents r t everyStep w events).turns
      (ofEvents r t everyStep w events).conversations ∧
    (ofEvents r t everyStep w events).taken = (ofEvents r t everyStep w events).turns.flatMap (·.sent) ∧
    (ofEvents r t everyStep w events).turns.map (·.event) = events.map (·.2) := by
  induction events using List.reverseRecOn with
  | nil => exact ⟨.start, rfl, rfl⟩
  | append_singleton events e ih =>
    have next : ofEvents r t everyStep w (events ++ [e]) =
        (ofEvents r t everyStep w events).add r t everyStep e.1 e.2 := by
      rw [ofEvents, after, List.foldl_concat]
      rfl
    obtain ⟨kept, taken, each⟩ := ih
    obtain ⟨x, event, found, made, turns, left, more⟩ :=
      (ofEvents r t everyStep w events).add_turns r t everyStep e.1 e.2
    rw [next, turns, left, more]
    refine ⟨(found ▸ kept).turn made, ?_, ?_⟩
    · rw [taken, List.flatMap_append, List.flatMap_singleton]
    · rw [List.map_append, each, List.map_singleton, event, List.map_append, List.map_singleton]

/-- **Runs are delivered in order, once, and never after they are superseded.** Whatever happens in live
conversations, in whatever order, at whatever times and with whatever services, the conversations are in
order: each holds at most one run that waits, that of the latest message that started one there; of every
run that a message started, the transport took what its first stretches have to send, in order and each
thing once, and nothing after another run began in the conversation or what waited there was cancelled;
and neither a message that starts no run nor an event in another conversation changes anything. -/
theorem orderly_ofEvents (r : Runner σ) (t : Transport σ) (everyStep : Bool) (w : σ)
    (events : List (Moment × LiveEvent)) :
    (ofEvents r t everyStep w events).turns.map (·.event) = events.map (·.2) ∧
    (ofEvents r t everyStep w events).Orderly r t everyStep := by
  obtain ⟨kept, taken, each⟩ := kept_ofEvents r t everyStep w events
  refine ⟨each, ?_⟩
  generalize ofEvents r t everyStep w events = h at kept taken
  refine ⟨kept.single, fun p mem => ?_, fun early x late m cut event triggered => ?_,
    fun x mem m event ignored => ?_, fun x mem automation recipient other => ?_, taken, fun x mem still => ?_⟩
  · obtain ⟨early, x, late, m, s, cut, event, ran, number⟩ := kept.origin p mem
    obtain ⟨-, account⟩ := kept.accounts early x late m s cut event ran
    rw [number] at account
    obtain ⟨automation, recipient, graph, last, pause, ends, ending⟩ := account.waits p mem rfl
    obtain ⟨unsent, -, -, still⟩ := account.sent
    have latest := (still.mp ⟨p, mem, rfl⟩).2.2
    rw [← automation, ← recipient] at latest
    have there : x ∈ h.turns := cut ▸ List.mem_append_right _ List.mem_cons_self
    exact ⟨early, x, late, m, last, pause, cut, event, (kept.made x there).triggered event ran,
      Turn.isOf_eq_true_iff.mpr ⟨s, ran, number⟩, automation.symm, recipient.symm, latest, graph, ends,
      ending⟩
  · have mem : x ∈ h.turns := cut ▸ List.mem_append_right _ List.mem_cons_self
    obtain ⟨s, ran⟩ := (kept.made x mem).exists_stretch event triggered
    exact ⟨s, ran, kept.accounts early x late m s cut event ran⟩
  · exact (kept.made x mem).ignored event ignored
  · exact (kept.made x mem).waiting_of_other other
  · exact (kept.made x mem).sent_eq_nil still

end Chronicle

end Parley
