import Parley.Proofs.Live.Order

/-!
# Runs that nothing disturbs

A message starts a run in a live conversation, and then nothing happens there but that its delays are over.
As long as the transport refuses nothing, the whole of the run is sent: as many delays have to be over as
the run has stretches after the first, a run waits until then, and none does afterwards
(`Parley.Chronicle.after_message`).
-/

namespace Parley

variable {σ τ : Type}

/-! ### Willing transports -/

namespace Transport

variable {t : Transport τ}

/-- A transport beside services that have another part of the world. -/
def beside (t : Transport τ) : Transport (σ × τ) :=
  { deliver := fun d w =>
      match t.deliver d w.2 with
      | .ok v => .ok (w.1, v)
      | .error failure => .error failure }

/-- The transport refuses nothing. -/
def Willing (t : Transport τ) : Prop := ∀ d w, ∃ v, t.deliver d w = .ok v

theorem Willing.beside (h : t.Willing) : (t.beside : Transport (σ × τ)).Willing := by
  intro d w
  obtain ⟨v, took⟩ := h d w.2
  exact ⟨(w.1, v), by simp only [Transport.beside, took]⟩

/-- What such a transport takes makes no difference to the services. -/
theorem fst_of_takes {ds : List Delivery} {u v : σ × τ}
    (h : (t.beside : Transport (σ × τ)).Takes ds u v) : v.1 = u.1 := by
  induction h with
  | nothing w => rfl
  | more first later ih =>
    rw [ih]
    unfold beside at first
    dsimp only at first
    split at first
    · cases first
      rfl
    · cases first

end Transport

namespace Conversations

variable {c after : Conversations} {automation recipient : String} {p : Waiting} {g : Graph}
  {result : RunResult} {t : Transport σ} {s : Stretch} {sent unsent : List Delivery}

/-! ### How a conversation stands -/

theorem find?_others (c : Conversations) (automation recipient : String) :
    (c.others automation recipient).find? (fun p => p.isOf automation recipient) = none := by
  rw [List.find?_eq_none]
  intro q mem
  rw [isOf_of_mem_others mem]
  exact Bool.false_ne_true

theorem waitingIn?_of_others (h : after.waiting = c.others automation recipient) :
    after.waitingIn? automation recipient = none := by
  rw [waitingIn?, h, find?_others]

theorem waitingIn?_of_concat (h : after.waiting = c.others automation recipient ++ [p])
    (own : p.isOf automation recipient = true) : after.waitingIn? automation recipient = some p := by
  rw [waitingIn?, h, List.find?_append, find?_others, Option.none_or, List.find?_singleton, if_pos own]

/-- How a conversation stands after a stretch of a run on a graph. -/
inductive Stands (c : Conversations) (automation recipient : String) (g : Graph) (result : RunResult) :
    Prop where
  /-- The run waits where the stretch ends. -/
  | waits {p : Waiting} {pause : Suspension} (found : c.waitingIn? automation recipient = some p)
      (graph : p.graph = g) (ending : result.ending = .suspended pause p.state)
  /-- The stretch was the last one, and nothing waits. -/
  | ended (found : c.waitingIn? automation recipient = none)
      (ending : ∀ pause left, result.ending ≠ .suspended pause left)

theorem Settled.unsent_eq_nil (h : Settled t s (c.others s.automation s.recipient) after sent unsent)
    (willing : t.Willing) : unsent = [] := by
  cases left : unsent with
  | nil => rfl
  | cons d rest =>
    obtain ⟨w, failure, refused⟩ := h.refused d (by rw [left]; rfl)
    obtain ⟨v, took⟩ := willing d w
    cases refused.symm.trans took

/-- A willing transport takes all of a stretch. -/
theorem Settled.stands (h : Settled t s (c.others s.automation s.recipient) after sent unsent)
    (willing : t.Willing) :
    sent = s.deliveries ∧ after.Stands s.automation s.recipient s.graph s.result := by
  have none_left := h.unsent_eq_nil willing
  refine ⟨by rw [← h.all, none_left, List.append_nil], ?_⟩
  rcases h.waiting with ⟨p, waiting, -, leaves⟩ | ⟨waiting, ends⟩
  · obtain ⟨pause, ending⟩ := leaves.ending
    exact .waits (waitingIn?_of_concat waiting (isOf_iff.mpr ⟨leaves.automation, leaves.recipient⟩))
      leaves.graph ending
  · exact .ended (waitingIn?_of_others waiting) (ends none_left)

end Conversations

namespace Chronicle

open Conversations

variable {t : Transport τ} {everyStep : Bool} {automation recipient : String}

/-! ### One event -/

/-- An event after which everything is as before, but that it has happened. -/
theorem add_of_still (h : Chronicle σ) {r : Runner σ} {t : Transport σ} (now : Moment) {e : LiveEvent}
    (still : h.conversations.happen ({ r with now } : Runner σ).beside t.recording everyStep e
      (h.world, h.taken) = (h.conversations, h.world, h.taken)) :
    (h.add r t everyStep now e).conversations = h.conversations ∧
    (h.add r t everyStep now e).world = h.world ∧ (h.add r t everyStep now e).taken = h.taken := by
  have did := still.trans
    (congrArg (fun log => (h.conversations, h.world, log)) (List.append_nil h.taken).symm)
  rw [h.add_of_happen now did]
  exact ⟨rfl, rfl, List.append_nil _⟩

/-- A message that starts no run changes nothing and sends nothing. -/
theorem add_ignored (h : Chronicle σ) (r : Runner σ) (t : Transport σ) (now : Moment) {m : Incoming}
    (ignored : (m.found everyStep).triggered = false) :
    (h.add r t everyStep now (.message m)).conversations = h.conversations ∧
    (h.add r t everyStep now (.message m)).world = h.world ∧
    (h.add r t everyStep now (.message m)).taken = h.taken := by
  refine h.add_of_still now ?_
  unfold Incoming.found at ignored
  simp only [happen, answer, ignored, Bool.false_eq_true, if_false]

/-- Where nothing waits, no delay can be over. -/
theorem add_delayOver_of_none (h : Chronicle σ) (r : Runner σ) (t : Transport σ) (everyStep : Bool)
    (now : Moment) (none_waits : h.conversations.waitingIn? automation recipient = none) :
    (h.add r t everyStep now (.delayOver automation recipient)).conversations = h.conversations ∧
    (h.add r t everyStep now (.delayOver automation recipient)).world = h.world ∧
    (h.add r t everyStep now (.delayOver automation recipient)).taken = h.taken := by
  refine h.add_of_still now ?_
  simp only [happen, none_waits]

/-- What is known after an event that sets a stretch of a run going, and all of the stretch is sent. -/
structure Ran (h later : Chronicle (σ × τ)) (automation recipient : String) (g : Graph)
    (stretch : RunResult × σ) : Prop where
  stands : later.conversations.Stands automation recipient g stretch.1
  taken : later.taken = h.taken ++ stretch.1.effects.map (deliveryOf automation recipient)
  world : later.world.1 = stretch.2

theorem ran_of_settled {h : Chronicle (σ × τ)} {r : Runner σ} (willing : t.Willing) {e : LiveEvent}
    {s : Stretch} {left : Conversations} {u v : σ × τ} {sent unsent : List Delivery} {stretch : RunResult × σ}
    (did : h.conversations.happen (r.beside : Runner (σ × τ)).beside t.beside.recording everyStep e
      (h.world, h.taken) = (left, v, h.taken ++ sent))
    (takes : t.beside.Takes sent u v)
    (settled : Settled (t.beside : Transport (σ × τ)) s
      (h.conversations.others s.automation s.recipient) left sent unsent)
    (result : (stretch.1, stretch.2, h.world.2) = (s.result, u)) :
    h.Ran (h.add r.beside t.beside everyStep r.now e) s.automation s.recipient s.graph stretch := by
  obtain ⟨result, world⟩ := Prod.mk.inj result
  obtain ⟨rfl, stands⟩ := settled.stands willing.beside
  rw [h.add_of_happen (r := r.beside) r.now did]
  refine ⟨result ▸ stands, ?_, (Transport.fst_of_takes takes).trans (congrArg Prod.fst world).symm⟩
  rw [Stretch.deliveries, result]

/-- A message starts a run. -/
theorem ran_message (h : Chronicle (σ × τ)) (r : Runner σ) (willing : t.Willing) {m : Incoming}
    (triggered : (m.found everyStep).triggered = true) :
    h.Ran (h.add r.beside t.beside everyStep r.now (.message m)) m.automation m.context.recipient
      m.graph.snapshot (m.firstStretch r everyStep h.world.1) := by
  obtain ⟨left, v, sent, did, how⟩ :=
    h.conversations.happen_cases r.beside t.beside everyStep (.message m) h.world h.taken
  rcases how with ⟨-, -, -, quiet⟩ | ⟨s, u, unsent, -, takes, settled, ⟨m', begins, -⟩ | ⟨p, goes, -⟩⟩
  · cases (quiet.ignored m rfl).symm.trans triggered
  · cases begins.event
    have first := r.beside_execute m.graph.snapshot h.world.2 (m.found everyStep).entries m.text m.context
      m.automation h.world.1
    rw [← begins.automation, ← begins.recipient, ← begins.graph]
    exact ran_of_settled willing did takes settled (first.symm.trans begins.result)
  · cases goes.event

/-- A run that waits goes on when its delay is over. -/
theorem ran_delayOver (h : Chronicle (σ × τ)) (r : Runner σ) (everyStep : Bool) (willing : t.Willing)
    {p : Waiting} (waits : h.conversations.waitingIn? automation recipient = some p) :
    h.Ran (h.add r.beside t.beside everyStep r.now (.delayOver automation recipient)) automation recipient
      p.graph (r.resume p.graph p.state h.world.1) := by
  obtain ⟨left, v, sent, did, how⟩ :=
    h.conversations.happen_cases r.beside t.beside everyStep (.delayOver automation recipient) h.world
      h.taken
  rcases how with ⟨still, -, -, -⟩ | ⟨s, u, unsent, -, takes, settled, ⟨m, begins, -⟩ | ⟨q, goes, -⟩⟩
  · simp only [stretch?, waits, Option.map_some] at still
    cases still
  · cases begins.event
  · obtain ⟨rfl, rfl⟩ := LiveEvent.delayOver.inj goes.event
    obtain rfl : p = q := Option.some.inj (waits.symm.trans goes.found)
    have next := r.beside_resume p.graph h.world.2 p.state h.world.1
    have ran := ran_of_settled willing did takes settled (next.symm.trans goes.result)
    rw [goes.graph] at ran
    exact ran

/-! ### Whole runs -/

/-- Where nothing waits, nothing changes as time passes. -/
theorem after_delays_of_none (h : Chronicle σ) (r : Runner σ) (t : Transport σ) (everyStep : Bool)
    (now : Moment) (none_waits : h.conversations.waitingIn? automation recipient = none) (n : Nat) :
    let later := h.after r t everyStep (List.replicate n (now, .delayOver automation recipient))
    later.conversations.waitingIn? automation recipient = none ∧ later.taken = h.taken ∧
      later.world = h.world := by
  induction n generalizing h with
  | zero => exact ⟨none_waits, rfl, rfl⟩
  | succ n ih =>
    obtain ⟨conversations, world, taken⟩ := h.add_delayOver_of_none r t everyStep now none_waits
    have rest := ih (h.add r t everyStep now (.delayOver automation recipient)) (conversations ▸ none_waits)
    rw [taken, world] at rest
    exact rest

/-- **A run that goes on whenever its delay is over**: from where a stretch of it is sent, it waits as many
more times as it has stretches to come, and then all of them are sent. -/
theorem after_delays (h : Chronicle (σ × τ)) (r : Runner σ) (everyStep : Bool) (willing : t.Willing)
    {g : Graph} {result : RunResult} (stands : h.conversations.Stands automation recipient g result)
    (n : Nat) :
    let run := r.walker.stretches g result h.world.1
    let later := h.after r.beside t.beside everyStep
      (List.replicate n (r.now, .delayOver automation recipient))
    (n + 1 < run.1.length → ∃ p, later.conversations.waitingIn? automation recipient = some p) ∧
    (run.1.length ≤ n + 1 →
      later.conversations.waitingIn? automation recipient = none ∧
      later.taken = h.taken ++
        run.1.tail.flatMap (fun stretch => stretch.effects.map (deliveryOf automation recipient)) ∧
      later.world.1 = run.2) := by
  generalize world : h.world.1 = w
  fun_induction Walker.stretches r.walker g result w generalizing h n with
  | case1 result w pause left waits rest u later ih =>
    cases stands with
    | ended found ending => exact absurd waits (ending pause left)
    | @waits p pause' found graph ending =>
      cases waits.symm.trans ending
      have ran := h.ran_delayOver r everyStep willing found
      rw [graph, world] at ran
      obtain ⟨others, all⟩ :=
        r.walker.exists_stretches_eq_cons g (r.resume g p.state w).1 (r.resume g p.state w).2
      have next : rest = (r.resume g p.state w).1 :: others := (congrArg Prod.fst later).symm.trans all
      cases n with
      | zero => exact ⟨fun _ => ⟨p, found⟩, fun less => absurd less (by simp [next])⟩
      | succ n =>
        -- one more delay is over, and the run stands where its next stretch ends
        have following := ih _ ran.stands n ran.world
        rw [later] at following
        obtain ⟨still, done⟩ := following
        refine ⟨fun more => still (Nat.lt_of_succ_lt_succ more), fun less => ?_⟩
        obtain ⟨idle, taken, same⟩ := done (Nat.le_of_succ_le_succ less)
        refine ⟨idle, taken.trans ?_, same⟩
        rw [ran.taken, next, List.append_assoc]
        rfl
  | case2 result w ends =>
    cases stands with
    | @waits p pause found graph ending => exact absurd ending (ends pause p.state)
    | ended found ending =>
      obtain ⟨idle, taken, still⟩ := h.after_delays_of_none r.beside t.beside everyStep r.now found n
      refine ⟨fun more => absurd more (by simp), fun _ => ⟨idle, ?_, ?_⟩⟩
      · rw [taken]
        simp
      · rw [still, world]

/-- **A message, and then nothing but delays that are over.** The run that the message starts waits as long
as it has stretches to come, and then all of it is sent. -/
theorem after_message (h : Chronicle (σ × τ)) (r : Runner σ) (willing : t.Willing) {m : Incoming}
    (triggered : (m.found everyStep).triggered = true) (n : Nat) :
    let run := r.executeAll m.graph.snapshot (m.found everyStep).entries m.text m.context m.automation
      h.world.1
    let later := h.after r.beside t.beside everyStep ((r.now, .message m) ::
      List.replicate n (r.now, .delayOver m.automation m.context.recipient))
    (n + 1 < run.1.length →
      ∃ p, later.conversations.waitingIn? m.automation m.context.recipient = some p) ∧
    (run.1.length ≤ n + 1 →
      later.conversations.waitingIn? m.automation m.context.recipient = none ∧
      later.taken = h.taken ++ m.deliveries run.1 ∧ later.world.1 = run.2) := by
  intro run later
  have ran := h.ran_message r willing triggered
  obtain ⟨still, done⟩ := after_delays _ r everyStep willing ran.stands n
  rw [ran.world] at still done
  obtain ⟨others, all⟩ := r.walker.exists_stretches_eq_cons m.graph.snapshot
    (m.firstStretch r everyStep h.world.1).1 (m.firstStretch r everyStep h.world.1).2
  have first : run.1 = (m.firstStretch r everyStep h.world.1).1 :: others := all
  refine ⟨still, fun less => ?_⟩
  obtain ⟨idle, taken, same⟩ := done less
  refine ⟨idle, taken.trans ?_, same⟩
  rw [ran.taken, all, first, List.append_assoc]
  rfl

end Chronicle

end Parley
