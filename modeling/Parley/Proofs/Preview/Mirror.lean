import Parley.Proofs.Live.Alone
import Parley.Proofs.Preview.Notices
import Parley.Proofs.Run.Name

/-!
# A preview shows what would be sent

A preview and a live conversation run the same graph in two ways: the one waits for each delay on the spot,
in the other a run waits and goes on when its delay is over. For a message to a preview that has just begun,
what the preview shows is what the live conversation sends, provided that nothing else happens there
(`Parley.Session.send_mirrors`).

Both come down to the stretches of one run. A preview shows all of them at once
(`Parley.Session.send_of_triggered`); a live conversation sends one after the other
(`Parley.Chronicle.after_message`).
-/

namespace Parley

variable {σ τ : Type}

/-- **What a live conversation sends for a message**, in terms of the run of another automation that the
service for replies does not tell apart. -/
theorem Chronicle.after_message_alike (h : Chronicle (σ × τ)) (r : Runner σ) {t : Transport τ}
    (willing : t.Willing) {everyStep : Bool} {m : Incoming}
    (triggered : (m.found everyStep).triggered = true) {preview : String}
    (alike : r.services.Alike m.automation preview) (n : Nat) :
    let run := r.executeAll m.graph.snapshot (m.found everyStep).entries m.text m.context preview h.world.1
    let later := h.after r.beside t.beside everyStep ((r.now, .message m) ::
      List.replicate n (r.now, .delayOver m.automation m.context.recipient))
    (n < run.1.countP (·.waits) →
      ∃ p, later.conversations.waitingIn? m.automation m.context.recipient = some p) ∧
    (run.1.countP (·.waits) ≤ n →
      later.conversations.waitingIn? m.automation m.context.recipient = none ∧
      later.taken = h.taken ++ m.deliveries run.1 ∧ later.world.1 = run.2) := by
  intro run later
  obtain ⟨still, done⟩ := h.after_message r willing triggered n
  have named := Runner.executeAll_named alike m.graph.snapshot (m.found everyStep).entries m.text m.context
    h.world.1
  have length : run.1.length = run.1.countP (·.waits) + 1 := r.walker.length_stretches _ _ _
  -- the run of the conversation is the other one, but for the name in its states
  rw [named, List.length_map] at still done
  rw [Incoming.deliveries, List.flatMap_map] at done
  exact ⟨fun less => still (length ▸ Nat.succ_lt_succ less),
    fun most => done (length ▸ Nat.succ_le_succ most)⟩

namespace Session

variable {s : Session} {k : Stage σ} {everyStep : Bool} {message : String} {w : σ}

/-! ### What comes of a message -/

/-- A message without white space around it, to a session that does not wait for an answer, is received after its
line as it is. -/
theorem send_of_trimmed (idle : s.awaiting = none) (some_text : message ≠ "")
    (trimmed : Text.trim message = message) :
    s.send k everyStep message w =
      .ok ((s.append (userLine (k.now s) message [])).receive k everyStep message w) := by
  rw [← trimmed] at some_text
  rw [send_of_idle idle some_text, trimmed]

/-- A line of the user comes before the lines of effects. -/
theorem transcript_of_line {now : Moment} {times : Nat → Moment} {s' : Session} {effects : List Effect}
    (adds : AddsEffects times (s.append (userLine now message [])) s' effects) :
    ∃ line added, s'.transcript = s.transcript ++ line :: added ∧ line.unnamed = userLine now message [] ∧
      added.map Entry.unnamed = linesFrom times (s.transcript.length + 1) effects := by
  obtain ⟨lines, transcript, unnamed⟩ := adds.after_line
  obtain ⟨line, added, rfl, own, others⟩ := List.map_eq_cons_iff.mp unnamed
  exact ⟨line, added, transcript, own, others⟩

/-- A message that starts a run adds its line and the lines of the stretches. -/
theorem send_of_triggered (idle : s.awaiting = none) (some_text : message ≠ "")
    (trimmed : Text.trim message = message)
    (triggered : (s.graph.matchMessage everyStep message).triggered = true) :
    let run := k.walker.executeAll s.graph.snapshot (s.graph.matchMessage everyStep message).entries message
      s.knownContext s.automation w
    ∃ s' line added, s.send k everyStep message w = .ok (s', run.2) ∧
      s'.transcript = s.transcript ++ line :: added ∧ line.unnamed = userLine (k.now s) message [] ∧
      added.map Entry.unnamed = linesFrom k.clock.line (s.transcript.length + 1) (run.1.flatMap told) := by
  intro run
  let asked := s.append (userLine (k.now s) message [])
  have received : asked.receive k everyStep message w =
      (run.1.foldl (fun s result => s.showStretch k.clock.line result) asked, run.2) := by
    unfold receive play
    exact if_pos triggered
  have answered : s.send k everyStep message w = _ := send_of_trimmed idle some_text trimmed
  rw [received] at answered
  obtain ⟨line, added, transcript, own, shown⟩ := transcript_of_line (adds_stretches asked k.clock.line run.1)
  exact ⟨_, line, added, answered, transcript, own, shown⟩

/-- A message that starts no run adds its line and a notice that says so. -/
theorem send_of_ignored (idle : s.awaiting = none) (some_text : message ≠ "")
    (trimmed : Text.trim message = message)
    (ignored : (s.graph.matchMessage everyStep message).triggered = false) :
    ∃ s' line notice, s.send k everyStep message w = .ok (s', w) ∧
      s'.transcript = s.transcript ++ [line, notice] ∧ line.unnamed = userLine (k.now s) message [] ∧
      notice.kind = "status" ∧ notice.saysWaited = false := by
  have plain : ∀ text ∈ [noTriggerText, noAutomationText], Text.startsWith text "⏱️ Waited " = false := by
    unfold noTriggerText noAutomationText Text.startsWith
    simp only [List.mem_cons, List.not_mem_nil, or_false, forall_eq_or_imp, forall_eq, String.toList_append]
    exact ⟨rfl, rfl⟩
  let asked := s.append (userLine (k.now s) message [])
  obtain ⟨text, among, received⟩ : ∃ text ∈ [noTriggerText, noAutomationText],
      asked.receive k everyStep message w = (asked.tell k.clock.line text, w) := by
    refine ⟨_, ?_, if_neg (Bool.eq_false_iff.mp ignored)⟩
    split
    · split
      · exact List.mem_cons_of_mem _ List.mem_cons_self
      · exact List.mem_cons_self
    · exact List.mem_cons_of_mem _ List.mem_cons_self
  have answered : s.send k everyStep message w = _ := send_of_trimmed idle some_text trimmed
  rw [received] at answered
  obtain ⟨line, added, transcript, own, shown⟩ :=
    transcript_of_line (adds_emit asked k.clock.line { kind := .status, text })
  obtain ⟨notice, rfl, eq⟩ := List.map_eq_singleton_iff.mp shown
  refine ⟨_, line, notice, answered, transcript, own, congrArg Entry.kind eq, ?_⟩
  exact (congrArg Entry.saysWaited eq).trans (Effect.Plain.of_text (plain text among) _)

/-! ### Previews and live conversations -/

/-- **A preview shows what would be sent.** A message is sent to a preview of a graph that has just begun,
and the same message comes in at a live conversation with the same graph and the same context, whatever
happened there before; the run then goes on there whenever its delay is over. The clock stands still,
the services are the same and do not tell the two automations apart, as they cannot if the two are one,
and the transport refuses nothing.

The preview adds the line of the user and further lines. If the message starts a run, they are the lines
of what the live conversation sends, in the same order, and notices of the delays: as many as delays
have to be over in the conversation until nothing waits there and everything is sent. Both leave the
services in the same state. If the message starts no run, nothing is sent and nothing changes in the
conversation, and the preview adds a single notice. -/
theorem send_mirrors (r : Runner σ) {t : Transport τ} (willing : t.Willing) (everyStep : Bool)
    (g : Graph) (context : Context) {live preview : String} (alike : r.services.Alike live preview)
    (latency longestDelay : Float) (stem : String) (begun : Moment) {message : String}
    (some_text : message ≠ "") (trimmed : Text.trim message = message) (h : Chronicle (σ × τ)) :
    let s := ({ graph := g, context, automation := preview, latency, longestDelay, stem } : Session).greet
      begun
    let m : Incoming := { automation := live, graph := g, text := message, context }
    let later (delays : Nat) := h.after r.beside t.beside everyStep
      ((r.now, .message m) :: List.replicate delays (r.now, .delayOver live context.recipient))
    ∃ s' w line lines, s.send r.stage everyStep message h.world.1 = .ok (s', w) ∧
      s'.transcript = s.transcript ++ line :: lines ∧
      line.unnamed = userLine r.now message [] ∧
      ((m.found everyStep).triggered = true →
        ∃ sent : List Delivery, (∀ d ∈ sent, d.automation = live ∧ d.recipient = context.recipient) ∧
          (lines.filter fun line => !line.saysWaited).map Entry.unnamed =
            sent.map (fun d => lineOf r.now d.effect) ∧
          (∀ n < lines.countP (·.saysWaited),
            ∃ p, (later n).conversations.waitingIn? live context.recipient = some p) ∧
          ∀ n ≥ lines.countP (·.saysWaited),
            (later n).conversations.waitingIn? live context.recipient = none ∧
            (later n).taken = h.taken ++ sent ∧ (later n).world.1 = w) ∧
      ((m.found everyStep).triggered = false →
        ((later 0).conversations = h.conversations ∧ (later 0).taken = h.taken ∧
          (later 0).world = h.world ∧ w = h.world.1) ∧
        ∃ notice, lines = [notice] ∧ notice.kind = "status" ∧ notice.saysWaited = false) := by
  intro s m later
  cases started : (m.found everyStep).triggered with
  | true =>
    obtain ⟨s', line, added, answered, transcript, own, shown⟩ :=
      send_of_triggered (s := s) (k := r.stage) (w := h.world.1) rfl some_text trimmed started
    have plain := (r.services.only_plain (fun _ => r.now) r.maxSteps).executeAll g.snapshot
      (m.found everyStep).entries message context preview h.world.1
    obtain ⟨effects, waits⟩ := lines_of_run plain (shown.trans (linesFrom_still r.now _ _))
    have sends := h.after_message_alike r willing started alike
    refine ⟨s', _, line, added, answered, transcript, own, fun _ => ?_, fun eq => by cases eq⟩
    refine ⟨m.deliveries _, ?_, ?_, fun n less => (sends n).1 (waits ▸ less),
      fun n most => (sends n).2 (waits ▸ most)⟩
    · intro d mem
      obtain ⟨result, -, there⟩ := List.mem_flatMap.mp mem
      obtain ⟨e, -, rfl⟩ := List.mem_map.mp there
      exact ⟨rfl, rfl⟩
    · rw [effects, Incoming.deliveries, List.map_flatMap, List.map_flatMap]
      simp only [List.map_map]
      rfl
  | false =>
    obtain ⟨s', line, notice, answered, transcript, own, status, plain⟩ :=
      send_of_ignored (s := s) (k := r.stage) (w := h.world.1) rfl some_text trimmed started
    obtain ⟨conversations, world, taken⟩ := h.add_ignored r.beside t.beside r.now started
    exact ⟨s', _, line, [notice], answered, transcript, own, (fun eq => by cases eq),
      fun _ => ⟨⟨conversations, taken, world, rfl⟩, notice, rfl, status, plain⟩⟩

/-- A graph that greets, waits and then replies. -/
def patience : Graph :=
  { table := [("in", { id := "in", body := .trigger {} }),
      ("hello", { id := "hello", body := .message { text := "Hello" } }),
      ("wait", { id := "wait", body := .delay {} }), ("reply", { id := "reply", body := .reply {} })]
    edges := [⟨"in", "hello", none, none⟩, ⟨"hello", "wait", none, none⟩, ⟨"wait", "reply", none, none⟩] }

/-- The service counts what it is asked, and the transport what it takes. -/
theorem send_mirrors_patience :
    let r : Runner Nat :=
      { services :=
          { reply := some fun q asked => (.ok { success := true, text := some q.message }, asked + 1) }
        now := ⟨0, none⟩ }
    let t : Transport Nat := { deliver := fun _ taken => .ok (taken + 1) }
    let context : Context := { recipient := "you" }
    let s := ({ graph := patience, context, automation := "preview" } : Session).greet r.now
    let later (delays : Nat) := ({ world := (0, 0) } : Chronicle (Nat × Nat)).after r.beside t.beside false
      ((r.now, .message { automation := "live", graph := patience, text := "hi", context }) ::
        List.replicate delays (r.now, .delayOver "live" "you"))
    t.Willing ∧ r.services.Alike "live" "preview" ∧ "hi" ≠ "" ∧ Text.trim "hi" = "hi" ∧
    ∃ s' w line lines sent, s.send r.stage false "hi" 0 = .ok (s', w) ∧
      s'.transcript = s.transcript ++ line :: lines ∧
      (lines.filter fun line => !line.saysWaited).map Entry.unnamed =
        sent.map (fun d => lineOf r.now d.effect) ∧
      (later (lines.countP (·.saysWaited))).conversations.waitingIn? "live" "you" = none ∧
      (later (lines.countP (·.saysWaited))).taken = sent ∧
      (later (lines.countP (·.saysWaited))).world.1 = w := by
  intro r t context s later
  have willing : t.Willing := fun _ taken => ⟨taken + 1, rfl⟩
  have alike : r.services.Alike "live" "preview" := by
    rintro ask ⟨⟩ q asked
    rfl
  have some_text : "hi" ≠ "" := by decide
  have trimmed : Text.trim "hi" = "hi" := by decide +kernel
  have started : (patience.snapshot.matchMessage false "hi").triggered = true := by decide +kernel
  obtain ⟨s', w, line, lines, answered, transcript, -, triggered, -⟩ := send_mirrors r willing false patience
    context alike 0.0 5.0 "" r.now some_text trimmed ({ world := (0, 0) } : Chronicle (Nat × Nat))
  obtain ⟨sent, -, shown, -, sends⟩ := triggered started
  obtain ⟨idle, taken, world⟩ := sends _ (Nat.le_refl _)
  exact ⟨willing, alike, some_text, trimmed, s', w, line, lines, sent, answered, transcript, shown, idle,
    taken, world⟩

end Session

end Parley
