import Parley.Proofs.Live.Order

/-!
# What is done to conversations is made of events

A message that comes in is answered, and then the delays that are over already let their runs go on; when
the clock moves, so do those that end in the meantime. Each of these is an event, so whatever is done to
conversations is a sequence of events (`Parley.Conversations.inbound_eq_happenAll`,
`Parley.Conversations.advance_eq_happenAll`). This rests on the fact that no two runs wait in the same
conversation: the run that goes on next is then the one that waits in its conversation.
-/

namespace Parley.Conversations

variable {σ : Type} {c : Conversations} {r : Runner σ} {t : Transport σ}

/-! ### Single runs -/

theorem nodup_pending_drop (single : c.pending.Nodup) (automation recipient : String) :
    (c.drop automation recipient).pending.Nodup :=
  nodup_pending_others single automation recipient

theorem nodup_pending_schedule (single : c.pending.Nodup) (p : Waiting) :
    (c.schedule p).pending.Nodup :=
  nodup_pending_concat single p

theorem nodup_pending_settle (single : c.pending.Nodup) (t : Transport σ) (run : Nat)
    (automation recipient : String) (g : Graph) (result : RunResult) (w : σ) :
    (c.settle t run automation recipient g result w).2.1.pending.Nodup := by
  unfold settle
  split
  · exact single
  · split
    · exact nodup_pending_schedule single _
    · exact single

theorem nodup_pending_fire (single : c.pending.Nodup) (r : Runner σ) (t : Transport σ) (p : Waiting) (w : σ) :
    (c.fire r t p w).1.pending.Nodup := by
  have settled := nodup_pending_settle
    (c := { c.drop p.automation p.recipient with time := p.due.getD c.time })
    (nodup_pending_drop single p.automation p.recipient) t p.run p.automation p.recipient p.graph
    (r.resume p.graph p.state w).1 (r.resume p.graph p.state w).2
  unfold fire
  dsimp only
  split
  · rename_i eq
    rw [eq] at settled
    exact settled
  · rename_i eq
    rw [eq] at settled
    exact settled

theorem nodup_pending_answer (single : c.pending.Nodup) (r : Runner σ) (t : Transport σ) (everyStep : Bool)
    (m : Incoming) (w : σ) :
    (c.answer r t everyStep m.automation m.graph m.text m.context w).2.1.pending.Nodup := by
  unfold answer
  dsimp only
  split
  · have settled := nodup_pending_settle
      (c := { c.drop m.automation m.context.recipient with begun := c.begun + 1 })
      (nodup_pending_drop single m.automation m.context.recipient) t c.begun m.automation
      m.context.recipient m.graph.snapshot (m.firstStretch r everyStep w).1 (m.firstStretch r everyStep w).2
    unfold Incoming.firstStretch Incoming.found at settled
    split
    · rename_i eq
      rw [eq] at settled
      exact settled
    · rename_i eq
      rw [eq] at settled
      exact settled
  · exact single

/-- Where no two runs wait in the same conversation, a run that waits is the one of its conversation. -/
theorem waitingIn?_of_mem (single : c.pending.Nodup) {p : Waiting} (mem : p ∈ c.waiting) :
    c.waitingIn? p.automation p.recipient = some p := by
  have own : p.isOf p.automation p.recipient = true := isOf_iff.mpr ⟨rfl, rfl⟩
  cases found : c.waitingIn? p.automation p.recipient with
  | none => exact absurd own (List.find?_eq_none.mp found p mem)
  | some q =>
    obtain ⟨there, isOf⟩ := waitingIn?_eq_some found
    obtain ⟨automation, recipient⟩ := isOf_iff.mp isOf
    rw [eq_of_nodup_pending single there mem automation recipient]

/-! ### Sequences of events -/

/-- Takes events one after the other. -/
def happenAll (c : Conversations) (r : Runner σ) (t : Transport σ) (everyStep : Bool)
    (events : List LiveEvent) (w : σ) : Conversations × σ :=
  events.foldl (fun s e => s.1.happen r t everyStep e s.2) (c, w)

/-- No two runs wait in the same conversation after an event. -/
theorem nodup_pending_happen (single : c.pending.Nodup) (r : Runner σ) (t : Transport σ) (everyStep : Bool)
    (e : LiveEvent) (w : σ) : (c.happen r t everyStep e w).1.pending.Nodup := by
  cases e with
  | message m => exact nodup_pending_answer single r t everyStep m w
  | delayOver automation recipient =>
    unfold happen
    dsimp only
    split
    · exact nodup_pending_fire single r t _ w
    · exact single
  | cancel automation recipient => exact nodup_pending_drop single automation recipient
  | cancelAutomation automation => exact single.sublist (List.Sublist.map _ List.filter_sublist)

theorem nodup_pending_happenAll (single : c.pending.Nodup) (r : Runner σ) (t : Transport σ) (everyStep : Bool)
    (events : List LiveEvent) (w : σ) : (c.happenAll r t everyStep events w).1.pending.Nodup := by
  induction events generalizing c w with
  | nil => exact single
  | cons e rest ih => exact ih (nodup_pending_happen single r t everyStep e w) _

/-- The delays are over of the runs that wait in some conversations, one after the other. -/
def delaysOver (conversations : List (String × String)) : List LiveEvent :=
  conversations.map fun k => .delayOver k.1 k.2

theorem message_not_mem_delaysOver {m : Incoming} {conversations : List (String × String)} :
    LiveEvent.message m ∉ delaysOver conversations := by
  intro mem
  obtain ⟨_, -, same⟩ := List.mem_map.mp mem
  cases same

/-- **Letting runs go on is a sequence of delays that are over.** -/
theorem run_eq_happenAll (single : c.pending.Nodup) (r : Runner σ) (t : Transport σ) (everyStep : Bool)
    (limit : Option Float) (w : σ) :
    ∃ keys, c.run r t limit w = c.happenAll r t everyStep (delaysOver keys) w := by
  fun_induction Conversations.run c r t limit w with
  | case1 c w idle => exact ⟨[], rfl⟩
  | case2 c w p next ih =>
    obtain ⟨keys, rest⟩ := ih (nodup_pending_fire single r t p w)
    refine ⟨(p.automation, p.recipient) :: keys, rest.trans ?_⟩
    have first : c.happen r t everyStep (.delayOver p.automation p.recipient) w = c.fire r t p w := by
      simp only [happen, waitingIn?_of_mem single (next?_mem next)]
    simp only [happenAll, delaysOver, List.map_cons, List.foldl_cons, first]

/-- **Moving the clock** is a sequence of delays that are over, but for what the clock then shows. -/
theorem advance_eq_happenAll (single : c.pending.Nodup) (r : Runner σ) (t : Transport σ) (everyStep : Bool)
    (seconds : Float) (w : σ) :
    ∃ keys, c.advance r t seconds w =
      ({ (c.happenAll r t everyStep (delaysOver keys) w).1 with time := c.time + seconds },
        (c.happenAll r t everyStep (delaysOver keys) w).2) := by
  obtain ⟨keys, run⟩ := run_eq_happenAll single r t everyStep (some (c.time + seconds)) w
  exact ⟨keys, by simp only [advance, run]⟩

/-- **Receiving a message** is the message and a sequence of delays that are over. -/
theorem inbound_eq_happenAll (single : c.pending.Nodup) (r : Runner σ) (t : Transport σ) (everyStep : Bool)
    (m : Incoming) (w : σ) :
    ∃ keys, (c.inbound r t everyStep m.automation m.graph m.text m.context w).2 =
      c.happenAll r t everyStep (.message m :: delaysOver keys) w := by
  have single' := nodup_pending_answer single r t everyStep m w
  have happened : c.happen r t everyStep (.message m) w =
      (c.answer r t everyStep m.automation m.graph m.text m.context w).2 := rfl
  unfold inbound
  split
  · rename_i result c' w' eq
    rw [eq] at single' happened
    obtain ⟨keys, run⟩ := run_eq_happenAll single' r t everyStep none w'
    refine ⟨keys, run.trans ?_⟩
    simp only [happenAll, List.foldl_cons, happened]
  · refine ⟨[], ?_⟩
    simp only [happenAll, delaysOver, List.map_nil, List.foldl_cons, List.foldl_nil, happened]

end Parley.Conversations
