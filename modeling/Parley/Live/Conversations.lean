import Parley.Run.Stretches
import Parley.Trigger.Match
import Parley.Service.Journal

/-!
# Live conversations

A conversation is what an automation has with one recipient. A message that starts a run is answered at
once, as far as the first delay; the rest of the run waits, with the graph as it was, until the delay is
over. At most one run waits in a conversation: a message that starts another run supersedes it, and so
does nothing else.

Time is that of a clock which moves only when it is told to. When it moves, the runs that wait go on in
the order in which their delays end, each at its own time, and a run that comes to its next delay waits
again. A delay that is over as soon as it begins ends at once, before anything else happens.
-/

namespace Parley

/-- How effects reach their recipients: the world after a delivery, or why there was none. -/
structure Transport (σ : Type) where
  deliver : Delivery → σ → Except String σ

/-- A run that waits. -/
structure Waiting where
  automation : String
  recipient : String
  /-- When the delay is over; none if it is over already. -/
  due : Option Float
  /-- The graph as it was when the run began. -/
  graph : Graph
  state : RunState
  /-- Which run it is, in the order in which runs began. -/
  run : Nat

/-- Whether the run belongs to a conversation. -/
def Waiting.isOf (p : Waiting) (automation recipient : String) : Bool :=
  p.automation == automation && p.recipient == recipient

/-- All conversations. -/
structure Conversations where
  /-- The clock, in seconds. -/
  time : Float := 0.0
  /-- The runs that wait, in the order in which they began to. -/
  waiting : List Waiting := []
  /-- How many runs have begun so far. -/
  begun : Nat := 0
  /-- The conversations in which a run could not go on after a delay. -/
  broken : List (String × String) := []

namespace Conversations

variable {σ : Type}

/-! ### Runs that wait -/

/-- The conversations in which a run waits. -/
def pending (c : Conversations) : List (String × String) :=
  c.waiting.map fun p => (p.automation, p.recipient)

/-- Forgets the run that waits in a conversation. -/
def drop (c : Conversations) (automation recipient : String) : Conversations :=
  { c with waiting := c.waiting.filter fun p => !p.isOf automation recipient }

/-- Cancels the run that waits in a conversation, and tells whether there was one. -/
def cancel (c : Conversations) (automation recipient : String) : Bool × Conversations :=
  (c.waiting.any fun p => p.isOf automation recipient, c.drop automation recipient)

/-- Cancels all runs of an automation that wait, and tells how many there were. -/
def cancelAutomation (c : Conversations) (automation : String) : Nat × Conversations :=
  (c.waiting.countP fun p => p.automation == automation,
    { c with waiting := c.waiting.filter fun p => p.automation != automation })

/-- Makes a run wait, in place of the one that waits in the same conversation. -/
def schedule (c : Conversations) (p : Waiting) : Conversations :=
  let c := c.drop p.automation p.recipient
  { c with waiting := c.waiting ++ [p] }

/-- When a delay that begins now is over. -/
def dueAfter (c : Conversations) (seconds : Float) : Option Float :=
  if 0.0 < seconds then some (c.time + seconds) else none

/-! ### Deliveries -/

/-- The delivery of an effect. -/
def deliveryOf (automation recipient : String) (e : Effect) : Delivery :=
  { automation, recipient, effect := e }

/-- Delivers effects one after the other, up to the first that fails. -/
def deliverAll (t : Transport σ) (automation recipient : String) : List Effect → σ → Option String × σ
  | [], w => (none, w)
  | e :: rest, w =>
    match t.deliver (deliveryOf automation recipient e) w with
    | .ok w => deliverAll t automation recipient rest w
    | .error failure => (some failure, w)

/-- Delivers a stretch of a run, and makes the rest of the run wait. If a delivery fails, nothing waits. -/
def settle (c : Conversations) (t : Transport σ) (run : Nat) (automation recipient : String) (g : Graph)
    (result : RunResult) (w : σ) : Option String × Conversations × σ :=
  match deliverAll t automation recipient result.effects w with
  | (some failure, w) => (some failure, c, w)
  | (none, w) =>
    match result.suspension? with
    | some (pause, state) =>
      let p := { automation, recipient, due := c.dueAfter pause.seconds, graph := g, state, run }
      (none, c.schedule p, w)
    | none => (none, c, w)

/-! ### Time -/

/-- The run that goes on next, up to a time: one whose delay is over already, or else the one whose delay
ends first. -/
def next? (c : Conversations) (limit : Option Float) : Option Waiting :=
  match c.waiting.find? fun p => p.due.isNone with
  | some p => some p
  | none =>
    match limit with
    | none => none
    | some limit => earliest limit none c.waiting
where
  /-- The first of the runs with the least time not after the limit, where `best` is the one so far. -/
  earliest (limit : Float) (best : Option Waiting) : List Waiting → Option Waiting
    | [] => best
    | p :: rest =>
      earliest limit (if isSooner limit p best then some p else best) rest
  /-- Whether a run goes on within the limit and before the best one so far. -/
  isSooner (limit : Float) (p : Waiting) (best : Option Waiting) : Bool :=
    match p.due, best with
    | some due, none => due ≤ limit
    | some due, some b => due ≤ limit && due < b.due.getD limit
    | none, _ => false

/-- The run that goes on next is one of those that wait. -/
theorem next?_mem {c : Conversations} {limit : Option Float} {p : Waiting}
    (h : c.next? limit = some p) : p ∈ c.waiting := by
  have among : ∀ (l : List Waiting) (x : Float) (best : Option Waiting),
      next?.earliest x best l = some p → best = some p ∨ p ∈ l := by
    intro l x
    induction l with
    | nil => intro best h; exact Or.inl h
    | cons head tail ih =>
      intro best h
      simp only [next?.earliest] at h
      rcases ih _ h with found | found
      · split at found
        · cases found
          exact Or.inr (List.mem_cons_self ..)
        · exact Or.inl found
      · exact Or.inr (List.mem_cons_of_mem _ found)
  unfold next? at h
  split at h
  · rename_i q eq
    cases h
    exact List.mem_of_find?_eq_some eq
  · split at h
    · cases h
    · rcases among _ _ _ h with found | found
      · cases found
      · exact found

/-- Lets a run go on. If a delivery fails, that is the end of the run. -/
def fire (c : Conversations) (r : Runner σ) (t : Transport σ) (p : Waiting) (w : σ) : Conversations × σ :=
  let c := { c.drop p.automation p.recipient with time := p.due.getD c.time }
  let (result, w) := r.resume p.graph p.state w
  match c.settle t p.run p.automation p.recipient p.graph result w with
  | (some _, c, w) => ({ c with broken := c.broken ++ [(p.automation, p.recipient)] }, w)
  | (none, c, w) => (c, w)

/-- How many more steps a run that waits may take, and one. -/
def room (maxSteps : Int) (p : Waiting) : Nat := (maxSteps - p.state.executed).toNat + 1

/-- How many more steps all the runs that wait may take, and one for each of them. -/
def load (maxSteps : Int) : List Waiting → Nat
  | [] => 0
  | p :: rest => room maxSteps p + load maxSteps rest

/-- The load of two lists of runs in a row. -/
theorem load_append (maxSteps : Int) (a b : List Waiting) :
    load maxSteps (a ++ b) = load maxSteps a + load maxSteps b := by
  induction a with
  | nil => simp [load]
  | cons p rest ih => simp [load, ih, Nat.add_assoc]

/-- Leaving out some runs leaves no more. -/
theorem load_filter_le (maxSteps : Int) (keep : Waiting → Bool) (l : List Waiting) :
    load maxSteps (l.filter keep) ≤ load maxSteps l := by
  induction l with
  | nil => exact Nat.le_refl _
  | cons head tail ih =>
    rw [List.filter_cons]
    split
    · exact Nat.add_le_add_left ih _
    · exact Nat.le_trans ih (Nat.le_add_left _ _)

/-- Leaving out some runs, among them `p`, leaves less. -/
theorem load_filter_add_le (maxSteps : Int) {p : Waiting} (keep : Waiting → Bool) (gone : keep p = false)
    {l : List Waiting} (mem : p ∈ l) :
    load maxSteps (l.filter keep) + room maxSteps p ≤ load maxSteps l := by
  induction l with
  | nil => cases mem
  | cons head tail ih =>
    rw [List.filter_cons]
    rcases List.mem_cons.mp mem with rfl | later
    · rw [gone, if_neg Bool.false_ne_true, Nat.add_comm]
      exact Nat.add_le_add_left (load_filter_le maxSteps keep tail) _
    · have step := ih later
      split
      · rw [load, load, Nat.add_assoc]
        exact Nat.add_le_add_left step _
      · exact Nat.le_trans step (Nat.le_add_left _ _)

/-- A run that goes on uses up some of the steps it may take. -/
theorem load_fire_lt (c : Conversations) (r : Runner σ) (t : Transport σ) {p : Waiting}
    (mem : p ∈ c.waiting) (w : σ) :
    load r.maxSteps (c.fire r t p w).1.waiting < load r.maxSteps c.waiting := by
  have less := load_filter_add_le r.maxSteps (fun q => !q.isOf p.automation p.recipient)
    (by simp [Waiting.isOf]) mem
  have positive : 0 < room r.maxSteps p := Nat.succ_pos _
  unfold fire
  simp only
  unfold settle
  cases deliverAll t p.automation p.recipient (r.resume p.graph p.state w).1.effects
      (r.resume p.graph p.state w).2 with
  | mk failure w' =>
    cases failure with
    | some message =>
      simp only [drop]
      omega
    | none =>
      simp only
      cases ended : (r.resume p.graph p.state w).1.suspension? with
      | none =>
        simp only [drop]
        omega
      | some found =>
        obtain ⟨pause, state⟩ := found
        have ending : (r.walker.walk p.graph p.state [] w).1.ending = .suspended pause state := by
          unfold RunResult.suspension? at ended
          split at ended
          · rename_i eq
            cases ended
            exact eq
          · cases ended
        have bound : p.state.executed < state.executed ∧ (state.executed : Int) ≤ r.maxSteps :=
          Walker.walk_suspended r.walker p.graph p.state [] w ending
        simp only [schedule, drop, List.filter_filter, Bool.and_self, load_append, load, room] at less ⊢
        omega

/-- Lets runs go on until none is due up to a time. -/
def run (c : Conversations) (r : Runner σ) (t : Transport σ) (limit : Option Float) (w : σ) :
    Conversations × σ :=
  match _h : c.next? limit with
  | none => (c, w)
  | some p => (c.fire r t p w).1.run r t limit (c.fire r t p w).2
termination_by load r.maxSteps c.waiting
decreasing_by exact load_fire_lt c r t (next?_mem _h) w

/-- Moves the clock. -/
def advance (c : Conversations) (r : Runner σ) (t : Transport σ) (seconds : Float) (w : σ) :
    Conversations × σ :=
  let limit := c.time + seconds
  let (c, w) := c.run r t (some limit) w
  ({ c with time := limit }, w)

/-! ### Messages -/

/-- What comes of a message. -/
inductive Reception where
  /-- It starts no run. -/
  | ignored
  | answered (result : RunResult)
  /-- A delivery failed, and the run is at its end. -/
  | failed (message : String)

/-- Answers a message. If it starts a run, the run supersedes the one that waits. -/
def answer (c : Conversations) (r : Runner σ) (t : Transport σ) (everyStep : Bool) (automation : String)
    (g : Graph) (message : String) (context : Context) (w : σ) : Reception × Conversations × σ :=
  let snapshot := g.snapshot
  let m := snapshot.matchMessage everyStep message
  if m.triggered then
    let started := { c.drop automation context.recipient with begun := c.begun + 1 }
    let (result, w) := r.execute snapshot m.entries message context automation w
    match started.settle t c.begun automation context.recipient snapshot result w with
    | (some failure, c, w) => (.failed failure, c, w)
    | (none, c, w) => (.answered result, c, w)
  else (.ignored, c, w)

/-- Receives a message: it is answered, and then the runs go on whose delays are over already. -/
def inbound (c : Conversations) (r : Runner σ) (t : Transport σ) (everyStep : Bool) (automation : String)
    (g : Graph) (message : String) (context : Context) (w : σ) : Reception × Conversations × σ :=
  match c.answer r t everyStep automation g message context w with
  | (.answered result, c, w) =>
    let (c, w) := c.run r t none w
    (.answered result, c, w)
  | other => other

end Conversations

end Parley
