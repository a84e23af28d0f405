import Parley.Proofs.Run.Address
import Parley.Proofs.Run.Asked
import Parley.Proofs.Service.Limits

/-!
# What a run leaves in the journal

A step that has a reply written makes a request, and so does a step that makes a call and has an address. With
simulated services, each request leaves one record in the journal, however it ends: with an answer, with a
refusal because the recipient has had enough replies, or with a failure on purpose. Nothing else leaves one. So
the records that a run adds to the journal are, one for one and in their order, those of the requests of the
steps that it performs (`Parley.ReplySimulator.calls_executeAll`).

A run is taken apart for this into the steps that it performs (`Parley.Walker.Performs`). What is known of the
state in which each is performed is what it takes to know its request: for whom and for what the run takes
place, which never changes, and how many steps came before, by which the clock is read.

There is one request of which no record is kept. The service for replies looks back at the replies that it has
granted, and if its clock tells now with a time zone what it told then without one, it fails before it
writes anything down. The journal is therefore said to be of one kind (`Parley.Journal.Zoned`), and the clock
to be of the same.
-/

namespace Parley

/-! ### The steps of a run -/

namespace Walker

variable {σ : Type} {k : Walker σ} {g : Graph} {occasion : RunState} {n : Nat} {w v u : σ}
  {steps more : List Step}

/-- Some steps are performed one after the other on an occasion, after `n` others, and change the world. -/
inductive Performs (k : Walker σ) (occasion : RunState) : Nat → σ → List Step → σ → Prop where
  | nil {n : Nat} {w : σ} : Performs k occasion n w [] w
  | cons {n : Nat} {w v : σ} {s : Step} {rest : List Step} (st : RunState) (on : st.occasion = occasion)
      (nth : st.executed = n + 1) (later : Performs k occasion (n + 1) (k.perform s st w).2 rest v) :
      Performs k occasion n w (s :: rest) v

namespace Performs

theorem append (first : k.Performs occasion n w steps v)
    (later : k.Performs occasion (n + steps.length) v more u) : k.Performs occasion n w (steps ++ more) u := by
  induction first with
  | nil => exact later
  | cons st on nth rest ih =>
    refine .cons st on nth (ih ?_)
    rwa [List.length_cons, Nat.add_comm _ 1, ← Nat.add_assoc] at later

/-- The state in which a stretch waits is that of a run on some occasion, after `n` steps. -/
def Leaves (occasion : RunState) (n : Nat) (r : RunResult) : Prop :=
  ∀ pause left, r.ending = .suspended pause left → left.occasion = occasion ∧ left.executed = n

/-- **A stretch performs the steps that it writes down.** -/
theorem walk (st : RunState) (effects : List Effect) (w : σ × List Step) :
    let run := k.watched.walk g st effects w
    ∃ done, run.2.2 = w.2 ++ done ∧ k.Performs st.occasion st.executed w.1 done run.2.1 ∧
      Leaves st.occasion (st.executed + done.length) run.1 := by
  intro run
  fun_induction Walker.walk k.watched g st effects w with
  | case1 => exact ⟨[], (List.append_nil _).symm, .nil, fun _ _ ending => Ending.noConfusion ending⟩
  | case2 => exact ⟨[], (List.append_nil _).symm, .nil, fun _ _ ending => Ending.noConfusion ending⟩
  | case3 st effects w s entered goes o v did left effects' seconds label waits =>
    obtain ⟨u, did', rfl⟩ := exists_of_watched did
    have on := (kept_of_round goes).1
    have nth := (round_executed goes).1
    refine ⟨[s], rfl, .cons entered on nth (by rw [did']; exact .nil), ?_⟩
    rintro _ _ ⟨⟩
    exact ⟨on, nth⟩
  | case4 st effects w s entered goes o v did left effects' goes_on ih =>
    obtain ⟨u, did', rfl⟩ := exists_of_watched did
    have on : left.occasion = st.occasion := (kept_of_round goes).1
    have nth : left.executed = st.executed + 1 := (round_executed goes).1
    obtain ⟨done, log, performs, leaves⟩ := ih
    rw [on, nth] at performs leaves
    refine ⟨s :: done, ?_, .cons entered on nth (by rw [did']; exact performs), ?_⟩
    · rw [log, List.append_assoc]
      rfl
    · rwa [List.length_cons, Nat.add_comm done.length, ← Nat.add_assoc]

/-- **All stretches perform the steps that they write down.** -/
theorem stretches (r : RunResult) (leaves : Leaves occasion n r) (w : σ × List Step) :
    let run := k.watched.stretches g r w
    ∃ done, run.2.2 = w.2 ++ done ∧ k.Performs occasion n w.1 done run.2.1 := by
  intro run
  fun_induction Walker.stretches k.watched g r w generalizing n with
  | case1 r w pause left waits rest v later ih =>
    obtain ⟨on, nth⟩ := leaves pause left waits
    obtain ⟨first, log, performs, leaves'⟩ := walk (k := k) (g := g) left [] w
    rw [on, nth] at performs leaves'
    obtain ⟨more, log', performs'⟩ := ih leaves'
    rw [later] at log' performs'
    refine ⟨first ++ more, ?_, performs.append performs'⟩
    rw [log', resume, log, List.append_assoc]
  | case2 r w ends => exact ⟨[], (List.append_nil _).symm, .nil⟩

/-- **A run performs the steps that it writes down**, all on the same occasion. -/
theorem executeAll (k : Walker σ) (g : Graph) (entries : List String) (message : String) (context : Context)
    (automation : String) (w : σ) :
    let run := k.watched.executeAll g entries message context automation (w, [])
    k.Performs { automation, message, context } 0 w run.2.2 run.2.1 := by
  intro run
  cases entries with
  | nil =>
    have only : run = ([{ effects := [noSteps], ending := .completed }], w, []) :=
      stretches_ends fun _ _ eq => Ending.noConfusion eq
    rw [only]
    exact .nil
  | cons first rest =>
    let st : RunState := { automation, message, context, pending := first :: rest }
    obtain ⟨done, log, performs, leaves⟩ := walk (k := k) (g := g) st [] (w, [])
    obtain ⟨more, log', performs'⟩ := stretches (k := k) (g := g) _ leaves (k.watched.walk g st [] (w, [])).2
    have all : run.2.2 = done ++ more := by
      rw [log, List.nil_append] at log'
      exact log'
    rw [all]
    exact performs.append performs'

end Performs

end Walker

/-! ### Requests and records -/

/-- What a step asks of a service when it is performed. -/
def Step.asked? (s : Step) (now : Moment) (st : RunState) : Option ServiceRequest :=
  match s.body with
  | .reply c => some (.reply (replyRequest c st))
  | .apiCall c => if c.url = "" then none else some (.call (addressed c now st.context))
  | .webhook c => if c.url = "" then none else some (.call (addressed c now st.context))
  | _ => none

/-- What a step asks for depends on the occasion of the run and not on how far it has come. -/
theorem Step.asked?_occasion (s : Step) (now : Moment) (st : RunState) :
    s.asked? now st.occasion = s.asked? now st := rfl

/-- A step that makes a call asks for it if it has an address. -/
theorem Step.asked?_of_calls? {s : Step} {c : CallSettings} {words : CallWords}
    (calls : s.calls? = some (c, words)) (now : Moment) (st : RunState) :
    s.asked? now st = if c.url = "" then none else some (.call (addressed c now st.context)) := by
  rw [asked?]
  rcases calls?_eq_some.mp calls with ⟨body, -⟩ | ⟨body, -⟩ <;> rw [body]

/-- A record tells of a request: which service was asked, for what, and with what. How it ended is left open. -/
def CallEntry.Tells (c : CallEntry) : ServiceRequest → Prop
  | .reply r => c.service = "ai" ∧ c.action = "generate" ∧ c.parameters = r.fields
  | .call r => c.service = "http" ∧ c.action = r.method ∧ c.parameters = r.fields

namespace Journal

variable {j j' j'' : Journal} {requests more : List ServiceRequest} {zoned : Bool}

/-- What was added to a journal are the records of some requests, one of each, in their order. -/
def Adds (j j' : Journal) (requests : List ServiceRequest) : Prop :=
  ∃ added, j'.calls = j.calls ++ added ∧ List.Forall₂ CallEntry.Tells added requests

theorem Adds.none (j : Journal) : j.Adds j [] := ⟨[], (List.append_nil _).symm, .nil⟩

theorem Adds.one {c : CallEntry} {request : ServiceRequest} (calls : j'.calls = j.calls ++ [c])
    (tells : c.Tells request) : j.Adds j' [request] :=
  ⟨[c], calls, .cons tells .nil⟩

theorem Adds.append (first : j.Adds j' requests) (later : j'.Adds j'' more) : j.Adds j'' (requests ++ more) := by
  obtain ⟨added, calls, tell⟩ := first
  obtain ⟨added', calls', tell'⟩ := later
  exact ⟨added ++ added', by rw [calls', calls, List.append_assoc], List.rel_append tell tell'⟩

/-- The moments at which replies were granted are all told with a time zone, or all without one. -/
def Zoned (zoned : Bool) (j : Journal) : Prop := ∀ key, ∀ t ∈ j.granted key, t.ahead.isSome = zoned

theorem Zoned.of_granted (h : j.Zoned zoned) (same : ∀ key, j'.granted key = j.granted key) : j'.Zoned zoned :=
  fun key t mem => h key t (same key ▸ mem)

end Journal

namespace CallSimulator

/-- **A call leaves a record**, whether or not it fails. -/
theorem exists_call_eq_log (s : CallSimulator) (r : CallRequest) (j : Journal) :
    ∃ c : CallEntry, c.Tells (.call r) ∧ (s.call r j).2 = j.log c := by
  unfold call
  cases s.rules.rule? s.draw "http" (Text.upper r.method) with
  | none => exact ⟨_, ⟨rfl, rfl, rfl⟩, rfl⟩
  | some rule =>
    refine ⟨r.entry .failed (some rule.message) none, ⟨rfl, rfl, rfl⟩, ?_⟩
    dsimp only
    split <;> rfl

end CallSimulator

namespace ReplySimulator

variable {s : ReplySimulator} {calls : CallSimulator} {j : Journal} {zoned : Bool}

/-- **A request for a reply leaves a record**, whether it is granted, refused or made to fail. -/
theorem exists_calls_answer (fault : Option FaultRule) {now : Moment} {r : ReplyRequest}
    (fits : (j.granted (usageKey r)).all now.comparable = true) :
    ∃ c : CallEntry, c.Tells (.reply r) ∧ (s.answer fault now r j).2.calls = j.calls ++ [c] := by
  unfold answer
  cases fault with
  | some rule =>
    dsimp only [fail]
    split
    · exact ⟨_, ⟨rfl, rfl, rfl⟩, rfl⟩
    · refine ⟨r.entry .failed (some rule.message) none, ⟨rfl, rfl, rfl⟩, ?_⟩
      split <;> rfl
  | none =>
    simp only [if_pos fits]
    split <;> exact ⟨_, ⟨rfl, rfl, rfl⟩, rfl⟩

/-- A request that is made at a moment of the same kind leaves all moments of one kind. -/
theorem zoned_answer (h : j.Zoned zoned) (fault : Option FaultRule) {now : Moment}
    (zone : now.ahead.isSome = zoned) (r : ReplyRequest) : (s.answer fault now r j).2.Zoned zoned := by
  intro key t mem
  let q : Query := { request := r, time := now, fault }
  change t ∈ (s.answer q.fault q.time q.request j).2.granted key at mem
  rw [granted_answer] at mem
  split at mem
  · rcases mem_verdict mem with old | rfl
    · exact h _ t old
    · exact zone
  · exact h key t mem

/-- The simulated services of a run, which fail by their own rules. -/
def beside (s : ReplySimulator) (calls : CallSimulator) (now : Moment) : Services Journal :=
  s.services (some calls) now (s.rules.rule? s.draw "ai" "generate")

/-- **What one step adds to the journal** is the record of its request, if it makes one. -/
theorem adds_perform (s : ReplySimulator) (calls : CallSimulator) (h : j.Zoned zoned) {hour : Moment}
    (zone : hour.ahead.isSome = zoned) (step : Step) (now : Moment) (maxSteps : Int) (st : RunState) :
    let after := (step.perform { services := s.beside calls hour, now, maxSteps } st j).2
    j.Adds after (step.asked? now st).toList ∧ after.Zoned zoned := by
  intro after
  cases calling : step.calls? with
  | some call =>
    obtain ⟨c, words⟩ := call
    have performs : after = (step.makeCall c words (s.beside calls hour) now st.context j).2 := by
      simp only [after, step.perform_of_calls? calling]
    rw [Step.asked?_of_calls? calling, performs]
    by_cases nowhere : c.url = ""
    · rw [if_pos nowhere, Step.makeCall_of_no_url rfl nowhere]
      exact ⟨.none j, h⟩
    · rw [if_neg nowhere, Step.makeCall_of_url rfl nowhere]
      obtain ⟨entry, tells, logs⟩ := calls.exists_call_eq_log (Step.addressed c now st.context) j
      exact ⟨.one (congrArg Journal.calls logs) tells, h.of_granted fun key => granted_call calls _ j key⟩
  | none =>
    simp only [after]
    unfold Step.calls? at calling
    unfold Step.perform Step.asked?
    cases body : step.body with
    | apiCall c => rw [body] at calling; cases calling
    | webhook c => rw [body] at calling; cases calling
    | reply c =>
      have fits : (j.granted (usageKey (Step.replyRequest c st))).all hour.comparable = true := by
        rw [List.all_eq_true]
        intro t mem
        rw [Moment.comparable, zone, h _ t mem, beq_self_eq_true]
      obtain ⟨entry, tells, logs⟩ := exists_calls_answer (s := s) (s.rules.rule? s.draw "ai" "generate") fits
      exact ⟨.one logs tells, zoned_answer h _ zone _⟩
    | _ => exact ⟨.none j, h⟩

/-! ### The journal of a run -/

/-- The walker of runs with simulated services. Both the run and the service for replies have a clock, which is
read at every step, and at every step a number is drawn that decides whether a rule applies. -/
def walker (s : ReplySimulator) (calls : CallSimulator) (clock hours : Nat → Moment) (draws : Nat → Float)
    (maxSteps : Int) : Walker Journal :=
  { perform := fun step st j =>
      let draw := draws st.executed
      let services := { s with draw }.beside { calls with draw } (hours st.executed)
      step.perform { services, now := clock st.executed, maxSteps } st j
    maxSteps }

/-- The requests of some steps that are performed on an occasion, after `n` others. -/
def requests (clock : Nat → Moment) (occasion : RunState) (n : Nat) (steps : List Step) : List ServiceRequest :=
  (steps.zipIdx (n + 1)).filterMap fun (step, nth) => step.asked? (clock nth) occasion

theorem requests_cons (clock : Nat → Moment) (occasion : RunState) (n : Nat) (step : Step) (rest : List Step) :
    requests clock occasion n (step :: rest) =
      (step.asked? (clock (n + 1)) occasion).toList ++ requests clock occasion (n + 1) rest := by
  simp only [requests, List.zipIdx_cons, List.filterMap_cons]
  cases step.asked? (clock (n + 1)) occasion <;> rfl

/-- **What steps add to the journal** are the records of their requests. -/
theorem adds_of_performs {clock hours : Nat → Moment} {draws : Nat → Float} {maxSteps : Int} {occasion : RunState}
    {n : Nat} {steps : List Step} {j' : Journal} (zone : ∀ n, (hours n).ahead.isSome = zoned) (h : j.Zoned zoned)
    (performs : (s.walker calls clock hours draws maxSteps).Performs occasion n j steps j') :
    j.Adds j' (requests clock occasion n steps) := by
  induction performs with
  | nil => exact .none _
  | @cons n j _ step rest st on nth later ih =>
    let draw := draws st.executed
    obtain ⟨adds, after⟩ := adds_perform { s with draw } { calls with draw } h (zone st.executed) step
      (clock st.executed) maxSteps st
    have request : step.asked? (clock st.executed) st = step.asked? (clock (n + 1)) occasion := by
      rw [nth, ← on, Step.asked?_occasion]
    rw [requests_cons, ← request]
    exact adds.append (ih after)

/-- **The journal of a run is complete and in order.** Execute a graph from any entries and resume the run
whenever it waits, with simulated services that any rules may make fail, always or by chance, and clocks that
may tell something else at every step. What the run adds to the journal are the records of the requests of its
steps: one for each step that it performs and that has a reply written, and one for each that makes a call and
has an address, in the order in which they are performed, and no others. Each tells what was asked: for a reply
the message, the recipient, the automation and the settings of the step, and for a call the address, the headers
and the body with their tokens replaced, and the method in upper case. It makes no difference whether the request
is granted, refused or made to fail. -/
theorem calls_executeAll (s : ReplySimulator) (calls : CallSimulator) (clock hours : Nat → Moment)
    (draws : Nat → Float) (maxSteps : Int) (g : Graph) (entries : List String) (message : String) (context : Context)
    (automation : String) (j : Journal) (zoned : Bool) (zone : ∀ n, (hours n).ahead.isSome = zoned)
    (remembered : j.Zoned zoned) :
    let k := s.walker calls clock hours draws maxSteps
    let run := k.executeAll g entries message context automation j
    let watched := k.watched.executeAll g entries message context automation (j, [])
    let requests := (watched.2.2.zipIdx 1).filterMap fun (step, nth) =>
      step.asked? (clock nth) { automation, message, context }
    (watched.1 = run.1 ∧ watched.2.1 = run.2) ∧
    ∃ added, run.2.calls = j.calls ++ added ∧ List.Forall₂ CallEntry.Tells added requests := by
  intro k run watched requests
  have same : run = (watched.1, watched.2.1) :=
    k.watched_over.executeAll g entries message context automation (j, [])
  have performs := Walker.Performs.executeAll k g entries message context automation j
  rw [same]
  exact ⟨⟨rfl, rfl⟩, adds_of_performs zone remembered performs⟩

/-- A step that has a reply written and allows none. -/
def askStep : Step := { id := "ask", body := .reply { rateLimit := ⟨0, 0⟩ } }

/-- A step that reports to nobody. -/
def tellStep : Step := { id := "tell", body := .webhook { method := "POST" } }

/-- The two steps, one after the other. -/
def askAndTell : Graph :=
  { table := [("ask", askStep), ("tell", tellStep)], edges := [⟨"ask", "tell", none, none⟩] }

/-- A request that is refused leaves a record, and a report without an address leaves none. -/
theorem calls_executeAll_refused :
    let s : ReplySimulator := { limit := ⟨0, 0⟩ }
    let clock : Nat → Moment := fun _ => ⟨0, none⟩
    let draws : Nat → Float := fun _ => 0.5
    let start : RunState := { automation := "shop", message := "hi", context := { recipient := "ann" } }
    (∀ n, (clock n).ahead.isSome = false) ∧ ({} : Journal).Zoned false ∧
      ∃ c : CallEntry, ((s.walker {} clock clock draws 10).executeAll askAndTell ["ask"] start.message start.context
          start.automation {}).2.calls = [c] ∧
        c.Tells (.reply (Step.replyRequest { rateLimit := ⟨0, 0⟩ } start)) := by
  intro s clock draws start
  have remembered : ({} : Journal).Zoned false := fun _ _ mem => absurd mem List.not_mem_nil
  have zone : ∀ n, (clock n).ahead.isSome = false := fun _ => rfl
  obtain ⟨-, added, calls, tell⟩ := calls_executeAll s {} clock clock draws 10 askAndTell ["ask"] start.message
    start.context start.automation {} false zone remembered
  have steps : ((s.walker {} clock clock draws 10).watched.executeAll askAndTell ["ask"] start.message start.context
      start.automation ({}, [])).2.2 = [askStep, tellStep] := by
    let k := (s.walker {} clock clock draws 10).watched
    let st : RunState := { start with pending := ["ask"] }
    obtain ⟨ends, log⟩ : (∀ pause left, (k.walk askAndTell st [] ({}, [])).1.ending ≠ .suspended pause left) ∧
        (k.walk askAndTell st [] ({}, [])).2.2 = [askStep, tellStep] := by
      rw [Walker.walk_on (show Walker.round 10 askAndTell st = .execute _ _ from rfl) rfl rfl,
        Walker.walk_on (show Walker.round 10 askAndTell _ = .execute _ _ from rfl) rfl rfl,
        Walker.walk_finish (show Walker.round 10 askAndTell _ = .finish from rfl)]
      exact ⟨fun _ _ => nofun, rfl⟩
    show (k.stretches askAndTell (k.walk askAndTell st [] ({}, [])).1 (k.walk askAndTell st [] ({}, [])).2).2.2 = _
    rw [Walker.stretches_ends ends, log]
  rw [steps] at tell
  cases tell with
  | cons first rest =>
    cases rest
    exact ⟨zone, remembered, _, calls, first⟩

end ReplySimulator

end Parley
