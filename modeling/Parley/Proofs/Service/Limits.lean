import Parley.Proofs.Service.Window
import Parley.Run.Perform

/-!
# Limits that steps set

A step that has replies written says how many of them a recipient may get in an hour and in a day, and its
requests take both numbers to the service. The simulated service counts what it granted to the same
conversation, whichever step asked for it, and so it can grant less than a step allows, but not more.

The argument holds the clock still. Then nothing that is remembered gets any older, and of the last hour, or of
the last day, there is only ever more to count: one for each reply that is granted
(`Parley.ReplySimulator.recent_verdict`). A reply is granted only below the limit of its request. So what is left
of a limit pays for all that will be granted under it (`Parley.ReplySimulator.countP_granted_le`).

A limit of zero is not one that the service heeds: it takes it for a request without a limit, and its own limit
comes in (`Parley.ReplySimulator.replied_le`).
-/

namespace Parley

/-! ### Steps that are performed -/

/-- A step that is performed in a run, and the rule that intercepts its request for a reply, if one does. -/
structure Performance where
  step : Step
  state : RunState
  fault : Option FaultRule := none

namespace Performance

/-- The settings of a step that has replies written. -/
def settings? (p : Performance) : Option ReplySettings :=
  match p.step.body with
  | .reply c => some c
  | _ => none

theorem settings?_eq_some {p : Performance} {c : ReplySettings} :
    p.settings? = some c ↔ p.step.body = .reply c := by
  unfold settings?
  split
  · rename_i eq
    rw [eq, Option.some.injEq, Body.reply.injEq]
  · rename_i other
    exact ⟨nofun, fun eq => absurd eq (other c)⟩

/-- Whether a step is performed in a conversation: with this recipient, for this automation. -/
def isOf (recipient automation : String) (p : Performance) : Bool :=
  p.state.context.recipient == recipient && p.state.automation == automation

/-- The request that a step makes, if it has replies written. -/
def query? (now : Moment) (p : Performance) : Option Query :=
  p.settings?.map fun c => { request := Step.replyRequest c p.state, time := now, fault := p.fault }

end Performance

/-- Whether a step yields a reply that was written for it: only those come with their length. -/
def Outcome.isReply (o : Outcome) : Bool :=
  o.effects.any fun e => e.metadata.any fun field => field.1 == "token_usage"

/-- The message made of a reply has its length if the reply has text and length. -/
theorem isReply_replyEffect (s : Step) (c : ReplySettings) (r : Reply) :
    (Outcome.ofEffect (s.replyEffect c r)).isReply =
      (r.success && r.text.getD "" != "" && r.usage.isSome) := by
  cases written : r.success && r.text.getD "" != "" with
  | true =>
    simp only [Step.replyEffect, written, if_true]
    cases r.usage <;> rfl
  | false =>
    simp only [Step.replyEffect, written, if_neg Bool.false_ne_true]
    cases r.rateLimited <;> rfl

namespace ReplySimulator

variable {s : ReplySimulator} {q : Query} {qs : List Query} {now : Moment} {times : List Moment}
  {seconds : Int}

/-- The simulated services of a run, which may have nobody to make its calls. -/
def services (s : ReplySimulator) (calls : Option CallSimulator) (now : Moment) (fault : Option FaultRule) :
    Services Journal :=
  { reply := some (s.answer fault now), call := calls.map CallSimulator.call }

/-- Performs some steps, one after the other, while the clock stands still. -/
def performAll (s : ReplySimulator) (calls : Option CallSimulator) (now : Moment) (j : Journal) :
    List Performance → List (Performance × Outcome) × Journal
  | [] => ([], j)
  | p :: rest =>
    let (o, j) := p.step.perform { services := s.services calls now p.fault, now } p.state j
    let (log, j) := s.performAll calls now j rest
    ((p, o) :: log, j)

/-! ### What is left of a limit -/

/-- A request is granted only if it finds room. -/
theorem hasRoom_of_granted (granted : isGranted (s.verdict q times).1 = true) :
    s.HasRoom q times ∧ (s.verdict q times).1 = .ok (reply q.request) := by
  rcases s.verdict_outcomes q times with ⟨room, eq⟩ | ⟨refused, -⟩
  · exact ⟨room, by rw [eq]⟩
  · exact absurd (refused.symm.trans granted) Bool.false_ne_true

/-- **What a request adds to the count of the moments near to its own**: one if it is granted. -/
theorem recent_verdict (pos : 0 < seconds) (le : seconds ≤ day) :
    recent q.time seconds (s.verdict q times).2 =
      recent q.time seconds times + (isGranted (s.verdict q times).1).toNat := by
  rcases s.verdict_outcomes q times with ⟨-, eq⟩ | ⟨refused, eq | eq⟩
  · have own : recent q.time seconds [q.time] = 1 := by
      rw [recent, List.countP_singleton, if_pos (Moment.within_self pos)]
    rw [eq, recent, List.countP_append, ← recent, ← recent, recent_today le, own]
    rfl
  · rw [eq, refused]
    rfl
  · rw [eq, refused, recent_today le]
    rfl

/-- **What is left of a limit pays for all that is granted under it** while the clock stands still. -/
theorem countP_granted_le {limitOf : ReplyRequest → Int} (pos : 0 < seconds) (le : seconds ≤ day)
    (bounds : ∀ q times, s.HasRoom q times → (recent q.time seconds times : Int) < limitOf q.request)
    (still : ∀ q ∈ qs, q.time = now) (j : Journal) (key : String) (limit : Int) :
    (s.replies j qs).1.countP (fun a => isGranted a.2 && a.1.key == key && limitOf a.1.request == limit) ≤
      limit.toNat - recent now seconds (j.granted key) := by
  induction qs generalizing j with
  | nil => exact Nat.zero_le _
  | cons q rest ih =>
    obtain ⟨rfl, still⟩ := List.forall_mem_cons.mp still
    have after := ih still (s.answer q.fault q.time q.request j).2
    rw [granted_answer] at after
    rw [replies_cons, List.countP_cons]
    by_cases own : key = q.key
    · subst own
      rw [if_pos rfl, recent_verdict pos le] at after
      cases granted : isGranted (s.verdict q (j.granted q.key)).1 with
      | true =>
        -- the limit was not reached, and what is left of it is one less from here on
        have below := bounds q _ (hasRoom_of_granted granted).1
        rw [granted, Bool.toNat_true] at after
        by_cases same : limitOf q.request = limit
        · subst same
          simp only [beq_self_eq_true, Bool.and_self, if_true]
          omega
        · simp only [beq_eq_false_iff_ne.mpr same, Bool.and_false, if_neg Bool.false_ne_true]
          omega
      | false =>
        rw [granted, Bool.toNat_false, Nat.add_zero] at after
        simpa only [Bool.false_and, if_neg Bool.false_ne_true, Nat.add_zero] using after
    · rw [if_neg own] at after
      simpa only [beq_eq_false_iff_ne.mpr (Ne.symm own), Bool.and_false, Bool.false_and,
        if_neg Bool.false_ne_true, Nat.add_zero] using after

/-! ### Steps and their requests -/

/-- A call does not change what was granted. -/
theorem granted_call (c : CallSimulator) (r : CallRequest) (j : Journal) (key : String) :
    (c.call r j).2.granted key = j.granted key := by
  unfold CallSimulator.call
  cases c.rules.rule? c.draw "http" (Text.upper r.method) with
  | none => rfl
  | some rule =>
    simp only
    split <;> rfl

theorem granted_makeCall (s : ReplySimulator) (calls : Option CallSimulator) (now : Moment)
    (fault : Option FaultRule) (step : Step) (c : CallSettings) (words : Step.CallWords) (context : Context)
    (j : Journal) (key : String) :
    (step.makeCall c words (s.services calls now fault) now context j).2.granted key = j.granted key := by
  unfold Step.makeCall services
  cases calls with
  | none => rfl
  | some calls =>
    by_cases nowhere : (if c.url = "" then "" else (context.resolve now c.url).text) = ""
    · simp only [Option.map_some, if_pos nowhere]
    · simp only [Option.map_some, if_neg nowhere]
      exact granted_call calls _ j key

/-- A step that has no replies written does not change what was granted. -/
theorem granted_perform {p : Performance} (calls : Option CallSimulator) (none : p.settings? = none)
    (j : Journal) (key : String) :
    (p.step.perform { services := s.services calls now p.fault, now } p.state j).2.granted key =
      j.granted key := by
  unfold Performance.settings? at none
  unfold Step.perform
  cases body : p.step.body with
  | reply c => rw [body] at none; cases none
  | apiCall c => exact granted_makeCall s calls now p.fault p.step c _ p.state.context j key
  | webhook c => exact granted_makeCall s calls now p.fault p.step c _ p.state.context j key
  | _ => rfl

/-- A reply is never empty. -/
theorem compose_ne_empty (r : ReplyRequest) : compose r ≠ "" := by
  unfold compose
  by_cases nothing : bestFrom r.message "" 0 (Text.sentences r.contextData) = ""
  · simp only [if_pos nothing]
    decide
  · simpa only [if_neg nothing] using nothing

/-- What the recipient sees is a reply exactly if the request was granted. -/
theorem isReply_verdict (step : Step) (c : ReplySettings) (s : ReplySimulator) (q : Query)
    (times : List Moment) :
    (Outcome.ofEffect (step.replyEffect c (Step.settledReply (s.verdict q times).1))).isReply =
      isGranted (s.verdict q times).1 := by
  rw [isReply_replyEffect]
  cases granted : isGranted (s.verdict q times).1 with
  | true =>
    rw [(hasRoom_of_granted granted).2]
    simpa [Step.settledReply, reply] using compose_ne_empty q.request
  | false =>
    have unsettled : (Step.settledReply (s.verdict q times).1).success = false := by
      cases given : (s.verdict q times).1 with
      | ok given' => rwa [given] at granted
      | error failure => rfl
    rw [unsettled, Bool.false_and, Bool.false_and]

/-- A step that has replies written yields one exactly if its request is granted. -/
theorem perform_of_query {p : Performance} (calls : Option CallSimulator) (asks : p.query? now = some q)
    (j : Journal) :
    let done := p.step.perform { services := s.services calls now p.fault, now } p.state j
    done.1.isReply = isGranted (s.verdict q (j.granted q.key)).1 ∧
      done.2 = (s.answer q.fault q.time q.request j).2 := by
  obtain ⟨c, settings, rfl⟩ := Option.map_eq_some_iff.mp asks
  simp only [Step.perform, Performance.settings?_eq_some.mp settings, Step.sendReply, services]
  refine ⟨?_, trivial⟩
  rw [← isReply_verdict p.step c, ← fst_answer]

/-- **What comes of steps is what comes of their requests**: those that have replies written yield one each time
that the service grants one. -/
theorem filterMap_performAll (s : ReplySimulator) (calls : Option CallSimulator) (now : Moment)
    (ps : List Performance) {j j' : Journal} (same : ∀ key, j.granted key = j'.granted key) :
    (s.performAll calls now j ps).1.filterMap (fun a => (a.1.query? now).map (·, a.2.isReply)) =
      (s.replies j' (ps.filterMap (·.query? now))).1.map fun a => (a.1, isGranted a.2) := by
  induction ps generalizing j j' with
  | nil => rfl
  | cons p rest ih =>
    rw [performAll, List.filterMap_cons, List.filterMap_cons]
    cases asks : p.query? now with
    | none =>
      exact ih fun key => (granted_perform calls (Option.map_eq_none_iff.mp asks) j key).trans (same key)
    | some q =>
      obtain ⟨replied, left⟩ := perform_of_query (s := s) calls asks j
      have left' : ∀ key, (s.answer q.fault q.time q.request j).2.granted key =
          (s.answer q.fault q.time q.request j').2.granted key := fun key => by
        rw [granted_answer, granted_answer, same, same]
      simp only [Option.map_some, replies_cons, List.map_cons, replied, left, same, ih left']

/-! ### The limits of steps -/

/-- How often steps that set a certain limit got a reply in a conversation. -/
def replied (log : List (Performance × Outcome)) (recipient automation : String) (limit : RateLimit → Int)
    (n : Int) : Nat :=
  log.countP fun a =>
    a.1.isOf recipient automation && (a.1.settings?.map (limit ·.rateLimit) == some n && a.2.isReply)

/-- A limit that bounds what is granted bounds what the steps get that set it. -/
theorem replied_le_toNat (limit : RateLimit → Int) (limitOf : ReplyRequest → Int) {n most : Int}
    (pos : 0 < seconds) (le : seconds ≤ day)
    (bounds : ∀ q times, s.HasRoom q times → (recent q.time seconds times : Int) < limitOf q.request)
    (means : ∀ c st, limit c.rateLimit = n → limitOf (Step.replyRequest c st) = most)
    (calls : Option CallSimulator) (now : Moment) (j : Journal) (ps : List Performance)
    (recipient automation : String) :
    replied (s.performAll calls now j ps).1 recipient automation limit n ≤ most.toNat := by
  let key := recipient ++ ":" ++ automation
  have still : ∀ q ∈ ps.filterMap (·.query? now), q.time = now := by
    intro q mem
    obtain ⟨p, -, asks⟩ := List.mem_filterMap.mp mem
    obtain ⟨c, -, rfl⟩ := Option.map_eq_some_iff.mp asks
    rfl
  have granted := countP_granted_le pos le bounds still j key most
  have translated := filterMap_performAll s calls now ps fun key => (rfl : j.granted key = j.granted key)
  calc replied (s.performAll calls now j ps).1 recipient automation limit n
      ≤ (s.performAll calls now j ps).1.countP fun a =>
          (((a.1.query? now).map (·, a.2.isReply)).map fun b =>
            b.2 && b.1.key == key && limitOf b.1.request == most).getD false := by
        refine List.countP_mono_left fun a _ counts => ?_
        simp only [Bool.and_eq_true, beq_iff_eq, Performance.isOf, Option.map_eq_some_iff] at counts
        obtain ⟨⟨here, whose⟩, ⟨c, settings, same⟩, reply⟩ := counts
        have of_key : usageKey (Step.replyRequest c a.1.state) = key := by
          rw [usageKey, Step.replyRequest, here, whose]
        simp only [Performance.query?, settings, Option.map_some, Option.getD_some, Query.key, of_key, reply,
          means c a.1.state same, beq_self_eq_true, Bool.and_self]
    _ = (s.replies j (ps.filterMap (·.query? now))).1.countP fun a =>
          isGranted a.2 && a.1.key == key && limitOf a.1.request == most := by
        rw [← List.countP_filterMap, translated, List.countP_map]
        rfl
    _ ≤ most.toNat := by omega

/-- **A step never gets more replies than it allows**, whatever happened before and whatever else is performed in
between, while the clock stands still: of all that is performed, the steps that allow a conversation so many
replies in an hour get no more than that in it, and in a day likewise. The one exception are steps that allow
zero, for which the limit of the service stands in. -/
theorem replied_le (s : ReplySimulator) (calls : Option CallSimulator) (now : Moment) (j : Journal)
    (ps : List Performance) (recipient automation : String) (n : Int) :
    let log := (s.performAll calls now j ps).1
    (replied log recipient automation RateLimit.perHour n : Int) ≤
        max (if n = 0 then s.limit.perHour else n) 0 ∧
      (replied log recipient automation RateLimit.perDay n : Int) ≤
        max (if n = 0 then s.limit.perDay else n) 0 := by
  intro log
  have hourly : replied log recipient automation RateLimit.perHour n ≤
      (if n = 0 then s.limit.perHour else n).toNat :=
    replied_le_toNat RateLimit.perHour s.perHour (by decide) (by decide) (fun _ _ room => room.1)
      (by rintro c st rfl; rfl) calls now j ps recipient automation
  have daily : replied log recipient automation RateLimit.perDay n ≤
      (if n = 0 then s.limit.perDay else n).toNat :=
    replied_le_toNat RateLimit.perDay s.perDay (by decide) (by decide) (fun _ _ room => room.2)
      (by rintro c st rfl; rfl) calls now j ps recipient automation
  omega

/-- A step that allows no reply at all gets one. -/
example :
    let ask : Step := { id := "ask", body := .reply { rateLimit := { perHour := 0, perDay := 5 } } }
    let state : RunState := { automation := "shop", message := "hi", context := { recipient := "ann" } }
    let log := (performAll {} none ⟨0, none⟩ {} [{ step := ask, state }]).1
    replied log "ann" "shop" RateLimit.perHour 0 = 1 := by
  decide +kernel

end ReplySimulator

end Parley
