import Mathlib.Data.List.Induction
import Parley.Proofs.Service.Replies

/-!
# The window of granted replies

The service that writes replies forgets. With every request that it decides, granted or refused, it drops the
moments that are a day old, and it decides by the moments that it still has. The limits may change from one
request to the next, so a moment dropped for one request must not be one that matters for a later one.

It never is, as long as the clock does not go back: what is a day old now stays a day old. Seen from any moment
that is still to come, the moments that are remembered under a key and the moments at which replies were
granted under it have the same ones of the last day (`Parley.ReplySimulator.today_granted_replies`). So the
service counts exactly the replies granted less than an hour and less than a day ago
(`Parley.ReplySimulator.granted_iff_room`), and neither what it refused nor what a rule intercepted.
-/

namespace Parley

/-! ### Clocks that do not go back -/

namespace Moment

variable {m n past : Moment} {short long seconds : Int}

/-- Whether a clock that does not go back may show one moment and then the other. -/
structure UpTo (m n : Moment) : Prop where
  comparable : n.comparable m = true
  le : m.instant ≤ n.instant

instance : Decidable (m.UpTo n) :=
  decidable_of_iff (n.comparable m = true ∧ m.instant ≤ n.instant)
    ⟨fun h => ⟨h.1, h.2⟩, fun h => ⟨h.1, h.2⟩⟩

/-- What is near to a later moment is near to an earlier one. -/
theorem within_of_upTo (h : m.UpTo n) (near : n.within past seconds = true) :
    m.within past seconds = true := by
  have le := h.le
  simp only [within, decide_eq_true_eq] at near ⊢
  omega

theorem within_mono (h : short ≤ long) (near : m.within past short = true) : m.within past long = true := by
  simp only [within, decide_eq_true_eq] at near ⊢
  omega

/-- A moment is near to itself. -/
theorem within_self (h : 0 < seconds) : m.within m seconds = true := by
  simp only [within, decide_eq_true_eq]
  omega

end Moment

namespace ReplySimulator

variable {s : ReplySimulator} {q : Query} {now later : Moment} {times : List Moment} {seconds : Int}

/-! ### The decision -/

/-- How many of some moments lie less than so many seconds back. -/
def recent (now : Moment) (seconds : Int) (times : List Moment) : Nat :=
  times.countP fun t => now.within t seconds

/-- The moments of the last day. -/
def today (now : Moment) (times : List Moment) : List Moment := times.filter fun t => now.within t day

/-- Dropping what is a day old does not change how many moments lie less than a shorter time back. -/
theorem recent_today (le : seconds ≤ day) (now : Moment) (times : List Moment) :
    recent now seconds (today now times) = recent now seconds times := by
  rw [recent, today, List.countP_filter]
  refine List.countP_congr fun t _ => ?_
  rw [Bool.and_eq_true]
  exact ⟨And.left, fun near => ⟨near, Moment.within_mono le near⟩⟩

/-- Whether a request finds room if replies were granted under its key at some moments. -/
def HasRoom (s : ReplySimulator) (q : Query) (times : List Moment) : Prop :=
  recent q.time hour times < s.perHour q.request ∧ recent q.time day times < s.perDay q.request

/-- What is a day old is dropped, and the limits are compared with what is left of the last hour and of the
last day. -/
theorem grant_eq (perHour perDay : Int) (now : Moment) (times : List Moment) :
    grant perHour perDay now times =
      if perHour ≤ recent now hour times ∨ perDay ≤ recent now day times then (false, today now times)
      else (true, today now times ++ [now]) := by
  have lately : ((today now times).filter fun t => now.within t hour).length = recent now hour times := by
    rw [← List.countP_eq_length_filter]
    exact recent_today (by decide) now times
  have daily : (today now times).length = recent now day times := List.countP_eq_length_filter.symm
  rw [← lately, ← daily]
  rfl

/-- **The decision**: a request that no rule intercepts is granted if it finds room, and else refused; in any
case the moments that are a day old are dropped. -/
theorem verdict_cases (free : q.fault = none) (fits : times.all q.time.comparable = true) :
    (s.HasRoom q times ∧ s.verdict q times = (.ok (reply q.request), today q.time times ++ [q.time])) ∨
      (¬s.HasRoom q times ∧ s.verdict q times = (.ok refusal, today q.time times)) := by
  unfold verdict HasRoom
  simp only [free, if_pos fits, grant_eq]
  by_cases full : s.perHour q.request ≤ recent q.time hour times ∨
      s.perDay q.request ≤ recent q.time day times
  · simp only [if_pos full]
    exact .inr ⟨by omega, rfl⟩
  · simp only [if_neg full]
    exact .inl ⟨by omega, rfl⟩

/-- A rule that intercepts a request grants nothing. -/
theorem isGranted_fail (rule : FaultRule) (r : ReplyRequest) (j : Journal) :
    isGranted (fail rule r j).1 = false := by
  unfold fail
  split
  · rfl
  · split <;> rfl

theorem verdict_of_fault {rule : FaultRule} (fault : q.fault = some rule) :
    isGranted (s.verdict q times).1 = false ∧ (s.verdict q times).2 = times := by
  unfold verdict
  rw [fault]
  exact ⟨isGranted_fail rule q.request {}, rfl⟩

/-- **All that a request can do**: it finds room, is granted and is remembered; or it is not granted, and what is
remembered stays, but for what is a day old. -/
theorem verdict_outcomes (s : ReplySimulator) (q : Query) (times : List Moment) :
    (s.HasRoom q times ∧ s.verdict q times = (.ok (reply q.request), today q.time times ++ [q.time])) ∨
      (isGranted (s.verdict q times).1 = false ∧
        ((s.verdict q times).2 = times ∨ (s.verdict q times).2 = today q.time times)) := by
  cases fault : q.fault with
  | some rule => exact .inr ((verdict_of_fault fault).imp_right .inl)
  | none =>
    by_cases fits : times.all q.time.comparable = true
    · exact (s.verdict_cases fault fits).imp_right fun ⟨_, eq⟩ => by
        rw [eq]
        exact ⟨rfl, .inr rfl⟩
    · have eq : s.verdict q times = (.error incomparable, times) := by
        simp only [verdict, fault, if_neg fits]
      rw [eq]
      exact .inr ⟨rfl, .inl rfl⟩

/-! ### What is remembered -/

/-- When replies were granted under a key. -/
def grantedAt (key : String) (log : List Answered) : List Moment :=
  (log.filter fun a => isGranted a.2 && a.1.key == key).map (·.1.time)

theorem grantedAt_concat (key : String) (log : List Answered) (a : Answered) :
    grantedAt key (log ++ [a]) =
      grantedAt key log ++ if isGranted a.2 && a.1.key == key then [a.1.time] else [] := by
  rw [grantedAt, List.filter_append, List.map_append, ← grantedAt, List.filter_singleton]
  cases isGranted a.2 && a.1.key == key <;> rfl

theorem recent_grantedAt (now : Moment) (seconds : Int) (key : String) (log : List Answered) :
    recent now seconds (grantedAt key log) =
      log.countP fun a => isGranted a.2 && a.1.key == key && now.within a.1.time seconds := by
  rw [recent, grantedAt, List.countP_map, List.countP_filter]
  refine List.countP_congr fun a _ => ?_
  rw [Function.comp_apply, Bool.and_comm]

theorem today_append (now : Moment) (times more : List Moment) :
    today now (times ++ more) = today now times ++ today now more := List.filter_append ..

/-- What is a day old once stays so. -/
theorem today_today (h : now.UpTo later) (times : List Moment) :
    today later (today now times) = today later times := by
  rw [today, today, List.filter_filter]
  refine List.filter_congr fun t _ => ?_
  rw [Bool.and_eq_left_iff_imp]
  exact Moment.within_of_upTo h

/-- A request remembers no moment but its own that was not remembered before. -/
theorem mem_verdict {t : Moment} (mem : t ∈ (s.verdict q times).2) : t ∈ times ∨ t = q.time := by
  rcases s.verdict_outcomes q times with ⟨-, eq⟩ | ⟨-, eq | eq⟩
  · rw [eq, List.mem_append, List.mem_singleton] at mem
    exact mem.imp_left List.mem_of_mem_filter
  · exact .inl (eq ▸ mem)
  · exact .inl (List.mem_of_mem_filter (eq ▸ mem))

/-- What is remembered is the time of a request. -/
theorem exists_of_mem_granted {qs : List Query} {key : String} {t : Moment}
    (mem : t ∈ (s.replies {} qs).2.granted key) : ∃ q ∈ qs, q.time = t := by
  induction qs using List.reverseRecOn generalizing key with
  | nil => exact absurd mem List.not_mem_nil
  | append_singleton qs q ih =>
    have before {key : String} (mem : t ∈ (s.replies {} qs).2.granted key) :
        ∃ p ∈ qs ++ [q], p.time = t := by
      obtain ⟨p, there, at_p⟩ := ih mem
      exact ⟨p, List.mem_append_left _ there, at_p⟩
    rw [(s.replies_concat {} qs q).2 key] at mem
    split at mem
    · rcases mem_verdict mem with old | rfl
      · exact before old
      · exact ⟨q, by simp, rfl⟩
    · exact before mem

/-- Under a clock that does not go back, a request can be compared with all that is remembered. -/
theorem comparable_granted {qs : List Query} (ahead : ∀ q ∈ qs, q.time.UpTo now) (key : String) :
    ((s.replies {} qs).2.granted key).all now.comparable = true := by
  rw [List.all_eq_true]
  intro t mem
  obtain ⟨q, there, rfl⟩ := exists_of_mem_granted mem
  exact (ahead q there).comparable

/-- **What is remembered is what matters**: under each key, the moments of the last day before any moment that is
still to come are those at which replies were granted. -/
theorem today_granted_replies {qs : List Query} (ordered : qs.Pairwise fun a b => a.time.UpTo b.time)
    (key : String) (ahead : ∀ q ∈ qs, q.time.UpTo later) :
    today later ((s.replies {} qs).2.granted key) = today later (grantedAt key (s.replies {} qs).1) := by
  induction qs using List.reverseRecOn generalizing later with
  | nil => rfl
  | append_singleton qs q ih =>
    have old := ih (List.pairwise_append.mp ordered).1 fun p mem => ahead p (List.mem_append_left _ mem)
    have upTo : q.time.UpTo later := ahead q (List.mem_append_right _ (List.mem_singleton_self q))
    rw [(s.replies_concat {} qs q).1, (s.replies_concat {} qs q).2 key, grantedAt_concat]
    by_cases own : key = q.key
    · subst own
      rw [if_pos rfl, beq_self_eq_true, Bool.and_true]
      rcases s.verdict_outcomes q ((s.replies {} qs).2.granted q.key) with ⟨-, eq⟩ | ⟨refused, eq | eq⟩
      -- what is dropped now would be dropped later as well
      · rw [eq, if_pos (show isGranted (.ok (reply q.request)) = true from rfl), today_append, today_append,
          today_today upTo, old]
      · rw [eq, refused, if_neg Bool.false_ne_true, List.append_nil, old]
      · rw [eq, refused, if_neg Bool.false_ne_true, List.append_nil, today_today upTo, old]
    · rw [if_neg own, beq_eq_false_iff_ne.mpr (Ne.symm own), Bool.and_false, if_neg Bool.false_ne_true,
        List.append_nil, old]

/-! ### The limits -/

/-- A limit of a request counts unless it is zero. -/
theorem limitOr_eq (asked : Option Int) (default : Int) :
    limitOr asked default = (asked.filter (· ≠ 0)).getD default := by
  cases asked with
  | none => rfl
  | some n => by_cases zero : n = 0 <;> simp [limitOr, zero, Option.filter]

/-- **The limits are exact.** Let a service be asked under a clock that does not go back. Every request gets its
answer in turn. A request that a rule intercepts is not granted. One that no rule intercepts is answered, and it
is granted exactly if, of the requests before it that were granted under its key, fewer than its hourly limit
came less than an hour before it and fewer than its daily limit less than a day before it. A limit is that of the
request, or that of the service if the request has none or zero. -/
theorem granted_iff_room (s : ReplySimulator) (qs : List Query)
    (ordered : qs.Pairwise fun a b => a.time.UpTo b.time) :
    let log := (s.replies {} qs).1
    log.map (·.1) = qs ∧
    ∀ before q answer after, log = before ++ (q, answer) :: after →
      (∀ rule, q.fault = some rule → isGranted answer = false) ∧
      (q.fault = none →
        let counted (seconds : Int) : Int := (before.countP fun a =>
          isGranted a.2 && a.1.key == q.key && q.time.within a.1.time seconds : Nat)
        ∃ given, answer = .ok given ∧ (given.success = false → given.rateLimited = true) ∧
          (given.success = true ↔
            counted hour < (q.request.perHour.filter (· ≠ 0)).getD s.limit.perHour ∧
            counted day < (q.request.perDay.filter (· ≠ 0)).getD s.limit.perDay)) := by
  intro log
  refine ⟨map_fst_replies s {} qs, fun before q answer after split => ?_⟩
  obtain ⟨asked, rest, rfl, rfl, rfl⟩ := eq_of_replies_eq split
  obtain ⟨ordered, -, behind⟩ := List.pairwise_append.mp ordered
  have behind : ∀ p ∈ asked, p.time.UpTo q.time := fun p mem => behind p mem q List.mem_cons_self
  refine ⟨fun rule fault => (verdict_of_fault fault).1, fun free => ?_⟩
  intro counted
  -- what the service counts is what is remembered, and that is what was granted
  have counts {seconds : Int} (le : seconds ≤ day) :
      (recent q.time seconds ((s.replies {} asked).2.granted q.key) : Int) = counted seconds := by
    rw [← recent_today le, today_granted_replies ordered q.key behind, recent_today le, recent_grantedAt]
  have room : s.HasRoom q ((s.replies {} asked).2.granted q.key) ↔
      counted hour < (q.request.perHour.filter (· ≠ 0)).getD s.limit.perHour ∧
      counted day < (q.request.perDay.filter (· ≠ 0)).getD s.limit.perDay := by
    rw [HasRoom, counts (by decide), counts (Int.le_refl day), perHour, perDay, limitOr_eq, limitOr_eq]
  rw [← room]
  rcases s.verdict_cases free (comparable_granted behind q.key) with ⟨yes, eq⟩ | ⟨no, eq⟩
  · exact ⟨reply q.request, by rw [eq], nofun, iff_of_true rfl yes⟩
  · exact ⟨refusal, by rw [eq], fun _ => rfl, iff_of_false Bool.false_ne_true no⟩

/-- A request for the only reply in an hour, so many seconds after the clock began. -/
def hourlyQuery (seconds : Int) : Query :=
  { request := { message := "", recipient := "ann", automation := "shop", perHour := some 1 }
    time := Moment.later ⟨0, none⟩ seconds }

/-- Of three requests, the second comes a second too early, and the third at the very end of the hour. -/
theorem granted_iff_room_hourly :
    let qs := [hourlyQuery 0, hourlyQuery 3599, hourlyQuery 3600]
    (qs.Pairwise fun a b => a.time.UpTo b.time) ∧
    ∃ first second third, (replies {} {} qs).1.map (·.2) = [.ok first, .ok second, .ok third] ∧
      first.success = true ∧ second.success = false ∧ third.success = true := by
  intro qs
  have ordered : qs.Pairwise fun a b => a.time.UpTo b.time := by decide
  obtain ⟨-, decided⟩ := granted_iff_room {} qs ordered
  obtain ⟨a, b, c, log⟩ : ∃ a b c, (replies {} {} qs).1 =
      [(hourlyQuery 0, a), (hourlyQuery 3599, b), (hourlyQuery 3600, c)] :=
    ⟨_, _, _, by rw [replies_cons, replies_cons, replies_cons]; rfl⟩
  obtain ⟨first, rfl, -, room⟩ := (decided [] _ _ _ log).2 rfl
  have yes : first.success = true := room.mpr (by decide)
  obtain ⟨second, rfl, -, room⟩ := (decided [_] _ _ _ log).2 rfl
  have no : second.success = false := by
    rw [Bool.eq_false_iff, Ne, room]
    simp only [List.countP_singleton, isGranted, yes]
    decide
  obtain ⟨third, rfl, -, room⟩ := (decided [_, _] _ _ _ log).2 rfl
  have again : third.success = true := by
    rw [room]
    simp only [List.countP_cons, List.countP_nil, isGranted, yes, no]
    decide
  exact ⟨ordered, first, second, third, by rw [log]; rfl, yes, no, again⟩

end ReplySimulator

end Parley
