import Mathlib.Data.List.Basic
import Parley.Proofs.Dictionary
import Parley.Service.Simulated

/-!
# Replies one after the other

The simulated service that writes replies remembers when it granted some, under a text made of the recipient
and the automation of a request: its *key*. What a request comes to depends on the moments remembered under
its own key and on nothing else that happened, and it changes them and no others.
`Parley.ReplySimulator.verdict` is that dependence as a function, and the two equations beside it are all that
is used of the service elsewhere.

So the requests of one key never notice those of another (`Parley.ReplySimulator.replies_filter`). Whether
conversations are kept apart is then a question about keys. Two conversations can have the same one: the mark
between recipient and automation may also stand in either of them
(`Parley.ReplySimulator.usageKey_eq_iff`). They are kept apart exactly if this does not happen
(`Parley.ReplySimulator.apart_iff_not_overlaps`).
-/

namespace Parley

/-! ### Requests and answers -/

/-- A request as it comes to a simulated service. A rule may intercept one request and let the next one pass,
so it is left open which one does, if any. -/
structure Query where
  request : ReplyRequest
  time : Moment
  fault : Option FaultRule := none

namespace Query

/-- Under what the request counts. -/
def key (q : Query) : String := ReplySimulator.usageKey q.request

/-- Whether the request is of a conversation: of this recipient with this automation. -/
def isOf (recipient automation : String) (q : Query) : Bool :=
  q.request.recipient == recipient && q.request.automation == automation

end Query

/-- A request and what was answered. -/
abbrev Answered := Query × Except ServiceFailure Reply

/-- Whether an answer is a reply that was granted. -/
def isGranted : Except ServiceFailure Reply → Bool
  | .ok reply => reply.success
  | .error _ => false

namespace ReplySimulator

variable {s : ReplySimulator} {q : Query} {j j' : Journal} {times : List Moment} {key : String}

/-- The answers to some requests, one after the other, and the journal after them. -/
def replies (s : ReplySimulator) (j : Journal) : List Query → List Answered × Journal
  | [] => ([], j)
  | q :: rest =>
    let (answer, j) := s.answer q.fault q.time q.request j
    let (log, j) := s.replies j rest
    ((q, answer) :: log, j)

/-- What a request comes to if replies were granted under its key at some moments: the answer, and the moments
that are remembered from then on. -/
def verdict (s : ReplySimulator) (q : Query) (times : List Moment) :
    Except ServiceFailure Reply × List Moment :=
  match q.fault with
  | some rule => ((fail rule q.request {}).1, times)
  | none =>
    if times.all q.time.comparable then
      let (allowed, kept) := grant (s.perHour q.request) (s.perDay q.request) q.time times
      (.ok (if allowed then reply q.request else refusal), kept)
    else (.error incomparable, times)

/-! ### What one request does -/

theorem granted_put (j : Journal) (own key : String) (times : List Moment) :
    Journal.granted { j with usage := j.usage.put own times } key =
      if key = own then times else j.granted key := by
  simp only [Journal.granted, Dict.get?_put]
  split <;> rfl

/-- A rule intercepts a request without regard to the journal, and takes no account of it. -/
theorem fail_eq (rule : FaultRule) (r : ReplyRequest) (j : Journal) :
    (fail rule r j).1 = (fail rule r {}).1 ∧ ∀ key, (fail rule r j).2.granted key = j.granted key := by
  unfold fail
  by_cases limited : rule.kind = "rate_limit"
  · simp only [if_pos limited]
    exact ⟨trivial, fun _ => rfl⟩
  · by_cases late : rule.kind = "timeout"
    · simp only [if_neg limited, if_pos late]
      exact ⟨trivial, fun _ => rfl⟩
    · simp only [if_neg limited, if_neg late]
      exact ⟨trivial, fun _ => rfl⟩

/-- **The answer to a request** depends on what is remembered under its key. -/
theorem fst_answer (s : ReplySimulator) (q : Query) (j : Journal) :
    (s.answer q.fault q.time q.request j).1 = (s.verdict q (j.granted q.key)).1 := by
  unfold answer verdict
  cases q.fault with
  | some rule => exact (fail_eq rule q.request j).1
  | none =>
    rw [← Query.key]
    by_cases fits : (j.granted q.key).all q.time.comparable = true
    · simp only [if_pos fits]
      cases (grant (s.perHour q.request) (s.perDay q.request) q.time (j.granted q.key)).1 <;> rfl
    · simp only [if_neg fits]

/-- **What is remembered after a request** has changed under its key only. -/
theorem granted_answer (s : ReplySimulator) (q : Query) (j : Journal) (key : String) :
    (s.answer q.fault q.time q.request j).2.granted key =
      if key = q.key then (s.verdict q (j.granted q.key)).2 else j.granted key := by
  unfold answer verdict
  have unchanged : j.granted key = if key = q.key then j.granted q.key else j.granted key := by
    split
    · rename_i own
      rw [own]
    · rfl
  cases q.fault with
  | some rule => exact ((fail_eq rule q.request j).2 key).trans unchanged
  | none =>
    rw [← Query.key]
    by_cases fits : (j.granted q.key).all q.time.comparable = true
    · simp only [if_pos fits]
      cases (grant (s.perHour q.request) (s.perDay q.request) q.time (j.granted q.key)).1 <;>
        exact granted_put j q.key key _
    · simp only [if_neg fits]
      exact unchanged

/-! ### What a sequence of requests does -/

theorem replies_cons (s : ReplySimulator) (j : Journal) (q : Query) (rest : List Query) :
    (s.replies j (q :: rest)).1 = (q, (s.verdict q (j.granted q.key)).1) ::
      (s.replies (s.answer q.fault q.time q.request j).2 rest).1 := by
  rw [← fst_answer]
  rfl

theorem replies_append (s : ReplySimulator) (j : Journal) (qs more : List Query) :
    s.replies j (qs ++ more) =
      ((s.replies j qs).1 ++ (s.replies (s.replies j qs).2 more).1, (s.replies (s.replies j qs).2 more).2) := by
  induction qs generalizing j with
  | nil => rfl
  | cons q rest ih => simp only [List.cons_append, replies, ih]

/-- One more request at the end. -/
theorem replies_concat (s : ReplySimulator) (j : Journal) (qs : List Query) (q : Query) :
    (s.replies j (qs ++ [q])).1 =
        (s.replies j qs).1 ++ [(q, (s.verdict q ((s.replies j qs).2.granted q.key)).1)] ∧
      ∀ key, (s.replies j (qs ++ [q])).2.granted key =
        if key = q.key then (s.verdict q ((s.replies j qs).2.granted q.key)).2
        else (s.replies j qs).2.granted key := by
  rw [replies_append]
  exact ⟨by rw [← fst_answer]; rfl, granted_answer s q (s.replies j qs).2⟩

/-- Every request is answered, in order. -/
theorem map_fst_replies (s : ReplySimulator) (j : Journal) (qs : List Query) :
    (s.replies j qs).1.map (·.1) = qs := by
  induction qs generalizing j with
  | nil => rfl
  | cons q rest ih => rw [replies_cons, List.map_cons, ih]

/-- The answer at a place of the log is that to a request which those before it have gone before. -/
theorem eq_of_replies_eq {qs : List Query} {before after : List Answered}
    {answer : Except ServiceFailure Reply} (split : (s.replies j qs).1 = before ++ (q, answer) :: after) :
    ∃ asked rest, qs = asked ++ q :: rest ∧ before = (s.replies j asked).1 ∧
      answer = (s.verdict q ((s.replies j asked).2.granted q.key)).1 := by
  have all : qs = before.map (·.1) ++ q :: after.map (·.1) := by
    rw [← map_fst_replies s j qs, split, List.map_append, List.map_cons]
  rw [all, replies_append, replies_cons] at split
  have long : (s.replies j (before.map (·.1))).1.length = before.length := by
    rw [← List.length_map, map_fst_replies, List.length_map]
  obtain ⟨same, rest⟩ := List.append_inj split long
  exact ⟨_, _, all, same.symm, (Prod.mk.inj (List.cons.inj rest).1).2.symm⟩

/-- **Requests do not notice those of other keys**: without them, the requests of a key get the same answers. -/
theorem replies_filter (same : j.granted key = j'.granted key) (qs : List Query) :
    (s.replies j qs).1.filter (fun a => a.1.key == key) =
      (s.replies j' (qs.filter fun q => q.key == key)).1 := by
  induction qs generalizing j j' with
  | nil => rfl
  | cons q rest ih =>
    by_cases own : q.key = key
    · subst own
      have after : (s.answer q.fault q.time q.request j).2.granted q.key =
          (s.answer q.fault q.time q.request j').2.granted q.key := by
        rw [granted_answer, granted_answer, same]
      rw [replies_cons, List.filter_cons_of_pos (by simp), List.filter_cons_of_pos (by simp), replies_cons,
        ih after, same]
    · have after : (s.answer q.fault q.time q.request j).2.granted key = j'.granted key := by
        rw [granted_answer, if_neg (Ne.symm own), same]
      rw [replies_cons, List.filter_cons_of_neg (by simpa using own),
        List.filter_cons_of_neg (by simpa using own), ih after]

/-! ### Keys of conversations -/

/-- Two texts with a mark in between, split at one mark and at another. -/
theorem append_mark_eq_iff {mark : Char} {x y x' y' : List Char} :
    x ++ mark :: y = x' ++ mark :: y' ↔
      (x = x' ∧ y = y') ∨ (∃ m, x = x' ++ mark :: m ∧ y' = m ++ mark :: y) ∨
        ∃ m, x' = x ++ mark :: m ∧ y = m ++ mark :: y' := by
  rw [List.append_eq_append_iff]
  constructor
  · rintro (⟨m, rfl, rest⟩ | ⟨m, rfl, rest⟩)
    · cases m with
      | nil => exact .inl ⟨(List.append_nil x).symm, by simpa using rest⟩
      | cons c m =>
        obtain ⟨rfl, rfl⟩ := List.cons.inj rest
        exact .inr (.inr ⟨m, rfl, rfl⟩)
    · cases m with
      | nil => exact .inl ⟨List.append_nil x', by simpa using rest.symm⟩
      | cons c m =>
        obtain ⟨rfl, rfl⟩ := List.cons.inj rest
        exact .inr (.inl ⟨m, rfl, rfl⟩)
  · rintro (⟨rfl, rfl⟩ | ⟨m, rfl, rfl⟩ | ⟨m, rfl, rfl⟩)
    · exact .inl ⟨[], by simp, rfl⟩
    · exact .inr ⟨mark :: m, rfl, rfl⟩
    · exact .inl ⟨mark :: m, rfl, rfl⟩

/-- Whether one recipient and automation make another pair of texts when the mark between them is moved: the
recipient goes on with a mark, and the other automation begins with what follows there. -/
def Overlaps (recipient automation recipient' automation' : String) : Prop :=
  ∃ m : String, recipient = recipient' ++ ":" ++ m ∧ automation' = m ++ ":" ++ automation

/-- **When two requests count as one**: they are of the same conversation, or a mark inside a recipient or
an automation makes the texts of their conversations the same. -/
theorem usageKey_eq_iff {r r' : ReplyRequest} : usageKey r = usageKey r' ↔
    (r.recipient = r'.recipient ∧ r.automation = r'.automation) ∨
      Overlaps r.recipient r.automation r'.recipient r'.automation ∨
      Overlaps r'.recipient r'.automation r.recipient r.automation := by
  have mark : ":".toList = [':'] := rfl
  have some_text {P : List Char → Prop} : (∃ m : String, P m.toList) ↔ ∃ m, P m :=
    ⟨fun ⟨m, h⟩ => ⟨_, h⟩, fun ⟨m, h⟩ => ⟨String.ofList m, by rwa [String.toList_ofList]⟩⟩
  simp only [usageKey, Overlaps, ← String.toList_inj, String.toList_append, mark, List.append_assoc,
    List.singleton_append, append_mark_eq_iff]
  rw [some_text (P := fun m => _ = _ ++ ':' :: m ∧ _ = m ++ ':' :: _),
    some_text (P := fun m => _ = _ ++ ':' :: m ∧ _ = m ++ ':' :: _)]

/-- Conversations of the same recipient do not overlap. -/
theorem Overlaps.ne {recipient automation recipient' automation' : String}
    (h : Overlaps recipient automation recipient' automation') : recipient ≠ recipient' := by
  obtain ⟨m, rfl, -⟩ := h
  intro same
  have longer := congrArg String.length same
  simp only [String.length_append] at longer
  have mark : ":".length = 1 := rfl
  omega

/-- Among requests of a conversation and of others that do not overlap with it, those of the conversation are
those of its key. -/
theorem isOf_eq_key {recipient automation : String}
    (apart : ¬Overlaps recipient automation q.request.recipient q.request.automation ∧
      ¬Overlaps q.request.recipient q.request.automation recipient automation) :
    q.isOf recipient automation = (q.key == recipient ++ ":" ++ automation) := by
  let own : ReplyRequest := { message := "", recipient, automation }
  have of_key : q.key = usageKey own ↔ q.request.recipient = recipient ∧ q.request.automation = automation :=
    usageKey_eq_iff.trans (or_iff_left fun overlap => overlap.elim apart.2 apart.1)
  rw [Bool.eq_iff_iff, beq_iff_eq, Query.isOf, Bool.and_eq_true, beq_iff_eq, beq_iff_eq]
  exact of_key.symm

/-- Without the requests of other conversations that do not overlap with it, those of a conversation get the
same answers. -/
theorem replies_filter_isOf (s : ReplySimulator) (j : Journal) (qs : List Query)
    {recipient automation : String}
    (apart : ∀ q ∈ qs,
      ¬Overlaps recipient automation q.request.recipient q.request.automation ∧
      ¬Overlaps q.request.recipient q.request.automation recipient automation) :
    (s.replies j qs).1.filter (fun a => a.1.isOf recipient automation) =
      (s.replies j (qs.filter (Query.isOf recipient automation))).1 := by
  have asked : qs.filter (Query.isOf recipient automation) =
      qs.filter fun q => q.key == recipient ++ ":" ++ automation :=
    List.filter_congr fun q mem => isOf_eq_key (apart q mem)
  have answered : (s.replies j qs).1.filter (fun a => a.1.isOf recipient automation) =
      (s.replies j qs).1.filter fun a => a.1.key == recipient ++ ":" ++ automation := by
    refine List.filter_congr fun a mem => isOf_eq_key (apart a.1 ?_)
    rw [← map_fst_replies s j qs]
    exact List.mem_map_of_mem mem
  rw [asked, answered]
  exact replies_filter rfl qs

/-- A request for the only reply that its key gets. -/
def onlyQuery (recipient automation : String) : Query :=
  { request := { message := "", recipient, automation, perHour := some 1, perDay := some 1 }
    time := ⟨0, none⟩ }

/-- Of two requests for the only reply of a key, the second is refused. -/
theorem granted_onlyQuery (s : ReplySimulator) {recipient automation recipient' automation' : String}
    (same : (onlyQuery recipient automation).key = (onlyQuery recipient' automation').key) :
    let qs := [onlyQuery recipient automation, onlyQuery recipient' automation']
    (s.replies {} qs).1.map (isGranted ·.2) = [true, false] := by
  intro qs
  rw [replies_cons, replies_cons, granted_answer, if_pos same.symm]
  rfl

/-- A conversation that overlaps with another one notices it: the other one takes a reply that it would get if
it were alone. -/
theorem replies_ne_of_overlaps (s : ReplySimulator) {recipient automation recipient' automation' : String}
    (overlaps : Overlaps recipient automation recipient' automation' ∨
      Overlaps recipient' automation' recipient automation) :
    let qs := [onlyQuery recipient' automation', onlyQuery recipient automation]
    (s.replies {} qs).1.filter (fun a => a.1.isOf recipient automation) ≠
      (s.replies {} (qs.filter (Query.isOf recipient automation))).1 := by
  let q := onlyQuery recipient automation
  let q' := onlyQuery recipient' automation'
  have own : q.isOf recipient automation = true := by
    rw [Query.isOf, Bool.and_eq_true, beq_iff_eq, beq_iff_eq]
    exact ⟨rfl, rfl⟩
  have strange : ¬q'.isOf recipient automation = true := by
    rw [Query.isOf, Bool.and_eq_true, beq_iff_eq]
    exact fun same => overlaps.elim (fun o => o.ne same.1.symm) fun o => o.ne same.1
  have same : q'.key = q.key := usageKey_eq_iff.mpr (.inr overlaps.symm)
  obtain ⟨x, y, log⟩ : ∃ x y, (s.replies {} [q', q]).1 = [(q', x), (q, y)] :=
    ⟨_, _, by rw [replies_cons, replies_cons]; rfl⟩
  have refused : isGranted y = false := by
    have granted : (s.replies {} [q', q]).1.map (isGranted ·.2) = [true, false] := s.granted_onlyQuery same
    rw [log] at granted
    exact (List.cons.inj (List.cons.inj granted).2).1
  have asked : [q', q].filter (Query.isOf recipient automation) = [q] := by
    rw [List.filter_cons_of_neg strange, List.filter_cons_of_pos own, List.filter_nil]
  have answered : [(q', x), (q, y)].filter (fun a => a.1.isOf recipient automation) = [(q, y)] := by
    rw [List.filter_cons_of_neg (by exact strange), List.filter_cons_of_pos (by exact own), List.filter_nil]
  intro qs alone
  rw [log, asked, answered, replies_cons] at alone
  have granted : isGranted y = true := congrArg (fun a => isGranted a.2) (List.cons.inj alone).1
  exact absurd (refused.symm.trans granted) Bool.false_ne_true

/-- **Conversations are kept apart exactly if their texts do not overlap.** A conversation does not notice
others, which is to say that its requests get the same answers with the requests of the others and without
them, whatever was granted before, whenever the requests come and whichever of them are intercepted by rules:
this is so if and only if none of the others overlaps with it. -/
theorem apart_iff_not_overlaps (s : ReplySimulator) (recipient automation : String)
    (others : String → String → Prop) :
    (∀ j qs, (∀ q ∈ qs, q.isOf recipient automation = true ∨
        others q.request.recipient q.request.automation) →
      (s.replies j qs).1.filter (fun a => a.1.isOf recipient automation) =
        (s.replies j (qs.filter (Query.isOf recipient automation))).1) ↔
    ∀ recipient' automation', others recipient' automation' →
      ¬Overlaps recipient automation recipient' automation' ∧
      ¬Overlaps recipient' automation' recipient automation := by
  constructor
  · intro apart recipient' automation' other
    rw [← not_or]
    intro overlaps
    refine s.replies_ne_of_overlaps overlaps (apart {} _ ?_)
    rintro q (_ | ⟨_, _ | ⟨_, ⟨⟩⟩⟩)
    · exact .inr other
    · exact .inl (by simp [Query.isOf, onlyQuery])
  · intro apart j qs all
    refine replies_filter_isOf s j qs fun q mem => ?_
    rcases all q mem with own | other
    · rw [Query.isOf, Bool.and_eq_true, beq_iff_eq, beq_iff_eq] at own
      exact ⟨fun overlap => overlap.ne own.1.symm, fun overlap => overlap.ne own.1⟩
    · exact apart _ _ other

/-- The recipient of one conversation may hold the mark that begins the automation of another one. -/
example : ((replies {} {} [onlyQuery "a:b" "c", onlyQuery "a" "b:c"]).1.map fun a => isGranted a.2) =
    [true, false] := by decide +kernel

end ReplySimulator

end Parley
