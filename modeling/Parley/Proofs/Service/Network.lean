import Parley.Service.Network

/-!
# What comes of a call over the network

A service on the network promises to take an answer of the peer that says that the limit is reached for just that,
and to write down every call. It keeps its promises for all answers that it can read.

There are three ways out. A number that is not finite cannot be sent, so that the peer is not asked and nothing is
written down. The answer to a request that was granted is written down after it is read, so that one that cannot be
read leaves no trace (`Parley.LiveReplies.logged_once_iff`). And along with the word that the limit is reached there
may be something other than a text in the place of the text: this answer is written down first and given up then, and
the run says what it says of any failure (`Parley.LiveReplies.limit_told_unless_garbled`).
-/

namespace Parley

/-! ### Answers of a peer -/

namespace PeerBody

/-- The text that is sent along. -/
def text? (body : PeerBody) : Option String :=
  match Dict.get? body.fields "response_text" with
  | some (.str t) => some t
  | _ => none

/-- Whether something else, other than null, stands in the place of the text. -/
def garbled (body : PeerBody) : Bool :=
  match Dict.get? body.fields "response_text" with
  | none | some .null | some (.str _) => false
  | some _ => true

end PeerBody

namespace PeerAnswer

/-- The answer says that the limit is reached, and something other than a text is sent along in its place. -/
def GarbledLimit : PeerAnswer → Prop
  | .response status body => status = 429 ∧ body.garbled = true
  | .unreachable _ => False

/-- The answer is to be a reply and cannot be read as one. -/
def Unreadable : PeerAnswer → Prop
  | .response status body => status < 400 ∧ ∃ issues, Reply.reader (.dict body.fields) = .bad issues
  | .unreachable _ => False

end PeerAnswer

namespace LiveReplies

variable {s : LiveReplies} {peer : SentRequest → PeerAnswer} {r : ReplyRequest} {body : PeerBody} {j : Journal}

/-- The issue with what is sent along in the place of a text. -/
def notText : Issue := ⟨[.name "response_text"], .notText⟩

/-- What is made of the text of an answer that says that the limit is reached. -/
theorem limitText_eq (body : PeerBody) :
    limitText body = if body.garbled then .error (.unreadable [notText]) else .ok body.text? := by
  unfold limitText PeerBody.garbled PeerBody.text? Fields.textOrNull Fields.withDefault
  cases Dict.get? body.fields "response_text" with
  | none => rfl
  | some v => cases v <;> rfl

/-! ### What is sent -/

/-- The request as it arrives at the peer. -/
def request (s : LiveReplies) (r : ReplyRequest) : SentRequest :=
  { method := "POST", url := (Text.splitAddress s.url).1, query := Text.queryPairs (Text.splitAddress s.url).2,
    json := .dict r.fields, headers := s.headers }

/-- The temperature is the only number of a request that may not be finite. -/
theorem infinite?_fields (r : ReplyRequest) :
    (Value.dict r.fields).infinite? = if r.temperature.isFinite then none else some r.temperature := by
  have limit (n : Option Int) : (Value.ofInt? n).infinite? = none := by cases n <;> rfl
  simp only [ReplyRequest.fields, Value.infinite?, Value.infiniteField?, limit, Option.or_none, Option.none_or]

theorem sent_eq (s : LiveReplies) (r : ReplyRequest) :
    s.sent r = if r.temperature.isFinite then .ok (s.request r) else .error (.unwritable r.temperature) := by
  unfold sent requireFinite
  rw [infinite?_fields]
  cases r.temperature.isFinite <;> rfl

theorem generate_of_finite (finite : r.temperature.isFinite = true) :
    s.generate peer r j = s.receive r (peer (s.request r)) j := by
  rw [generate, sent_eq, if_pos finite]

theorem generate_of_infinite (infinite : ¬r.temperature.isFinite = true) :
    s.generate peer r j = (.error (.unwritable r.temperature), j) := by
  rw [generate, sent_eq, if_neg infinite]

theorem said_of_finite (finite : r.temperature.isFinite = true) :
    s.said peer r = (peer (s.request r)).document := by
  rw [said, sent_eq, if_pos finite]

/-! ### Limits -/

/-- The reply that the limit is reached. -/
def limitReply (text : Option String) : Reply :=
  { success := false, text, rateLimited := true, error := some "rate limit exceeded" }

/-- The report on what is sent along in the place of a text. -/
def garbledReport (manual : String) (body : PeerBody) : String :=
  Report.onIssues manual "AIResponse" "TokenUsage" (.dict body.fields) [notText]

/-- **An answer that says that the limit is reached** is written down as such, whatever it holds. -/
theorem receive_limit (s : LiveReplies) (r : ReplyRequest) (body : PeerBody) (j : Journal) :
    s.receive r (.response 429 body) j =
      (if body.garbled then .error (.unreadable [notText]) else .ok (limitReply body.text?),
        j.logIf s.keepsJournal (r.entry .rateLimited none none)) := by
  unfold receive
  dsimp only
  rw [if_pos rfl, limitText_eq]
  cases body.garbled <;> rfl

theorem generate_of_limit (finite : r.temperature.isFinite = true)
    (full : peer (s.request r) = .response 429 body) :
    s.generate peer r j =
      (if body.garbled then .error (.unreadable [notText]) else .ok (limitReply body.text?),
        j.logIf s.keepsJournal (r.entry .rateLimited none none)) := by
  rw [generate_of_finite finite, full, receive_limit]

theorem serve_of_limit (manual : String) (finite : r.temperature.isFinite = true)
    (full : peer (s.request r) = .response 429 body) :
    (s.serve manual peer r j).1 =
      if body.garbled then .error { message := garbledReport manual body } else .ok (limitReply body.text?) := by
  rw [serve, generate_of_limit finite full, said_of_finite finite, full]
  cases body.garbled <;> rfl

/-- **The limit is told unless its text is garbled.** A request is sent and the peer answers that the limit is reached.
If there is no text along with it, or null, or a text, the service replies that the limit is reached, with this text; if
there is anything else in its place, there is no reply but an answer that cannot be read. The call is written down as
one that reached the limit either way.

A step that asks for this reply says the text, or else its own word for the limit, in the first case. In the second case
it falls back on what it says of failures, and the report on the answer stands beside it, wherever its manual is. -/
theorem limit_told_unless_garbled (s : LiveReplies) (peer : SentRequest → PeerAnswer) {r : ReplyRequest}
    {body : PeerBody} (finite : r.temperature.isFinite = true) (full : peer (s.request r) = .response 429 body)
    (j : Journal) :
    s.generate peer r j =
      (if body.garbled then .error (.unreadable [notText]) else .ok (limitReply body.text?),
        j.logIf s.keepsJournal (r.entry .rateLimited none none)) ∧
    ∀ (manual : String) (step : Step) (c : ReplySettings) (st : RunState), Step.replyRequest c st = r →
      (step.sendReply c (s.services manual peer) st j).1 = .ofEffect
        (if body.garbled then
          .message step (orElseText c.fallbackResponse Step.defaultFallback)
            [("error", .str (garbledReport manual body))]
        else
          .message step (orElseText body.text? (orElseText c.rateLimitMessage Step.defaultLimitMessage))
            [("rate_limited", .bool true)]) := by
  refine ⟨generate_of_limit finite full, ?_⟩
  rintro manual step c st rfl
  have told : (step.sendReply c (s.services manual peer) st j).1 =
      .ofEffect (step.replyEffect c (Step.settledReply (s.serve manual peer (Step.replyRequest c st) j).1)) := rfl
  rw [told, serve_of_limit manual finite full]
  cases body.garbled <;> rfl

/-- A peer sends a text along, another one sends a number in its place: the one is told, and for the other the step
apologizes. -/
theorem limit_told_unless_garbled_number :
    let s : LiveReplies := { url := "ai.test" }
    let step : Step := { id := "ask", body := .reply {} }
    let st : RunState := { automation := "a", message := "When?", context := { recipient := "you" } }
    let saying (v : Value) (_ : SentRequest) : PeerAnswer := .response 429 (.document (.dict [("response_text", v)]))
    (Step.replyRequest {} st).temperature.isFinite = true ∧
    ((step.sendReply {} (s.services "" (saying (.str "Slow down"))) st {}).1.effects.map fun e => e.text) =
      ["Slow down"] ∧
    ((step.sendReply {} (s.services "" (saying (.int 5))) st {}).1.effects.map fun e => e.text) =
      [Step.defaultFallback] := by
  intro s step st saying
  have finite : (Step.replyRequest {} st).temperature.isFinite = true := by decide
  have told := (limit_told_unless_garbled s (saying (.str "Slow down")) finite rfl {}).2 "" step {} st rfl
  have garbled := (limit_told_unless_garbled s (saying (.int 5)) finite rfl {}).2 "" step {} st rfl
  refine ⟨finite, ?_, ?_⟩
  · rw [told]
    rfl
  · rw [garbled]
    rfl

/-! ### The journal -/

/-- A peer that refuses gives an answer. -/
theorem receive_of_refused {status : Int} (high : 400 ≤ status) (other : status ≠ 429) :
    s.receive r (.response status body) j =
      (.ok { success := false, error := some ("AI service returned HTTP " ++ toString status) },
        j.logIf s.keepsJournal (r.entry .failed (some ("HTTP " ++ toString status)) none)) := by
  unfold receive
  dsimp only
  rw [if_neg other, if_pos high]

/-- What is read is written down after it is read. -/
theorem receive_of_read {status : Int} (low : status < 400) {reply : Reply}
    (read : Reply.reader (.dict body.fields) = .ok reply) :
    s.receive r (.response status body) j =
      (.ok reply, j.logIf s.keepsJournal (r.entry .success none (some reply.fields))) := by
  unfold receive
  dsimp only
  rw [if_neg (by omega), if_neg (by omega), read]
  rfl

theorem receive_of_unread {status : Int} (low : status < 400) {issues : List Issue}
    (unread : Reply.reader (.dict body.fields) = .bad issues) :
    s.receive r (.response status body) j = (.error (.unreadable issues), j) := by
  unfold receive
  dsimp only
  rw [if_neg (by omega), if_neg (by omega), unread]
  rfl

/-- A call is written down, once and as it was asked for, and nothing else is. -/
def Recorded (r : ReplyRequest) (j after : Journal) : Prop :=
  ∃ status error result, after = j.log (r.entry status error result)

theorem recorded_logIf (keeps : s.keepsJournal = true) (status : CallStatus) (error : Option String)
    (result : Option Fields) : Recorded r j (j.logIf s.keepsJournal (r.entry status error result)) := by
  rw [keeps]
  exact ⟨status, error, result, rfl⟩

theorem not_recorded_self : ¬Recorded r j j := by
  rintro ⟨status, error, result, same⟩
  have calls : j.calls = j.calls ++ [r.entry status error result] := congrArg Journal.calls same
  exact List.cons_ne_nil _ _ (List.self_eq_append_right.mp calls)

/-- There is a reply, or a failure of the service. -/
def Settled (answer : Except LiveError Reply) : Prop :=
  (∃ reply, answer = .ok reply) ∨ ∃ failure, answer = .error (.failed failure)

theorem not_settled_of_unreadable (issues : List Issue) : ¬Settled (.error (.unreadable issues)) := by
  rintro (⟨_, ⟨⟩⟩ | ⟨_, ⟨⟩⟩)

theorem not_settled_of_unwritable (x : Float) : ¬Settled (.error (.unwritable x)) := by
  rintro (⟨_, ⟨⟩⟩ | ⟨_, ⟨⟩⟩)

/-- **What comes of an answer** of the peer where a journal is kept: there is no trace of it, or it is written down and
cannot be read, or it is written down and settles the request. -/
theorem receive_cases (keeps : s.keepsJournal = true) (r : ReplyRequest) (said : PeerAnswer) (j : Journal) :
    (said.Unreadable ∧ ∃ issues, s.receive r said j = (.error (.unreadable issues), j)) ∨
    ∃ after, Recorded r j after ∧ ¬said.Unreadable ∧
      (said.GarbledLimit ∧ s.receive r said j = (.error (.unreadable [notText]), after) ∨
        ¬said.GarbledLimit ∧ ∃ answer, Settled answer ∧ s.receive r said j = (answer, after)) := by
  cases said with
  | unreachable reason =>
    exact .inr ⟨_, recorded_logIf keeps .failed (some reason) none, nofun, .inr ⟨nofun, _, .inr ⟨_, rfl⟩, rfl⟩⟩
  | response status body =>
    by_cases low : status < 400
    · have clear : ¬(PeerAnswer.response status body).GarbledLimit := by
        rintro ⟨full, -⟩
        omega
      cases read : Reply.reader (.dict body.fields) with
      | error issues => exact .inl ⟨⟨low, issues, read⟩, issues, receive_of_unread low read⟩
      | ok reply =>
        have readable : ¬(PeerAnswer.response status body).Unreadable := by
          rintro ⟨-, issues, unread⟩
          cases read.symm.trans unread
        exact .inr ⟨_, recorded_logIf keeps .success none (some reply.fields), readable,
          .inr ⟨clear, _, .inl ⟨reply, rfl⟩, receive_of_read low read⟩⟩
    · have readable : ¬(PeerAnswer.response status body).Unreadable := fun unread => low unread.1
      by_cases full : status = 429
      · subst full
        refine .inr ⟨_, recorded_logIf keeps .rateLimited none none, readable, ?_⟩
        rw [receive_limit]
        cases garbled : body.garbled with
        | true => exact .inl ⟨⟨rfl, garbled⟩, rfl⟩
        | false =>
          have clear : ¬(PeerAnswer.response 429 body).GarbledLimit := fun limit => by
            cases garbled.symm.trans limit.2
          exact .inr ⟨clear, _, .inl ⟨limitReply body.text?, rfl⟩, rfl⟩
      · have clear : ¬(PeerAnswer.response status body).GarbledLimit := fun limit => full limit.1
        exact .inr ⟨_, recorded_logIf keeps .failed _ none, readable,
          .inr ⟨clear, _, .inl ⟨_, rfl⟩, receive_of_refused (by omega) full⟩⟩

/-- **A call is written down once, unless** its number cannot be sent or its answer cannot be read as the reply that it
is to be; then the journal stays as it is. There is a reply or the failure of a service under the same conditions, but
for one: an answer that says that the limit is reached and has something other than a text in the place of the text is
written down and cannot be read. Whatever comes of it otherwise is told as a number that cannot be sent or as an answer
that cannot be read. -/
theorem logged_once_iff (url : String) (apiKey : Option String) (peer : SentRequest → PeerAnswer)
    (r : ReplyRequest) (j : Journal) :
    let s : LiveReplies := { url, apiKey }
    let answer := (s.generate peer r j).1
    let after := (s.generate peer r j).2
    let finite := r.temperature.isFinite = true
    let said := peer (s.request r)
    (Recorded r j after ↔ finite ∧ ¬said.Unreadable) ∧ (Recorded r j after ∨ after = j) ∧
    (Settled answer ↔ finite ∧ ¬said.Unreadable ∧ ¬said.GarbledLimit) ∧
    (Settled answer ∨ answer = .error (.unwritable r.temperature) ∨
      ∃ issues, answer = .error (.unreadable issues)) := by
  intro s answer after finite said
  by_cases sends : r.temperature.isFinite = true
  · have generated : (answer, after) = s.receive r said j := generate_of_finite sends
    rcases s.receive_cases rfl r said j with ⟨unread, issues, none⟩ | ⟨after', recorded, readable, outcome⟩
    · obtain ⟨answer_eq, after_eq⟩ := Prod.mk.inj (generated.trans none)
      rw [answer_eq, after_eq]
      refine ⟨iff_of_false not_recorded_self fun both => both.2 unread, .inr rfl, ?_, .inr (.inr ⟨issues, rfl⟩)⟩
      exact iff_of_false (not_settled_of_unreadable issues) fun all => all.2.1 unread
    · rcases outcome with ⟨garbled, told⟩ | ⟨clear, answer', settled, told⟩
      · obtain ⟨answer_eq, after_eq⟩ := Prod.mk.inj (generated.trans told)
        rw [answer_eq, after_eq]
        refine ⟨iff_of_true recorded ⟨sends, readable⟩, .inl recorded, ?_, .inr (.inr ⟨_, rfl⟩)⟩
        exact iff_of_false (not_settled_of_unreadable _) fun all => all.2.2 garbled
      · obtain ⟨answer_eq, after_eq⟩ := Prod.mk.inj (generated.trans told)
        rw [answer_eq, after_eq]
        exact ⟨iff_of_true recorded ⟨sends, readable⟩, .inl recorded,
          iff_of_true settled ⟨sends, readable, clear⟩, .inl settled⟩
  · have generated : (answer, after) = (.error (.unwritable r.temperature), j) := generate_of_infinite sends
    obtain ⟨answer_eq, after_eq⟩ := Prod.mk.inj generated
    rw [answer_eq, after_eq]
    refine ⟨iff_of_false not_recorded_self fun both => sends both.1, .inr rfl, ?_, .inr (.inl rfl)⟩
    exact iff_of_false (not_settled_of_unwritable _) fun all => sends all.1

end LiveReplies

end Parley
