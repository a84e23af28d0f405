import Parley.Proofs.Dictionary
import Parley.Service.Live
import Parley.Service.Simulated

/-!
# Calls that are simulated, and calls over the network

The simulated service stands in for the one on the network: given the same answers it should answer the same and
write the same into the journal, so that an automation that was tried out does what it will do. It answers the same
(`Parley.CallSimulator.records_agree_iff_ok`), and its records name the same call. What they say of its end is
another matter. The service on the network writes a call down as failed if its status is not one of success, and the
simulated one writes down every call as a success that no rule makes fail. The two agree exactly on the answers
that are a success.

There is also what cannot be sent over the network: a body that holds a number that is not finite, unless there is
no place for a body (`Parley.CallRequest.Sendable`). The simulated service answers even then.
-/

namespace Parley

variable {r : CallRequest}

/-! ### What can be sent -/

/-- A call can be sent over the network: its body has no number that is not finite, or is put into the query. -/
def CallRequest.Sendable (r : CallRequest) : Prop :=
  LiveCalls.isPlainMethod r.method = true ∨ r.body.infinite? = none

namespace LiveCalls

/-- A call that can be sent is sent. -/
theorem exists_sent (h : r.Sendable) : ∃ arrives, sent r = .ok arrives := by
  unfold sent requireFinite
  rcases h with plain | finite
  · rw [plain]
    exact ⟨_, rfl⟩
  · rw [finite]
    dsimp only
    split
    · exact ⟨_, rfl⟩
    · exact ⟨_, rfl⟩

/-- A call that cannot be sent is given up for a number of its body. -/
theorem exists_unwritable (h : ¬r.Sendable) :
    ∃ x, r.body.infinite? = some x ∧ sent r = .error (.unwritable x) := by
  obtain ⟨bodied, infinite⟩ := not_or.mp h
  obtain ⟨x, found⟩ := Option.ne_none_iff_exists'.mp infinite
  have some_body : r.body.isNull = false := by
    cases body : r.body with
    | null =>
      rw [body] at found
      simp only [Value.infinite?, reduceCtorEq] at found
    | _ => rfl
  refine ⟨x, found, ?_⟩
  unfold sent requireFinite
  rw [Bool.eq_false_iff.mpr bodied, some_body, found]
  rfl

variable {s : LiveCalls} {peer : SentRequest → PeerAnswer} {status : Int} {body : PeerBody}

/-- **What comes of a call that a peer answers**: the answer, and a record that tells whether it is one of success. -/
theorem call_of_response (h : r.Sendable)
    (answers : ∀ arrives, sent r = .ok arrives → peer arrives = .response status body) (j : Journal) :
    let response : CallResponse := { status, body := body.toValue }
    s.call peer r j = (.ok response, j.logIf s.keepsJournal
      (r.entry (if response.ok then .success else .failed) none (some [("status", .int status)]))) := by
  obtain ⟨arrives, sends⟩ := exists_sent h
  simp only [call, sends, receive, answers arrives sends]

end LiveCalls

namespace CallSimulator

/-- **What comes of a simulated call** that no rule makes fail: the answer from the list, and a record that tells of a
success. -/
theorem call_of_scripted {s : CallSimulator} {response : CallResponse}
    (unruled : s.rules.rule? s.draw "http" (Text.upper r.method) = none)
    (scripted : s.responses.get? r.url = some response) (j : Journal) :
    s.call r j = (.ok response, j.log (r.entry .success none (some response.fields))) := by
  simp only [call, unruled, responseOf, scripted, Option.getD_some]

/-- **The simulation and the network agree on everything but the end of a call.** Take a call that no rule makes fail,
and let the list of answers have for its address what the peer answers to it: a status and a body. Then the simulated
service answers just this, and so does the one on the network, unless the call cannot be sent, when it is given up and
nothing is written down. Each adds one record to its journal, with the same service, action and parameters. The record
of the simulation always tells of a success, and the other one only if the status is one of success; so the two tell
the same if and only if it is. -/
theorem records_agree_iff_ok (s : CallSimulator) (peer : SentRequest → PeerAnswer) {status : Int} {body : PeerBody}
    (unruled : s.rules.rule? s.draw "http" (Text.upper r.method) = none)
    (scripted : s.responses.get? r.url = some { status, body := body.toValue })
    (answers : ∀ arrives, LiveCalls.sent r = .ok arrives → peer arrives = .response status body)
    (j j' : Journal) :
    let response : CallResponse := { status, body := body.toValue }
    let live : LiveCalls := {}
    ∃ here there : CallEntry,
      s.call r j = (.ok response, j.log here) ∧
      (r.Sendable → live.call peer r j' = (.ok response, j'.log there)) ∧
      (¬r.Sendable → ∃ x, r.body.infinite? = some x ∧ live.call peer r j' = (.error (.unwritable x), j')) ∧
      (here.service = there.service ∧ here.action = there.action ∧ here.parameters = there.parameters) ∧
      here.status = .success ∧ there.status = (if response.ok then .success else .failed) ∧
      (here.status = there.status ↔ response.ok = true) := by
  intro response live
  refine ⟨_, _, call_of_scripted unruled scripted j, fun sendable => LiveCalls.call_of_response sendable answers j',
    fun unsendable => ?_, ⟨rfl, rfl, rfl⟩, rfl, rfl, ?_⟩
  · obtain ⟨x, found, stuck⟩ := LiveCalls.exists_unwritable unsendable
    exact ⟨x, found, by rw [LiveCalls.call, stuck]⟩
  · show CallStatus.success = (if response.ok then CallStatus.success else CallStatus.failed) ↔ _
    cases response.ok <;> decide

/-- A call that finds nothing: the simulation takes it for a success, and the service on the network does not. -/
theorem records_agree_iff_ok_missing :
    let s : CallSimulator := { responses := [("https://a.test/x", { status := 404 })] }
    let r : CallRequest := { url := "https://a.test/x" }
    s.rules.rule? s.draw "http" (Text.upper r.method) = none ∧ r.Sendable ∧
      ∃ here there : CallEntry,
        s.call r {} = (.ok { status := 404 }, ({} : Journal).log here) ∧
        ({} : LiveCalls).call (fun _ => .response 404 (.document .null)) r {} =
          (.ok { status := 404 }, ({} : Journal).log there) ∧
        here.status = .success ∧ there.status = .failed ∧ here.status ≠ there.status := by
  intro s r
  have unruled : s.rules.rule? s.draw "http" (Text.upper r.method) = none := rfl
  have sendable : r.Sendable := .inl rfl
  obtain ⟨here, there, simulated, sent, -, -, success, failed, agree⟩ :=
    records_agree_iff_ok (r := r) s (fun _ => .response 404 (.document .null)) unruled rfl (fun _ _ => rfl) {} {}
  exact ⟨unruled, sendable, here, there, simulated, sent sendable, success, failed, fun same =>
    absurd (agree.mp same) (by decide)⟩

end CallSimulator

end Parley
