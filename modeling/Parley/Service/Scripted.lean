import Parley.Service.Journal
import Parley.Reading.Report

/-!
# Replies from a script

A script is a list of answers. The first request gets the first one, the second the second, and so on;
when the list is at its end, the last answer is given again and again. An answer that cannot be read is a
failure, told by the report on its issues.
-/

namespace Parley

/-- The answers that requests for replies get, one after the other. -/
structure Script where
  answers : List (Except ServiceFailure Reply)

namespace Script

/-- Reads an answer: a reply, or a failure given by its message. -/
def answerOf (manual : String) (v : Value) : Except ServiceFailure Reply :=
  match v with
  | .dict fs =>
    match Dict.get? fs "raise" with
    | some (.str message) => .error { message }
    | _ =>
      match (Reply.reader v).toExcept with
      | .ok reply => .ok reply
      | .error issues => .error { message := Report.onIssues manual "AIResponse" "TokenUsage" v issues }
  | _ =>
    match (Reply.reader v).toExcept with
    | .ok reply => .ok reply
    | .error issues => .error { message := Report.onIssues manual "AIResponse" "AIResponse" v issues }

/-- Reads a script, of whose issues a manual may say more. -/
def ofValues (answers : List Value) (manual : String := "") : Script := ⟨answers.map (answerOf manual)⟩

/-- The answer to a request that `n` others have gone before. -/
def answer (s : Script) (n : Nat) : Except ServiceFailure Reply :=
  match s.answers[min n (s.answers.length - 1)]? with
  | some a => a
  | none => .error { message := "list index out of range" }

/-- Answers a request. -/
def generate (s : Script) (r : ReplyRequest) (j : Journal) : Except ServiceFailure Reply × Journal :=
  (s.answer j.scripted.length, { j with scripted := j.scripted ++ [r] })

end Script

end Parley
