import Parley.Service.Fault
import Parley.Service.Journal

/-!
# Simulated services

Stand-ins for the services, for trying an automation out. The one that writes replies answers with the
sentence of its background text that has the most words in common with the message, and limits how many
replies a recipient gets in an hour and in a day: a reply is granted if fewer than the allowed number
were granted in the time before it. The one that makes calls answers from a list, or that all is well.
-/

namespace Parley

/-! ### Sentences -/

namespace Text

/-- Whether a character is a digit or one of the small letters of the Latin alphabet. -/
def isWordChar (c : Char) : Bool := c.isDigit || c.isLower

/-- The longest runs of characters satisfying `p`, where `run` is the one under way. -/
def runsFrom (p : Char → Bool) (run : List Char) : List Char → List (List Char)
  | [] => if run.isEmpty then [] else [run]
  | c :: rest =>
    if p c then runsFrom p (run ++ [c]) rest
    else if run.isEmpty then runsFrom p [] rest
    else run :: runsFrom p [] rest

/-- The different words of a text: runs of letters and digits in lower case. -/
def wordSet (s : String) : List String :=
  distinct ((runsFrom isWordChar [] (lower s).toList).map String.ofList)

/-- Whether a character ends a sentence. -/
def endsSentence (c : Char) : Bool := c == '.' || c == '!' || c == '?'

/-- Where the reader of sentences stands. -/
inductive Gap where
  /-- Inside a sentence, after a character that does or does not end one. -/
  | inside (ended : Bool)
  /-- In the white space after the end of a sentence. -/
  | blanks
  /-- Between lines. -/
  | lines

/-- The sentences of a text: it is cut at the white space after a full stop, an exclamation mark or a
question mark, and at line ends. -/
def sentencesFrom (gap : Gap) (sentence : List Char) : List Char → List (List Char)
  | [] => [sentence]
  | c :: rest =>
    match gap with
    | .blanks =>
      if isBlank c then sentencesFrom .blanks [] rest
      else sentencesFrom (.inside (endsSentence c)) [c] rest
    | .lines =>
      if c == '\n' then sentencesFrom .lines [] rest
      else sentencesFrom (.inside (endsSentence c)) [c] rest
    | .inside ended =>
      if ended && isBlank c then sentence :: sentencesFrom .blanks [] rest
      else if c == '\n' then sentence :: sentencesFrom .lines [] rest
      else sentencesFrom (.inside (endsSentence c)) (sentence ++ [c]) rest

/-- The sentences of a text. -/
def sentences (s : String) : List String :=
  (sentencesFrom (.inside false) [] s.toList).map String.ofList

end Text

/-! ### Replies -/

/-- The simulated service that writes replies. -/
structure ReplySimulator where
  rules : FaultRules := []
  /-- What is drawn to decide whether a rule applies. Unless it is said, no rule applies by chance. -/
  draw : Float := 1.0
  /-- The limit for requests that have none. -/
  limit : RateLimit := {}

namespace ReplySimulator

/-- What is replied when nothing fits. -/
def defaultReply : String := "Thanks for reaching out! A member of our team will help you shortly."

/-- How many different words of the message a sentence has. -/
def score (message sentence : String) : Nat :=
  ((Text.wordSet message).filter fun w => (Text.wordSet sentence).contains w).length

/-- The first sentence with the greatest score above `least`, trimmed, or `best`. -/
def bestFrom (message : String) (best : String) (least : Nat) : List String → String
  | [] => best
  | s :: rest =>
    let n := score message s
    if least < n then bestFrom message (Text.trim s) n rest else bestFrom message best least rest

/-- The reply to a request. -/
def compose (r : ReplyRequest) : String :=
  let best := bestFrom r.message "" 0 (Text.sentences r.contextData)
  if best = "" then defaultReply else best

/-- Under what a request counts: its recipient and automation. -/
def usageKey (r : ReplyRequest) : String := r.recipient ++ ":" ++ r.automation

/-- A limit of the request, unless there is none or it is zero. -/
def limitOr (asked : Option Int) (default : Int) : Int :=
  match asked with
  | some n => if n = 0 then default else n
  | none => default

/-- Seconds in an hour. -/
def hour : Int := 3600

/-- Seconds in a day. -/
def day : Int := 86400

/-- Whether the granted replies leave room for another one, and those that still count: the ones of the
last day, with the new one if it is granted. -/
def grant (perHour perDay : Int) (now : Moment) (granted : List Moment) : Bool × List Moment :=
  let today := granted.filter fun t => now.within t day
  let lately := today.filter fun t => now.within t hour
  if perHour ≤ lately.length ∨ perDay ≤ today.length then (false, today) else (true, today ++ [now])

/-- The length of a reply and of what it answers, in words; a reply counts for at most the allowed
length. -/
def usageOf (r : ReplyRequest) (reply : String) : TokenUsage :=
  let prompt : Int := (Text.words r.message).length + (Text.words r.systemPrompt).length
  let written : Int := (Text.words reply).length
  let completion := min written r.maxTokens
  ⟨prompt, completion, prompt + completion⟩

/-- Fails by a rule. -/
def fail (rule : FaultRule) (r : ReplyRequest) (j : Journal) : Except ServiceFailure Reply × Journal :=
  if rule.kind = "rate_limit" then
    (.ok { success := false, rateLimited := true, error := some rule.message },
      j.log (r.entry .rateLimited (some rule.message) none))
  else
    let j := j.log (r.entry .failed (some rule.message) none)
    if rule.kind = "timeout" then (.error ⟨rule.message, "timeout"⟩, j)
    else (.ok { success := false, error := some rule.message }, j)

/-- What is said when the limit is reached. -/
def limitReached : String := "rate limit exceeded"

/-- The answer to a request that is granted. -/
def reply (r : ReplyRequest) : Reply :=
  let text := compose r
  { success := true, text := some text, usage := some (usageOf r text) }

/-- The answer to a request that is refused. -/
def refusal : Reply := { success := false, rateLimited := true, error := some limitReached }

/-- Why there is no answer at a moment that has no distance to one at which a reply was granted. -/
def incomparable : ServiceFailure :=
  ⟨"can't subtract offset-naive and offset-aware datetimes", "incomparable"⟩

/-- How many replies a request leaves to its recipient in an hour. -/
def perHour (s : ReplySimulator) (r : ReplyRequest) : Int := limitOr r.perHour s.limit.perHour

/-- How many replies a request leaves to its recipient in a day. -/
def perDay (s : ReplySimulator) (r : ReplyRequest) : Int := limitOr r.perDay s.limit.perDay

/-- Answers a request that a rule may intercept. -/
def answer (s : ReplySimulator) (fault : Option FaultRule) (now : Moment) (r : ReplyRequest)
    (j : Journal) : Except ServiceFailure Reply × Journal :=
  match fault with
  | some rule => fail rule r j
  | none =>
    let before := j.granted (usageKey r)
    if before.all now.comparable then
      let (allowed, granted) := grant (s.perHour r) (s.perDay r) now before
      let j := { j with usage := j.usage.put (usageKey r) granted }
      if allowed then
        let reply := reply r
        (.ok reply, j.log (r.entry .success none (some [("response_text", .ofText? reply.text)])))
      else (.ok refusal, j.log (r.entry .rateLimited (some limitReached) none))
    else (.error incomparable, j)

/-- Writes a reply. -/
def generate (s : ReplySimulator) (now : Moment) (r : ReplyRequest) (j : Journal) :
    Except ServiceFailure Reply × Journal :=
  s.answer (s.rules.rule? s.draw "ai" "generate") now r j

end ReplySimulator

/-! ### Calls -/

/-- The simulated service that makes calls. -/
structure CallSimulator where
  rules : FaultRules := []
  /-- What is drawn to decide whether a rule applies. Unless it is said, no rule applies by chance. -/
  draw : Float := 1.0
  /-- What comes back, by address. -/
  responses : Dict CallResponse := []

namespace CallSimulator

/-- What comes back from an address. -/
def responseOf (s : CallSimulator) (url : String) : CallResponse :=
  (s.responses.get? url).getD { status := 200, body := .dict [("ok", .bool true)] }

/-- Makes a call. -/
def call (s : CallSimulator) (r : CallRequest) (j : Journal) :
    Except ServiceFailure CallResponse × Journal :=
  match s.rules.rule? s.draw "http" (Text.upper r.method) with
  | some rule =>
    let j := j.log (r.entry .failed (some rule.message) none)
    if rule.kind = "timeout" then (.error ⟨rule.message, "timeout"⟩, j)
    else (.ok { status := rule.status, body := .dict [("error", .str rule.message)] }, j)
  | none =>
    let response := s.responseOf r.url
    (.ok response, j.log (r.entry .success none (some response.fields)))

end CallSimulator

end Parley
