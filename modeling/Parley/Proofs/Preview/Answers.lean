import Parley.Proofs.Preview.Lines
import Parley.Proofs.Run.Asked

/-!
# Questions and answers in a preview

A step may ask the user of a preview for an answer. The question stays open until the user sends a message,
which is taken for the answer, or until another step asks for something else. In between buttons may be
pressed, events may happen and the graph may be changed, and all of that may start further runs.

What a user does, and what is done to the graph meanwhile, is a `Parley.Session.Move`. A move starts at most one
run (`Parley.Session.start?`), and apart from an answer that is saved this run is all that a move does to a
preview besides showing something (`Parley.Session.move_cases`). What is asked for after a run is known from
the steps that it performs (`Parley.Walker.Asks.executeAll`), which gives the protocol of questions and answers
(`Parley.Session.asks_and_answers`).
-/

namespace Parley.Session

variable {σ : Type} {s s' s'' : Session} {w w' : σ}

/-! ### What is only shown -/

/-- Something is shown in a session, and nothing else is done to it. -/
def Shows (s s' : Session) : Prop := ∃ transcript pauses, s' = { s with transcript, pauses }

namespace Shows

theorem refl (s : Session) : Shows s s := ⟨_, _, rfl⟩

theorem trans (first : Shows s s') (second : Shows s' s'') : Shows s s'' := by
  obtain ⟨_, _, rfl⟩ := first
  obtain ⟨transcript, pauses, rfl⟩ := second
  exact ⟨transcript, pauses, rfl⟩

end Shows

theorem shows_append (s : Session) (line : Entry) : Shows s (s.append line) := ⟨_, _, rfl⟩

theorem shows_emit (s : Session) (times : Nat → Moment) (e : Effect) : Shows s (s.emit times e) := by
  unfold emit
  split
  · exact ⟨_, _, rfl⟩
  · exact shows_append s _

theorem shows_emits (s : Session) (times : Nat → Moment) (effects : List Effect) :
    Shows s (effects.foldl (fun s e => s.emit times e) s) := by
  induction effects generalizing s with
  | nil => exact .refl s
  | cons e rest ih => exact (shows_emit s times e).trans (ih (s.emit times e))

/-! ### What runs leave in a session -/

/-- The session with some more stretches that were run. -/
def noting (s : Session) (results : List RunResult) : Session :=
  { s with results := s.results ++ results, awaiting := results.foldl noted s.awaiting }

/-- Showing first or noting first comes to the same. -/
theorem Shows.noting (shows : Shows s s') (results : List RunResult) :
    Shows (s.noting results) (s'.noting results) := by
  obtain ⟨transcript, pauses, rfl⟩ := shows
  exact ⟨transcript, pauses, rfl⟩

theorem noting_nil (s : Session) : s.noting [] = s := by
  rw [Session.noting, List.append_nil]
  rfl

theorem noting_cons (s : Session) (result : RunResult) (rest : List RunResult) :
    (s.noting [result]).noting rest = s.noting (result :: rest) := by
  simp only [Session.noting, List.append_assoc, List.singleton_append, List.foldl_cons, List.foldl_nil]

theorem shows_waitOut (s : Session) (times : Nat → Moment) (delay : Suspension) : Shows s (s.waitOut times delay) :=
  (show Shows s (s.pause _) from ⟨_, _, rfl⟩).trans (shows_emit _ times _)

/-- **A stretch that is shown** is noted with the field that it asks for. -/
theorem shows_showStretch (s : Session) (times : Nat → Moment) (result : RunResult) :
    Shows (s.noting [result]) (s.showStretch times result) := by
  obtain ⟨transcript, pauses, shown⟩ :=
    shows_emits { s with results := s.results ++ [result] } times result.effects
  have noted_one : s.noting [result] =
      { s with results := s.results ++ [result], awaiting := (named result.awaiting).or s.awaiting } := rfl
  have waits {after : Session} (field : Shows (s.noting [result]) after) (delay : Suspension) :
      Shows (s.noting [result]) (after.waitOut times delay) := field.trans (shows_waitOut after times delay)
  unfold showStretch
  rw [shown]
  -- the field is noted after the effects are shown, and before the delay is waited for
  cases asked : result.awaiting with
  | none =>
    have field : Shows (s.noting [result]) { s with results := s.results ++ [result], transcript, pauses } :=
      ⟨transcript, pauses, by rw [noted_one, asked]; rfl⟩
    dsimp only
    split
    · exact waits field _
    · exact field
  | some name =>
    have field : Shows (s.noting [result])
        (if name = "" then { s with results := s.results ++ [result], transcript, pauses }
          else { s with results := s.results ++ [result], transcript, pauses, awaiting := some name }) := by
      refine ⟨transcript, pauses, ?_⟩
      rw [noted_one, asked]
      by_cases blank : name = ""
      · subst blank
        rfl
      · simp [named, Option.filter, blank]
    dsimp only
    split
    · exact waits field _
    · exact field

theorem shows_stretches (s : Session) (times : Nat → Moment) (results : List RunResult) :
    Shows (s.noting results) (results.foldl (fun s result => s.showStretch times result) s) := by
  induction results generalizing s with
  | nil =>
    rw [noting_nil]
    exact .refl s
  | cons result rest ih =>
    rw [← noting_cons]
    exact ((shows_showStretch s times result).noting rest).trans (ih (s.showStretch times result))

/-! ### Moves and the runs that they start -/

/-- What happens to a preview: what a user does, and what is done to its graph meanwhile. -/
inductive Move where
  | send (text : String)
  | click (entry : String) (index : Int)
  | fire (integration event : String) (payload : Fields)
  /-- The graph is changed, if the change succeeds. -/
  | edit (change : Edit)
  /-- Another graph takes the place of the graph. -/
  | swap (graph : Graph)

/-- Makes a move. -/
def move (s : Session) (k : Stage σ) (everyStep : Bool) (m : Move) (w : σ) :
    Except PreviewError (Session × σ) :=
  match m with
  | .send text => s.send k everyStep text w
  | .click entry index => s.click k everyStep entry index w
  | .fire integration event payload => s.fire k integration event payload w
  | .edit change => .ok ({ s with graph := s.graph.edits [change] }, w)
  | .swap graph => .ok ({ s with graph }, w)

/-- Makes one move after the other, each by its clock. A move that is refused changes nothing. -/
def moves (s : Session) (k : Stage σ) (everyStep : Bool) (history : List (Clock × Move)) (w : σ) :
    Session × σ :=
  history.foldl (fun at_ happens =>
    match at_.1.move { k with clock := happens.1 } everyStep happens.2 at_.2 with
    | .ok after => after
    | .error _ => at_) (s, w)

/-- What a run starts with. -/
structure Start where
  entries : List String
  message : String
  context : Context

/-- The run that a message starts, unless it is an answer. -/
def startOf? (s : Session) (everyStep : Bool) (text : String) : Option Start :=
  let m := s.graph.matchMessage everyStep text
  if m.triggered then some ⟨m.entries, text, s.knownContext⟩ else none

/-- The run that a move starts, if it starts one. -/
def start? (s : Session) (everyStep : Bool) : Move → Option Start
  | .send text =>
    if Text.trim text = "" ∨ s.awaiting.isSome then none else s.startOf? everyStep (Text.trim text)
  | .click entry index =>
    match s.button? entry index with
    | .error _ => none
    | .ok (e, index, b) =>
      match b.kind with
      | .automation =>
        match s.target? e index with
        | some target => some ⟨[target], b.text, s.knownContext⟩
        | none => s.startOf? everyStep b.text
      | _ => none
  | .fire integration event payload =>
    match Integration.eventValues? integration event payload with
    | none => none
    | some values =>
      let m := s.graph.matchEvent integration event
      if m.triggered then some ⟨m.entries, "", s.knownContext.withValues values⟩ else none
  | .edit _ => none
  | .swap _ => none

/-- The run of a start: its stretches, what it leaves behind and the steps that it performs. Without a start
nothing is run. -/
def runOf (s : Session) (k : Stage σ) (start : Option Start) (w : σ) : List RunResult × σ × List Step :=
  match start with
  | none => ([], w, [])
  | some start =>
    k.walker.watched.executeAll s.graph.snapshot start.entries start.message start.context s.automation
      (w, [])

/-- What is asked for after a run is what the last of its steps asks for that asks for something. -/
theorem noted_runOf (s : Session) (k : Stage σ) (start : Option Start) (w : σ) (before : Option String) :
    (s.runOf k start w).1.foldl noted before = (lastAsked (s.runOf k start w).2.2).or before := by
  cases start with
  | none => rfl
  | some start =>
    have asks := k.services.asks k.clock.step k.maxSteps
    exact asks.executeAll start.entries start.message start.context s.automation w before

/-- A session that plays a run shows its stretches. -/
theorem play_eq (s : Session) (k : Stage σ) (start : Start) (w : σ) :
    s.play k start.entries start.message start.context w =
      ((s.runOf k start w).1.foldl (fun s result => s.showStretch k.clock.line result) s,
        (s.runOf k start w).2.1) := by
  have same := k.walker.watched_over.executeAll s.graph.snapshot start.entries start.message start.context
    s.automation (w, [])
  unfold play
  rw [same]
  rfl

/-! ### What a move does -/

/-- **A move that is no answer** notes the run that it starts, and shows something. -/
def Plays (s : Session) (k : Stage σ) (start : Option Start) (w : σ) (after : Session × σ) : Prop :=
  Shows (s.noting (s.runOf k start w).1) after.1 ∧ after.2 = (s.runOf k start w).2.1

theorem plays_none (shows : Shows s s') (k : Stage σ) (w : σ) : Plays s k none w (s', w) :=
  ⟨by rw [runOf, noting_nil]; exact shows, rfl⟩

/-- What was shown before a run does not matter to it. -/
theorem plays_some (shows : Shows s s') (k : Stage σ) (start : Start) (w : σ) :
    Plays s k start w (s'.play k start.entries start.message start.context w) := by
  have same : s'.runOf k start w = s.runOf k start w := by
    obtain ⟨_, _, rfl⟩ := shows
    rfl
  rw [play_eq, same]
  exact ⟨(shows.noting _).trans (shows_stretches s' k.clock.line _), rfl⟩

theorem plays_receive (shows : Shows s s') (k : Stage σ) (everyStep : Bool) (text : String) (w : σ) :
    Plays s k (s.startOf? everyStep text) w (s'.receive k everyStep text w) := by
  have same : s'.graph = s.graph ∧ s'.knownContext = s.knownContext := by
    obtain ⟨_, _, rfl⟩ := shows
    exact ⟨rfl, rfl⟩
  unfold receive startOf?
  rw [same.1, same.2]
  dsimp only
  split
  · exact plays_some shows k ⟨_, text, s.knownContext⟩ w
  · exact plays_none (shows.trans (shows_emit s' k.clock.line _)) k w

/-- The effect that tells of an answer. -/
def savedNotice (field : String) : Effect := { kind := .status, text := "📝 Saved answer for " ++ field }

/-- **An answer** is saved, and nothing else happens than that two lines say so. -/
theorem send_answer {field text : String} (asked : s.awaiting = some field) (some_text : Text.trim text ≠ "")
    (k : Stage σ) (everyStep : Bool) (w : σ) :
    ∃ s', s.send k everyStep text w = .ok (s', w) ∧
      Shows { s with collected := s.collected.put field (Text.trim text), awaiting := none } s' ∧
      Adds s s' [userLine (k.now s) (Text.trim text) [],
        lineOf (k.clock.line (s.transcript.length + 1)) (savedNotice field)] := by
  let line := userLine (k.now s) (Text.trim text) []
  let kept : Session :=
    { s.append line with collected := s.collected.put field (Text.trim text), awaiting := none }
  have asked' : (s.append line).awaiting = some field := asked
  refine ⟨kept.tell k.clock.line (savedNotice field).text, ?_, ?_, ?_⟩
  · unfold send
    dsimp only
    rw [if_neg some_text, asked']
    rfl
  · exact (show Shows _ kept from ⟨_, _, rfl⟩).trans (shows_emit kept k.clock.line _)
  · have said : AddsEffects k.clock.line (s.append line) (kept.tell k.clock.line (savedNotice field).text) [_] :=
      adds_emit kept k.clock.line (savedNotice field)
    exact said.after_line

/-- A message that is no answer is received like any other. -/
theorem send_plays {k : Stage σ} {everyStep : Bool} {text : String} {after : Session × σ}
    (idle : s.awaiting = none) (done : s.send k everyStep text w = .ok after) :
    Plays s k (s.start? everyStep (.send text)) w after := by
  let asked := s.append (userLine (k.now s) (Text.trim text) [])
  have idle' : asked.awaiting = none := idle
  simp only [send] at done
  split at done
  · cases done
  · rename_i some_text
    rw [idle'] at done
    rw [start?, if_neg (by simp [some_text, idle]), ← Except.ok.inj done]
    exact plays_receive (shows_append s _) k everyStep _ w

theorem click_plays {k : Stage σ} {everyStep : Bool} {entry : String} {index : Int} {after : Session × σ}
    (done : s.click k everyStep entry index w = .ok after) :
    Plays s k (s.start? everyStep (.click entry index)) w after := by
  cases found : s.button? entry index with
  | error e =>
    rw [click, found] at done
    cases done
  | ok there =>
    obtain ⟨e, place, b⟩ := there
    let pressed := s.append (userLine (k.now s) b.text [("button", .int place), ("source_entry", .str entry)])
    have same : pressed.target? e place = s.target? e place := rfl
    rw [click, found] at done
    simp only [start?, found]
    dsimp only at done
    cases kind : b.kind with
    | automation =>
      rw [kind] at done
      dsimp only at done ⊢
      rw [same] at done
      cases leads : s.target? e place with
      | some target =>
        rw [leads] at done
        rw [← Except.ok.inj done]
        exact plays_some (shows_append s _) k ⟨[target], b.text, s.knownContext⟩ w
      | none =>
        rw [leads] at done
        rw [← Except.ok.inj done]
        exact plays_receive (shows_append s _) k everyStep _ w
    | link =>
      rw [kind] at done
      rw [← Except.ok.inj done]
      exact plays_none (.refl s) k w
    | phone =>
      rw [kind] at done
      rw [← Except.ok.inj done]
      exact plays_none (.refl s) k w

theorem fire_plays {k : Stage σ} {everyStep : Bool} {integration event : String} {payload : Fields}
    {after : Session × σ} (done : s.fire k integration event payload w = .ok after) :
    Plays s k (s.start? everyStep (.fire integration event payload)) w after := by
  cases known : Integration.eventValues? integration event payload with
  | none =>
    rw [fire, known] at done
    cases done
  | some values =>
    rw [fire, known] at done
    simp only [start?, known]
    by_cases triggered : (s.graph.matchEvent integration event).triggered = true
    · have played : after = _ := Except.ok.inj (done.symm.trans (if_pos triggered))
      rw [played, if_pos triggered]
      exact plays_some (shows_append s _) k ⟨_, "", s.knownContext.withValues values⟩ w
    · have told : after = _ := Except.ok.inj (done.symm.trans (if_neg triggered))
      rw [told, if_neg triggered]
      exact plays_none ((shows_append s _).trans (shows_emit _ k.clock.line _)) k w

/-- Whether a move answers the question that is open. -/
def Answers (s : Session) (m : Move) : Prop := ∃ text field, m = .send text ∧ s.awaiting = some field

/-- A message that is taken for an answer leaves the world alone. -/
theorem shows_of_answer {k : Stage σ} {everyStep : Bool} {text field : String} {after : Session × σ}
    (asked : s.awaiting = some field) (done : s.send k everyStep text w = .ok after) :
    Shows { s with collected := s.collected.put field (Text.trim text), awaiting := none } after.1 ∧
      after.2 = w := by
  by_cases blank : Text.trim text = ""
  · rw [send] at done
    cases (if_pos blank).symm.trans done
  · obtain ⟨s', same, shows, -⟩ := send_answer asked blank k everyStep w
    rw [same] at done
    rw [← Except.ok.inj done]
    exact ⟨shows, rfl⟩

/-- **Every move** puts another graph in place, or is an answer, or does no more than the run that it starts. -/
theorem move_cases {k : Stage σ} {everyStep : Bool} {m : Move} {after : Session × σ}
    (done : s.move k everyStep m w = .ok after) :
    (∃ graph, after = ({ s with graph }, w) ∧ s.start? everyStep m = none) ∨ s.Answers m ∨
      Plays s k (s.start? everyStep m) w after := by
  cases m with
  | send text =>
    cases asked : s.awaiting with
    | some field => exact .inr (.inl ⟨text, field, rfl, asked⟩)
    | none => exact .inr (.inr (send_plays asked done))
  | click entry index => exact .inr (.inr (click_plays done))
  | fire integration event payload => exact .inr (.inr (fire_plays done))
  | edit change => exact .inl ⟨_, (Except.ok.inj done).symm, rfl⟩
  | swap graph => exact .inl ⟨_, (Except.ok.inj done).symm, rfl⟩

/-- The graph of a preview after a move that is not refused. -/
def Move.graphAfter (m : Move) (g : Graph) : Graph :=
  match m with
  | .edit change => g.edits [change]
  | .swap graph => graph
  | _ => g

/-- **What a user does leaves the graph of a preview alone**, and nothing makes it one of another automation. -/
theorem move_keeps {k : Stage σ} {everyStep : Bool} {m : Move} {after : Session × σ}
    (done : s.move k everyStep m w = .ok after) :
    after.1.graph = m.graphAfter s.graph ∧ after.1.automation = s.automation := by
  have plays {start : Option Start} (played : Plays s k start w after) :
      after.1.graph = s.graph ∧ after.1.automation = s.automation := by
    obtain ⟨⟨_, _, shown⟩, -⟩ := played
    rw [shown]
    exact ⟨rfl, rfl⟩
  cases m with
  | send text =>
    cases asked : s.awaiting with
    | none => exact plays (send_plays asked done)
    | some field =>
      obtain ⟨⟨_, _, shown⟩, -⟩ := shows_of_answer asked done
      rw [shown]
      exact ⟨rfl, rfl⟩
  | click entry index => exact plays (click_plays done)
  | fire integration event payload =>
    have played : Plays s k (s.start? everyStep (.fire integration event payload)) w after := fire_plays done
    exact plays played
  | edit change =>
    rw [← Except.ok.inj done]
    exact ⟨rfl, rfl⟩
  | swap graph =>
    rw [← Except.ok.inj done]
    exact ⟨rfl, rfl⟩

/-- **What a move does to the world** is what the run does to it that the move starts. -/
theorem world_of_move {k : Stage σ} {everyStep : Bool} {m : Move} {after : Session × σ}
    (done : s.move k everyStep m w = .ok after) : after.2 = (s.runOf k (s.start? everyStep m) w).2.1 := by
  rcases move_cases done with ⟨graph, rfl, nothing⟩ | ⟨text, field, rfl, asked⟩ | ⟨-, world⟩
  · rw [nothing]
    rfl
  · have nothing : s.start? everyStep (.send text) = none := if_pos (.inr (by rw [asked]; rfl))
    rw [nothing]
    exact (shows_of_answer asked done).2
  · exact world

/-- A move that is no answer leaves the answers alone, and what is asked for after it is known from the steps
of its run. -/
theorem move_of_not_answers {k : Stage σ} {everyStep : Bool} {m : Move} {after : Session × σ}
    (done : s.move k everyStep m w = .ok after) (other : ¬s.Answers m) :
    let run := s.runOf k (s.start? everyStep m) w
    after.1.collected = s.collected ∧ after.1.results = s.results ++ run.1 ∧ after.2 = run.2.1 ∧
      after.1.awaiting = (lastAsked run.2.2).or s.awaiting := by
  rcases move_cases done with ⟨graph, rfl, nothing⟩ | answers | ⟨⟨transcript, pauses, shown⟩, world⟩
  · rw [nothing]
    exact ⟨rfl, (List.append_nil _).symm, rfl, rfl⟩
  · exact absurd answers other
  · rw [shown]
    exact ⟨rfl, rfl, world, s.noted_runOf k _ w s.awaiting⟩

/-! ### Fields have names -/

/-- A field that the steps of a run ask for has a name. -/
theorem lastAsked_or_ne_blank (steps : List Step) {field : Option String} (named' : field ≠ some "") :
    (lastAsked steps).or field ≠ some "" := by
  have same : named field = field := by
    cases field with
    | none => rfl
    | some name =>
      have other : name ≠ "" := fun blank => named' (congrArg some blank)
      simp [named, Option.filter, other]
  rw [← same, ← named_or_lastAsked]
  exact named_ne_blank _

theorem move_ne_blank {k : Stage σ} {everyStep : Bool} {m : Move} {after : Session × σ}
    (done : s.move k everyStep m w = .ok after) (before : s.awaiting ≠ some "") :
    after.1.awaiting ≠ some "" := by
  by_cases answers : s.Answers m
  · obtain ⟨text, field, rfl, asked⟩ := answers
    obtain ⟨⟨_, _, shown⟩, -⟩ := shows_of_answer asked done
    rw [shown]
    exact nofun
  · rw [(move_of_not_answers done answers).2.2.2]
    exact lastAsked_or_ne_blank _ before

theorem moves_ne_blank (k : Stage σ) (everyStep : Bool) (history : List (Clock × Move))
    (before : s.awaiting ≠ some "") : (s.moves k everyStep history w).1.awaiting ≠ some "" := by
  unfold moves
  induction history generalizing s w with
  | nil => exact before
  | cons happens rest ih =>
    rw [List.foldl_cons]
    cases done : s.move { k with clock := happens.1 } everyStep happens.2 w with
    | error e => exact ih before
    | ok after => exact ih (move_ne_blank done before)

/-! ### The protocol -/

/-- **Questions and answers.** In a preview that has begun and in which moves of all kinds were made, a message
that is blank is refused. Any other message that is sent while a field is asked for is saved as the answer
for it, without the space around it; two lines are added, that of the user and one that says so, the question is
closed, nothing is run and the services are left alone.

A move that is no answer leaves the answers as they are. It runs what it starts, and what is asked for after
it is the field of the last step of this run that asks for one, in whatever stretch it was performed, or what
was asked for before if there is none. The clock may go on from step to step and from line to line. -/
theorem asks_and_answers (k : Stage σ) (everyStep : Bool) (graph : Graph) (context : Context)
    (automation : String) (latency longestDelay : Float) (stem : String) (begun : Moment)
    (history : List (Clock × Move)) (w₀ : σ) :
    let begins := ({ graph, context, automation, latency, longestDelay, stem } : Session).greet begun
    let s := (begins.moves k everyStep history w₀).1
    let w := (begins.moves k everyStep history w₀).2
    s.awaiting ≠ some "" ∧ ∀ clock,
      let k := { k with clock }
      (∀ text, Text.trim text = "" → s.move k everyStep (.send text) w = .error .emptyMessage) ∧
      (∀ text field, s.awaiting = some field → Text.trim text ≠ "" →
        ∃ s', s.move k everyStep (.send text) w = .ok (s', w) ∧
          s'.collected = s.collected.put field (Text.trim text) ∧ s'.awaiting = none ∧
          Adds s s' [userLine (clock.line s.transcript.length) (Text.trim text) [],
            lineOf (clock.line (s.transcript.length + 1)) (savedNotice field)] ∧
          s'.results = s.results ∧ s'.graph = s.graph) ∧
      ∀ m s' w', s.move k everyStep m w = .ok (s', w') → ¬s.Answers m →
        let run := s.runOf k (s.start? everyStep m) w
        s'.collected = s.collected ∧ s'.results = s.results ++ run.1 ∧ w' = run.2.1 ∧
          s'.awaiting = (lastAsked run.2.2).or s.awaiting := by
  intro begins s w
  refine ⟨moves_ne_blank k everyStep history nofun, fun clock => ⟨?blank, ?answer, ?other⟩⟩
  case blank =>
    intro text blank
    exact if_pos blank
  case answer =>
    intro text field asked some_text
    obtain ⟨s', sent, ⟨transcript, pauses, rfl⟩, lines⟩ :=
      send_answer asked some_text { k with clock } everyStep w
    exact ⟨_, sent, rfl, rfl, lines, rfl, rfl⟩
  case other =>
    intro m s' w' done other
    exact move_of_not_answers done other

/-- A graph that asks for a name. -/
def questionnaire : Graph :=
  { table := [("in", { id := "in", body := .trigger {} }),
      ("ask", { id := "ask", body := .input { field := some "name" } })]
    edges := [⟨"in", "ask", none, none⟩] }

/-- A greeting is followed by the question for a name, and a name is its answer. -/
theorem asks_and_answers_questionnaire :
    let k : Stage Nat := { services := {}, clock := .counting }
    let begins := ({ graph := questionnaire } : Session).greet (k.clock.line 0)
    let s := (begins.moves k false [(k.clock, .send "hi")] 0).1
    let w := (begins.moves k false [(k.clock, .send "hi")] 0).2
    begins.start? false (.send "hi") = some ⟨["ask"], "hi", begins.knownContext⟩ ∧
    ¬begins.Answers (.send "hi") ∧ s.awaiting = some "name" ∧ Text.trim " Ann " ≠ "" ∧
    ∃ s', s.move k false (.send " Ann ") w = .ok (s', w) ∧ s'.collected = [("name", "Ann")] ∧
      s'.awaiting = none := by
  intro k begins s w
  have starts : begins.start? false (.send "hi") = some ⟨["ask"], "hi", begins.knownContext⟩ := rfl
  have asks : lastAsked (begins.runOf k (begins.start? false (.send "hi")) 0).2.2 = some "name" := by
    rw [starts]
    decide +kernel
  have no_answer : ¬begins.Answers (.send "hi") := by
    rintro ⟨_, _, -, asked⟩
    cases asked
  obtain ⟨⟨s₁, w₁⟩, done⟩ : ∃ after, begins.move k false (.send "hi") 0 = .ok after := ⟨_, rfl⟩
  have after : begins.moves k false [(k.clock, .send "hi")] 0 = (s₁, w₁) := by
    rw [moves, List.foldl_cons, List.foldl_nil]
    dsimp only
    rw [done]
  have holds := fun history => asks_and_answers k false questionnaire { recipient := "preview_user" }
    "preview_automation" 0.0 5.0 "" (k.clock.line 0) history 0
  obtain ⟨collected, -, -, awaiting⟩ := ((holds []).2 k.clock).2.2 (.send "hi") s₁ w₁ done no_answer
  have asked : s.awaiting = some "name" := by
    have same : s = s₁ := congrArg Prod.fst after
    rw [same, awaiting]
    exact congrArg (Option.or · none) asks
  have some_text : Text.trim " Ann " ≠ "" := by decide +kernel
  obtain ⟨s', sent, answers, closed, -⟩ :=
    ((holds [(k.clock, .send "hi")]).2 k.clock).2.1 " Ann " "name" asked some_text
  refine ⟨starts, no_answer, asked, some_text, s', sent, ?_, closed⟩
  have trimmed : Text.trim " Ann " = "Ann" := by decide +kernel
  have none_yet : (begins.moves k false [(k.clock, .send "hi")] 0).1.collected = [] := by
    rw [after]
    exact collected
  rw [answers, none_yet, trimmed]
  rfl

end Parley.Session
