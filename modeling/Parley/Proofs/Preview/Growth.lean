import Parley.Preview.Held
import Parley.Proofs.Preview.Answers
import Parley.Proofs.Preview.Notices

/-!
# Transcripts only grow

One who shows a preview to its user appends whatever an operation hands back to what is shown already, and has the
whole transcript in this way (`Parley.Session.transcript_grows`). For this an operation may neither touch the lines
that are there nor hand back more or less than it adds, and one that is refused may not add any.

Work on a preview that is held is compared with the operation that makes a new preview: the tests come before the
first write, so it is done whole or refused with nothing written (`Parley.OnPreview.wholeOrNot`). What an operation
adds is known from there. It begins with a line of the user, or with the notice that there was an event, and all that
follows are lines of effects, whatever is run and however often it waits (`Parley.Session.Tells`). The buttons of
these lines are those of the graph.
-/

namespace Parley

variable {σ : Type}

/-! ### Done whole or refused -/

namespace OnPreview

variable {α β : Type} {s : Session} {w : σ} {k : Stage σ} {everyStep : Bool}

/-- The end of work that is done whole or refused. If it is done, it hands back the lines that have come to the end
of the transcript. -/
def wholeOrNot (s : Session) (w : σ) :
    Except PreviewError (Session × σ) → EStateM.Result PreviewError (Session × σ) (List Entry)
  | .ok after => .ok (after.1.transcript.drop s.transcript.length) after
  | .error e => .error e (s, w)

theorem bind_of_ok {x : OnPreview σ α} {f : α → OnPreview σ β} {a : α} {held left : Session × σ}
    (done : x held = .ok a left) : (x >>= f) held = f a left := by
  show EStateM.bind x f held = _
  rw [EStateM.bind, done]

theorem write_bind (change : Session → Session) (f : Unit → OnPreview σ α) :
    (write change >>= f) (s, w) = f () (change s, w) := rfl

theorem preview_bind (f : Session → OnPreview σ α) : (preview >>= f) (s, w) = f s (s, w) := rfl

/-- A test that is passed leaves nothing but its result. -/
theorem test_bind_of_ok {check : Session → Except PreviewError α} {f : α → OnPreview σ β} {a : α}
    (passed : check s = .ok a) : (test check >>= f) (s, w) = f a (s, w) :=
  bind_of_ok (by rw [test, passed])

/-- A test that refuses is the end, and nothing is written. -/
theorem test_bind_of_error {check : Session → Except PreviewError α} {f : α → OnPreview σ β} {e : PreviewError}
    (refused : check s = .error e) : (test check >>= f) (s, w) = .error e (s, w) := by
  show EStateM.bind (test check) f (s, w) = _
  rw [EStateM.bind, test, refused]

/-- Work that is not refused hands back its lines. -/
theorem lines_of_ok {work : OnPreview σ Unit} {after : Session × σ} (done : work (s, w) = .ok () after) :
    lines work (s, w) = wholeOrNot s w (.ok after) := by
  unfold lines
  rw [preview_bind, bind_of_ok done]
  rfl

theorem send_eq (text : String) : send k everyStep text (s, w) = wholeOrNot s w (s.send k everyStep text w) := by
  unfold Session.send
  dsimp only
  by_cases blank : Text.trim text = ""
  · rw [if_pos blank]
    exact test_bind_of_error (if_pos blank)
  · rw [if_neg blank]
    refine (test_bind_of_ok (if_neg blank)).trans ?_
    cases asked : (s.append (Session.userLine (k.now s) (Text.trim text) [])).awaiting with
    | some field =>
      refine lines_of_ok ?_
      rw [write_bind, preview_bind, asked]
      rfl
    | none =>
      refine lines_of_ok ?_
      rw [write_bind, preview_bind, asked]
      rfl

theorem click_eq (entry : String) (index : Int) :
    click k everyStep entry index (s, w) = wholeOrNot s w (s.click k everyStep entry index w) := by
  unfold Session.click
  cases found : s.button? entry index with
  | error e => exact test_bind_of_error found
  | ok there =>
    obtain ⟨e, place, b⟩ := there
    refine (test_bind_of_ok found).trans ?_
    dsimp only
    cases b.kind with
    | automation =>
      let pressed := s.append
        (Session.userLine (k.now s) b.text [("button", .int place), ("source_entry", .str entry)])
      cases leads : pressed.target? e place with
      | some target =>
        refine lines_of_ok ?_
        rw [write_bind, preview_bind, leads]
        rfl
      | none =>
        refine lines_of_ok ?_
        rw [write_bind, preview_bind, leads]
        rfl
    | link => exact congrArg (EStateM.Result.ok · (s, w)) List.drop_length.symm
    | phone => exact congrArg (EStateM.Result.ok · (s, w)) List.drop_length.symm

theorem fire_eq (integration event : String) (payload : Fields) :
    fire k integration event payload (s, w) = wholeOrNot s w (s.fire k integration event payload w) := by
  unfold Session.fire
  cases known : Integration.eventValues? integration event payload with
  | none => exact test_bind_of_error (by rw [known])
  | some values =>
    refine (test_bind_of_ok (a := values) (by rw [known])).trans ?_
    dsimp only
    split
    · rename_i triggered
      refine lines_of_ok ?_
      rw [write_bind, preview_bind]
      exact congrFun (if_pos triggered) _
    · rename_i ignored
      refine lines_of_ok ?_
      rw [write_bind, preview_bind]
      exact congrFun (if_neg ignored) _

end OnPreview

namespace Session

variable {s s' : Session} {w : σ} {k : Stage σ} {everyStep : Bool}

/-! ### What is told -/

/-- Nothing is shown but effects, with buttons of the graph. -/
def Tells (times : Nat → Moment) (s s' : Session) : Prop :=
  ∃ effects : List Effect, AddsEffects times s s' effects ∧ ∀ e ∈ effects, s.graph.Renders e.step e.buttons

/-- A notice that no step has given is told. -/
theorem tells_tell (s : Session) (times : Nat → Moment) (text : String) : Tells times s (s.tell times text) :=
  ⟨[{ kind := .status, text }], adds_emit s times _, fun _ mem => List.mem_singleton.mp mem ▸ Graph.renders_nil _⟩

/-- A run shows its effects, and for each delay an effect that says that it was waited for. -/
theorem tells_play (s : Session) (k : Stage σ) (entries : List String) (message : String) (context : Context)
    (w : σ) : Tells k.clock.line s (s.play k entries message context w).1 := by
  let run := k.walker.executeAll s.graph.snapshot entries message context s.automation w
  have only := k.services.only_rendered k.clock.step k.maxSteps s.graph.snapshot
  have rendered := only.executeAll entries message context s.automation w
  refine ⟨run.1.flatMap told, adds_stretches s k.clock.line run.1, fun e mem => ?_⟩
  obtain ⟨result, among, mem⟩ := List.mem_flatMap.mp mem
  rcases List.mem_append.mp mem with shown | waits
  · exact rendered result among e shown
  · obtain ⟨delay, -, rfl⟩ := Option.map_eq_some_iff.mp (Option.mem_toList.mp waits)
    exact Graph.renders_nil _

theorem tells_receive (s : Session) (k : Stage σ) (everyStep : Bool) (text : String) (w : σ) :
    Tells k.clock.line s (s.receive k everyStep text w).1 := by
  unfold receive
  dsimp only
  split
  · exact tells_play s k _ text s.knownContext w
  · exact tells_tell s k.clock.line _

/-! ### What the lines begin with -/

/-- Some lines begin with the given one. None of the others is from the user, and their buttons are those of a
graph. -/
def Begins (g : Graph) (lines : List Entry) (line : Entry) : Prop :=
  ∃ first rest, lines = first :: rest ∧ first.unnamed = line ∧
    ∀ e ∈ rest, e.fromUser = false ∧ g.Renders e.step e.buttons

/-- What is added when a line is followed by effects. -/
theorem Tells.begins {times : Nat → Moment} {line : Entry} (tells : Tells times (s.append line) s') :
    ∃ lines, s'.transcript = s.transcript ++ lines ∧ Begins s.graph lines line.unnamed := by
  obtain ⟨effects, ⟨added, transcript, unnamed⟩, rendered⟩ := tells
  refine ⟨{ line with id := s.entryId s.transcript.length } :: added, ?_, _, added, rfl, rfl, ?_⟩
  · rw [transcript, append, List.append_assoc]
    rfl
  · intro e mem
    have listed : e.unnamed ∈ linesFrom times (s.append line).transcript.length effects :=
      unnamed ▸ List.mem_map_of_mem mem
    obtain ⟨effect, among, now, same⟩ := exists_of_mem_linesFrom listed
    have step : effect.step = e.step := congrArg Entry.step same
    have buttons : effect.buttons = e.buttons := congrArg Entry.buttons same
    exact ⟨(congrArg Entry.fromUser same).symm, step ▸ buttons ▸ rendered effect among⟩

/-- The number of lines from the user depends on the first one alone. -/
theorem Begins.count {g : Graph} {lines : List Entry} {line : Entry} (begins : Begins g lines line) :
    lines.head?.map Entry.unnamed = some line ∧ lines.countP (·.fromUser) = line.fromUser.toNat := by
  obtain ⟨first, rest, rfl, rfl, others⟩ := begins
  have none_else : rest.countP (·.fromUser) = 0 :=
    List.countP_eq_zero.mpr fun e mem => by rw [(others e mem).1]; exact Bool.false_ne_true
  refine ⟨rfl, ?_⟩
  rw [List.countP_cons, none_else, Nat.zero_add]
  show (if first.fromUser = true then 1 else 0) = first.fromUser.toNat
  cases first.fromUser <;> rfl

/-- All buttons of the lines are those of the graph if the first line has none. -/
theorem Begins.rendered {g : Graph} {lines : List Entry} {line : Entry} (begins : Begins g lines line)
    (bare : line.buttons = []) : ∀ e ∈ lines, g.Renders e.step e.buttons := by
  obtain ⟨first, rest, rfl, rfl, others⟩ := begins
  rintro e (_ | ⟨_, mem⟩)
  · exact .inl bare
  · exact (others e mem).2

/-- **A message** is refused if it is blank. Otherwise it adds its line, and after it what is told. -/
theorem send_cases (s : Session) (k : Stage σ) (everyStep : Bool) (text : String) (w : σ) :
    (Text.trim text = "" ∧ s.send k everyStep text w = .error .emptyMessage) ∨
    Text.trim text ≠ "" ∧ ∃ after, s.send k everyStep text w = .ok after ∧
      ∃ lines, after.1.transcript = s.transcript ++ lines ∧
        Begins s.graph lines (userLine (k.now s) (Text.trim text) []) := by
  by_cases blank : Text.trim text = ""
  · exact .inl ⟨blank, if_pos blank⟩
  · refine .inr ⟨blank, ?_⟩
    let asked := s.append (userLine (k.now s) (Text.trim text) [])
    cases awaits : s.awaiting with
    | none =>
      have tells := tells_receive asked k everyStep (Text.trim text) w
      exact ⟨_, send_of_idle awaits blank, tells.begins⟩
    | some field =>
      obtain ⟨s', answered, -, line, transcript, unnamed⟩ := send_answer awaits blank k everyStep w
      obtain ⟨first, rest, rfl, own, others⟩ := List.map_eq_cons_iff.mp unnamed
      obtain ⟨notice, rfl, same⟩ := List.map_eq_singleton_iff.mp others
      refine ⟨_, answered, _, transcript, first, [notice], rfl, own, fun e mem => ?_⟩
      rw [List.mem_singleton.mp mem]
      exact ⟨congrArg Entry.fromUser same, .inl (congrArg Entry.buttons same)⟩

/-- **A button that is pressed** must be there. If it goes on in the automation it adds the line of its text, and
after it what is told; otherwise nothing happens. -/
theorem click_cases (s : Session) (k : Stage σ) (everyStep : Bool) (entry : String) (index : Int) (w : σ) :
    (∃ e, s.button? entry index = .error e ∧ s.click k everyStep entry index w = .error e) ∨
    ∃ e place b after, s.button? entry index = .ok (e, place, b) ∧
      s.click k everyStep entry index w = .ok after ∧
      if b.kind = .automation then
        ∃ lines, after.1.transcript = s.transcript ++ lines ∧
          Begins s.graph lines (userLine (k.now s) b.text [("button", .int place), ("source_entry", .str entry)])
      else after = (s, w) := by
  unfold click
  cases s.button? entry index with
  | error e => exact .inl ⟨e, rfl, rfl⟩
  | ok there =>
    obtain ⟨e, place, b⟩ := there
    refine .inr ⟨e, place, b, ?_⟩
    let pressed := s.append (userLine (k.now s) b.text [("button", .int place), ("source_entry", .str entry)])
    dsimp only
    cases b.kind with
    | automation =>
      cases leads : pressed.target? e place with
      | some target => exact ⟨_, rfl, rfl, (tells_play pressed k [target] b.text pressed.knownContext w).begins⟩
      | none => exact ⟨_, rfl, rfl, (tells_receive pressed k everyStep b.text w).begins⟩
    | link => exact ⟨_, rfl, rfl, rfl⟩
    | phone => exact ⟨_, rfl, rfl, rfl⟩

/-- The line of an event of an integration, with the values that come with it. -/
def eventLine (now : Moment) (integration event : String) (values : Dict String) : Entry :=
  { id := "", text := "⚡ " ++ integration ++ " event " ++ event ++ " received", kind := "status",
    metadata := [("event_variables", .ofTextDict values)], time := now }

/-- **An event** must be known. It adds its line, and after it what is told. -/
theorem fire_cases (s : Session) (k : Stage σ) (integration event : String) (payload : Fields) (w : σ) :
    (Integration.eventValues? integration event payload = none ∧
      s.fire k integration event payload w = .error (.unknownEvent integration event)) ∨
    ∃ values after, Integration.eventValues? integration event payload = some values ∧
      s.fire k integration event payload w = .ok after ∧
      ∃ lines, after.1.transcript = s.transcript ++ lines ∧
        Begins s.graph lines (eventLine (k.now s) integration event values) := by
  unfold fire
  cases Integration.eventValues? integration event payload with
  | none => exact .inl ⟨rfl, rfl⟩
  | some values =>
    refine .inr ⟨values, ?_⟩
    let happened := s.append (eventLine (k.now s) integration event values)
    let m := happened.graph.matchEvent integration event
    dsimp only
    split
    · have tells := tells_play happened k m.entries "" (happened.knownContext.withValues values) w
      exact ⟨_, rfl, rfl, tells.begins⟩
    · have tells := tells_tell happened k.clock.line noEventText
      exact ⟨_, rfl, rfl, tells.begins⟩

/-! ### Moves on a preview that is held -/

/-- Makes a move on a preview that is held. -/
def Move.inPlace (m : Move) (k : Stage σ) (everyStep : Bool) : OnPreview σ (List Entry) :=
  match m with
  | .send text => OnPreview.send k everyStep text
  | .click entry index => OnPreview.click k everyStep entry index
  | .fire integration event payload => OnPreview.fire k integration event payload
  | .edit change => do
    OnPreview.write fun s => { s with graph := s.graph.edits [change] }
    return []
  | .swap graph => do
    OnPreview.write fun s => { s with graph }
    return []

/-- **A move in place** is the move, or it is refused and nothing is written. -/
theorem Move.inPlace_eq (m : Move) :
    m.inPlace k everyStep (s, w) = OnPreview.wholeOrNot s w (s.move k everyStep m w) := by
  have unseen (graph : Graph) :
      ([] : List Entry) = ({ s with graph } : Session).transcript.drop s.transcript.length := List.drop_length.symm
  cases m with
  | send text => exact OnPreview.send_eq text
  | click entry index => exact OnPreview.click_eq entry index
  | fire integration event payload => exact OnPreview.fire_eq integration event payload
  | edit change => exact congrArg (EStateM.Result.ok · _) (unseen _)
  | swap graph => exact congrArg (EStateM.Result.ok · _) (unseen _)

/-- **What a move adds to the transcript** are lines with buttons of the graph. -/
theorem move_adds {m : Move} {after : Session × σ} (done : s.move k everyStep m w = .ok after) :
    ∃ lines, after.1.transcript = s.transcript ++ lines ∧ ∀ e ∈ lines, s.graph.Renders e.step e.buttons := by
  have nothing : ∃ lines, s.transcript = s.transcript ++ lines ∧ ∀ e ∈ lines, s.graph.Renders e.step e.buttons :=
    ⟨[], (List.append_nil _).symm, fun _ none => absurd none List.not_mem_nil⟩
  cases m with
  | send text =>
    rcases s.send_cases k everyStep text w with ⟨-, refused⟩ | ⟨-, _, made, lines, adds, begins⟩
    · cases refused.symm.trans done
    · cases made.symm.trans done
      exact ⟨lines, adds, begins.rendered rfl⟩
  | click entry index =>
    rcases s.click_cases k everyStep entry index w with ⟨e, -, refused⟩ | ⟨e, place, b, _, -, made, acts⟩
    · cases refused.symm.trans done
    · cases made.symm.trans done
      split at acts
      · obtain ⟨lines, adds, begins⟩ := acts
        exact ⟨lines, adds, begins.rendered rfl⟩
      · rw [acts]
        exact nothing
  | fire integration event payload =>
    rcases s.fire_cases k integration event payload w with
      ⟨-, refused⟩ | ⟨values, _, -, made, lines, adds, begins⟩
    · cases refused.symm.trans done
    · cases made.symm.trans done
      exact ⟨lines, adds, begins.rendered rfl⟩
  | edit change =>
    rw [← Except.ok.inj done]
    exact nothing
  | swap graph =>
    rw [← Except.ok.inj done]
    exact nothing

/-- **What a move in place hands back** is what it adds. -/
theorem transcript_inPlace {m : Move} {lines : List Entry} {after : Session × σ}
    (done : m.inPlace k everyStep (s, w) = .ok lines after) : after.1.transcript = s.transcript ++ lines := by
  rw [Move.inPlace_eq] at done
  cases made : s.move k everyStep m w with
  | error e =>
    rw [made] at done
    cases done
  | ok made_after =>
    rw [made] at done
    cases done
    obtain ⟨lines, adds, -⟩ := move_adds made
    rw [adds, List.drop_left]

/-- A move in place that is refused has written nothing. -/
theorem kept_of_refused {m : Move} {e : PreviewError} {left : Session × σ}
    (refused : m.inPlace k everyStep (s, w) = .error e left) : left = (s, w) := by
  rw [Move.inPlace_eq] at refused
  cases made : s.move k everyStep m w with
  | error e =>
    rw [made] at refused
    cases refused
    rfl
  | ok after =>
    rw [made] at refused
    cases refused

/-! ### Histories of a preview that is held -/

/-- Makes one move after the other, each by its clock, on a preview that is held: what each of them hands back, and
what is held in the end. -/
def held (s : Session) (k : Stage σ) (everyStep : Bool) :
    List (Clock × Move) → σ → List (Except PreviewError (List Entry)) × Session × σ
  | [], w => ([], s, w)
  | (clock, m) :: rest, w =>
    match m.inPlace { k with clock } everyStep (s, w) with
    | .ok lines left =>
      let later := left.1.held k everyStep rest left.2
      (.ok lines :: later.1, later.2)
    | .error e left =>
      let later := left.1.held k everyStep rest left.2
      (.error e :: later.1, later.2)

/-- The lines that are handed back, if any. -/
def handedBack : Except PreviewError (List Entry) → List Entry
  | .ok lines => lines
  | .error _ => []

theorem moves_cons (happens : Clock × Move) (rest : List (Clock × Move)) :
    s.moves k everyStep (happens :: rest) w =
      match s.move { k with clock := happens.1 } everyStep happens.2 w with
      | .ok after => after.1.moves k everyStep rest after.2
      | .error _ => s.moves k everyStep rest w := by
  rw [moves, List.foldl_cons]
  cases s.move { k with clock := happens.1 } everyStep happens.2 w <;> rfl

/-- What is held in the end is the preview after the moves, of which those that are refused change nothing. -/
theorem held_eq_moves (history : List (Clock × Move)) :
    (s.held k everyStep history w).2 = s.moves k everyStep history w := by
  induction history generalizing s w with
  | nil => rfl
  | cons happens rest ih =>
    obtain ⟨clock, m⟩ := happens
    rw [held, Move.inPlace_eq, moves_cons]
    cases s.move { k with clock } everyStep m w with
    | error e => exact ih
    | ok after => exact ih

/-- **The lines that are handed back** are all that comes to the transcript. -/
theorem transcript_held (history : List (Clock × Move)) :
    (s.held k everyStep history w).2.1.transcript =
      s.transcript ++ (s.held k everyStep history w).1.flatMap handedBack := by
  induction history generalizing s w with
  | nil => exact (List.append_nil _).symm
  | cons happens rest ih =>
    obtain ⟨clock, m⟩ := happens
    rw [held]
    cases done : m.inPlace { k with clock } everyStep (s, w) with
    | ok lines left =>
      dsimp only
      rw [ih, transcript_inPlace done, List.flatMap_cons, List.append_assoc]
      rfl
    | error e left =>
      dsimp only
      rw [ih, kept_of_refused done]
      rfl

/-! ### What a user sees -/

/-- **Transcripts only grow.** An operation on a preview that is held, or a change of its graph, leaves the lines
that are there as they are and hands back exactly those that it adds; if it is refused, the preview stays as it was,
and so do the services. So the lines handed back by a row of operations are, one after the other, all that has come
to the transcript.

Only a blank message is refused, and a button that is not there, and an event that is unknown. Of the lines that a
message adds the first is its text and no other is from the user, and so it is with a button that goes on in the
automation, whatever is run then; the other buttons add nothing. An event adds the notice that it happened, and no
line from the user. -/
theorem transcript_grows (k : Stage σ) (everyStep : Bool) (s : Session) (w : σ) :
    (∀ m : Move, match m.inPlace k everyStep (s, w) with
      | .ok lines after => after.1.transcript = s.transcript ++ lines
      | .error _ left => left = (s, w)) ∧
    (∀ text, match OnPreview.send k everyStep text (s, w) with
      | .ok lines _ => Text.trim text ≠ "" ∧
          lines.head?.map Entry.unnamed = some (userLine (k.now s) (Text.trim text) []) ∧
          lines.countP (·.fromUser) = 1
      | .error e _ => Text.trim text = "" ∧ e = .emptyMessage) ∧
    (∀ entry index, match OnPreview.click k everyStep entry index (s, w) with
      | .ok lines after => ∃ e place b, s.button? entry index = .ok (e, place, b) ∧
          if b.kind = .automation then
            lines.head?.map Entry.unnamed = some (userLine (k.now s) b.text
              [("button", .int place), ("source_entry", .str entry)]) ∧ lines.countP (·.fromUser) = 1
          else lines = [] ∧ after = (s, w)
      | .error e _ => s.button? entry index = .error e) ∧
    (∀ integration event payload, match OnPreview.fire k integration event payload (s, w) with
      | .ok lines _ => ∃ values, Integration.eventValues? integration event payload = some values ∧
          lines.head?.map Entry.unnamed = some (eventLine (k.now s) integration event values) ∧
          lines.countP (·.fromUser) = 0
      | .error e _ => Integration.eventValues? integration event payload = none ∧
          e = .unknownEvent integration event) ∧
    ∀ history, (s.held k everyStep history w).2.1.transcript =
      s.transcript ++ (s.held k everyStep history w).1.flatMap handedBack := by
  refine ⟨fun m => ?moves, fun text => ?send, fun entry index => ?click, fun integration event payload => ?fire,
    transcript_held⟩
  case moves =>
    cases done : m.inPlace k everyStep (s, w) with
    | ok lines after => exact transcript_inPlace done
    | error e left => exact kept_of_refused done
  case send =>
    rw [OnPreview.send_eq]
    rcases s.send_cases k everyStep text w with ⟨blank, refused⟩ | ⟨some_text, after, made, lines, adds, begins⟩
    · rw [refused]
      exact ⟨blank, rfl⟩
    · rw [made]
      dsimp only [OnPreview.wholeOrNot]
      rw [adds, List.drop_left]
      exact ⟨some_text, begins.count⟩
  case click =>
    rw [OnPreview.click_eq]
    rcases s.click_cases k everyStep entry index w with
      ⟨e, missing, refused⟩ | ⟨e, place, b, after, found, made, acts⟩
    · rw [refused]
      exact missing
    · rw [made]
      refine ⟨e, place, b, found, ?_⟩
      split at acts
      · rename_i goes_on
        obtain ⟨lines, adds, begins⟩ := acts
        rw [if_pos goes_on, adds, List.drop_left]
        exact begins.count
      · rename_i other
        rw [if_neg other, acts]
        exact ⟨List.drop_length, rfl⟩
  case fire =>
    rw [OnPreview.fire_eq]
    rcases s.fire_cases k integration event payload w with
      ⟨unknown, refused⟩ | ⟨values, after, known, made, lines, adds, begins⟩
    · rw [refused]
      exact ⟨unknown, rfl⟩
    · rw [made]
      dsimp only [OnPreview.wholeOrNot]
      rw [adds, List.drop_left]
      exact ⟨values, known, begins.count⟩

end Session

end Parley
