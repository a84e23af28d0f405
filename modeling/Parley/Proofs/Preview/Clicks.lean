import Parley.Proofs.Graph.Whole
import Parley.Proofs.Preview.Growth

/-!
# A button leads where it says

A button in a transcript shows the step that it leads to, as the graph had it when the line was written. When it is
pressed, the graph is asked again: not for what the button shows, but for the edge that leaves the step of the line
at the place of the button. As long as the graph is not changed the two are the same
(`Parley.Session.click_follows_shown`). This needs three things: the line has the buttons of its step in their
order (`Parley.Step.Makes.buttons_cases`), the buttons of a graph show its edges (`Parley.Graph.Whole`), and the id by
which the line is pressed is that of no other line (`Parley.Session.Numbered`).
-/

namespace Parley.Session

variable {σ : Type} {s s' : Session} {w : σ} {k : Stage σ} {everyStep : Bool} {e : Entry}

/-! ### The ids of lines -/

/-- The id of each line is that of its place. -/
def Numbered (s : Session) : Prop := ∀ place e, s.transcript[place]? = some e → e.id = s.entryId place

/-- Different places have different ids. -/
theorem entryId_injective (s : Session) : Function.Injective s.entryId := by
  intro place place' same
  have numerals : toString place = toString place' := (String.append_right_inj _).mp same
  rw [Nat.toString_eq_ofList_toDigits, Nat.toString_eq_ofList_toDigits] at numerals
  rw [← Nat.ofDigitChars_ten_toDigits (n := place), String.ofList_injective numerals,
    Nat.ofDigitChars_ten_toDigits]

namespace Numbered

theorem congr (h : s.Numbered) (transcript : s'.transcript = s.transcript) (stem : s'.stem = s.stem) :
    s'.Numbered := by
  intro place e at_place
  rw [entryId, stem]
  exact h place e (transcript ▸ at_place)

/-- **A line gets the id of its place**, and the others keep theirs. -/
theorem append (h : s.Numbered) (line : Entry) : (s.append line).Numbered := by
  intro place e at_place
  rw [Session.append, List.getElem?_append] at at_place
  split at at_place
  · exact h place e at_place
  · rename_i late
    rw [List.getElem?_singleton] at at_place
    split at at_place
    · have last : place = s.transcript.length := by omega
      rw [last, ← Option.some.inj at_place]
      rfl
    · cases at_place

theorem emit (h : s.Numbered) (times : Nat → Moment) (e : Effect) : (s.emit times e).Numbered := by
  unfold Session.emit
  split
  · exact (h.congr rfl rfl : (s.pause s.latency).Numbered).append _
  · exact h.append _

theorem showStretch (h : s.Numbered) (times : Nat → Moment) (result : RunResult) :
    (s.showStretch times result).Numbered := by
  have shown : Numbered (result.effects.foldl (fun s e => s.emit times e)
      { s with results := s.results ++ [result] }) :=
    List.foldlRecOn (motive := Numbered) _ _ (h.congr rfl rfl) fun _ shown e _ => shown.emit times e
  have waits {after : Session} (h : after.Numbered) (delay : Suspension) : (after.waitOut times delay).Numbered :=
    (h.congr rfl rfl : (after.pause _).Numbered).emit times _
  unfold Session.showStretch
  generalize result.effects.foldl (fun s e => s.emit times e) { s with results := s.results ++ [result] } = after
    at shown
  -- the field that the next message answers may be noted, which is no line
  dsimp only
  split
  · refine waits (shown.congr ?_ ?_) _
    all_goals
      repeat' split
      all_goals rfl
  · refine shown.congr ?_ ?_
    all_goals
      repeat' split
      all_goals rfl

theorem play (h : s.Numbered) (k : Stage σ) (entries : List String) (message : String) (context : Context)
    (w : σ) : (s.play k entries message context w).1.Numbered :=
  List.foldlRecOn (motive := Numbered) _ _ h fun _ shown result _ => shown.showStretch k.clock.line result

theorem receive (h : s.Numbered) (k : Stage σ) (everyStep : Bool) (text : String) (w : σ) :
    (s.receive k everyStep text w).1.Numbered := by
  unfold Session.receive
  dsimp only
  split
  · exact h.play k _ text s.knownContext w
  · exact h.emit k.clock.line _

theorem move (h : s.Numbered) {m : Move} {after : Session × σ} (done : s.move k everyStep m w = .ok after) :
    after.1.Numbered := by
  cases m with
  | send text =>
    simp only [Session.move, Session.send] at done
    split at done
    · cases done
    · split at done
      · rename_i field asked
        have saved : Numbered { s.append (userLine (k.now s) (Text.trim text) []) with
            collected := s.collected.put field (Text.trim text), awaiting := none } :=
          (h.append _).congr rfl rfl
        rw [← Except.ok.inj done]
        exact saved.emit k.clock.line _
      · rw [← Except.ok.inj done]
        exact (h.append _).receive k everyStep _ w
  | click entry index =>
    simp only [Session.move, Session.click] at done
    split at done
    · cases done
    · split at done
      · split at done
        · rw [← Except.ok.inj done]
          exact (h.append _).play k _ _ _ w
        · rw [← Except.ok.inj done]
          exact (h.append _).receive k everyStep _ w
      · rw [← Except.ok.inj done]
        exact h
  | fire integration event payload =>
    simp only [Session.move, Session.fire] at done
    split at done
    · cases done
    · split at done
      · rw [← Except.ok.inj done]
        exact (h.append _).play k _ _ _ w
      · rw [← Except.ok.inj done]
        exact (h.append _).emit k.clock.line _
  | edit change =>
    rw [← Except.ok.inj done]
    exact h.congr rfl rfl
  | swap graph =>
    rw [← Except.ok.inj done]
    exact h.congr rfl rfl

/-- **A line is found by its id.** -/
theorem entry?_eq (h : s.Numbered) (mem : e ∈ s.transcript) : s.transcript.entry? e.id = some e := by
  obtain ⟨place, here, at_place⟩ := List.mem_iff_getElem.mp mem
  refine List.find?_eq_some_iff_getElem.mpr ⟨beq_self_eq_true _, place, here, at_place, fun other before => ?_⟩
  have there := h other _ (List.getElem?_eq_getElem (before.trans here))
  have own := h place e (List.getElem?_eq_some_iff.mpr ⟨here, at_place⟩)
  rw [there, own, Bool.not_eq_true', beq_eq_false_iff_ne]
  exact fun same => absurd (s.entryId_injective same) (Nat.ne_of_lt before)

end Numbered

/-! ### Previews that were worked on -/

/-- A preview has begun, and some moves were made. -/
def Reached (k : Stage σ) (everyStep : Bool) (s : Session) (w : σ) : Prop :=
  ∃ (fresh : Session) (begun : Moment) (history : List (Clock × Move)) (w₀ : σ),
    fresh.transcript = [] ∧ (fresh.greet begun).moves k everyStep history w₀ = (s, w)

theorem Numbered.moves (h : s.Numbered) (history : List (Clock × Move)) :
    (s.moves k everyStep history w).1.Numbered := by
  induction history generalizing s w with
  | nil => exact h
  | cons happens rest ih =>
    rw [moves_cons]
    cases done : s.move { k with clock := happens.1 } everyStep happens.2 w with
    | ok after => exact ih (h.move done)
    | error e => exact ih h

theorem Reached.numbered (reached : Reached k everyStep s w) : s.Numbered := by
  obtain ⟨fresh, begun, history, w₀, blank, moved⟩ := reached
  have begins : fresh.Numbered := fun place e at_place => by
    rw [blank] at at_place
    cases at_place
  have greeted : (fresh.greet begun).Numbered := begins.append _
  have after : ((fresh.greet begun).moves k everyStep history w₀).1.Numbered := greeted.moves history
  rw [moved] at after
  exact after

/-- **Moves that do not change the graph** add lines with buttons of the graph. -/
theorem moves_adds (k : Stage σ) (everyStep : Bool) (history : List (Clock × Move))
    (quiet : ∀ happens ∈ history, happens.2.graphAfter s.graph = s.graph) (w : σ) :
    (s.moves k everyStep history w).1.graph = s.graph ∧
      ∃ lines, (s.moves k everyStep history w).1.transcript = s.transcript ++ lines ∧
        ∀ e ∈ lines, s.graph.Renders e.step e.buttons := by
  induction history generalizing s w with
  | nil => exact ⟨rfl, [], (List.append_nil _).symm, fun _ none => absurd none List.not_mem_nil⟩
  | cons happens rest ih =>
    obtain ⟨first, others⟩ := List.forall_mem_cons.mp quiet
    rw [moves_cons]
    cases done : s.move { k with clock := happens.1 } everyStep happens.2 w with
    | error e => exact ih others w
    | ok after =>
      have same : after.1.graph = s.graph := (move_keeps done).1.trans first
      obtain ⟨added, transcript, rendered⟩ := move_adds done
      obtain ⟨graph, more, transcript', rendered'⟩ := ih (s := after.1) (same ▸ others) after.2
      refine ⟨graph.trans same, added ++ more, ?_, fun e mem => ?_⟩
      · rw [transcript', transcript, List.append_assoc]
      · rcases List.mem_append.mp mem with early | late
        · exact rendered e early
        · exact same ▸ rendered' e late

/-! ### Where a button leads -/

/-- Buttons that are shown are those of a message. -/
theorem message_of_rendered {g : Graph} (whole : g.Whole) {id : String} {buttons : List Button} {b : Button}
    (rendered : g.Renders (some id) buttons) (mem : b ∈ buttons) :
    ∃ st ∈ g.steps, st.id = id ∧ st.isMessage = true ∧ st.buttons = buttons := by
  rcases rendered with rfl | ⟨key, st, found, own, rfl⟩
  · exact absurd mem List.not_mem_nil
  · refine ⟨st, (whole.step?_eq_some_iff.mp found).1, (Option.some.inj own).symm, ?_, rfl⟩
    by_contra other
    rw [Step.buttons_eq_nil (Bool.eq_false_iff.mpr other)] at mem
    exact absurd mem List.not_mem_nil

/-- **A button leads where it says**, and there is a step. -/
theorem target?_eq_connectedTo (whole : s.graph.Whole) {id : String} (named : e.step = some id) (some_id : id ≠ "")
    (rendered : s.graph.Renders e.step e.buttons) {i : Nat} {b : Button} (at_i : e.buttons[i]? = some b) :
    s.target? e i = b.connectedTo ∧ ∀ target ∈ b.connectedTo, target ∈ s.graph.ids := by
  rw [named] at rendered
  obtain ⟨st, mem, own, -, shown⟩ := message_of_rendered whole rendered (List.mem_of_getElem? at_i)
  have has : s.graph.has id = true :=
    Dict.has_iff_mem_keys.mpr (Dict.mem_keys_of_get? (whole.step?_eq_some_iff.mpr ⟨mem, own⟩))
  have leads : b.connectedTo = s.graph.next? id (some i) := own ▸ whole.mirrored st mem i b (shown ▸ at_i)
  refine ⟨?_, fun target aims => ?_⟩
  · rw [target?, named, leads]
    exact if_pos (by rw [has, bne_iff_ne.mpr some_id]; rfl)
  · obtain ⟨edge, among, -, -, rfl⟩ := Graph.exists_edge_of_next? (leads ▸ aims)
    exact (whole.joined edge among).2.1

/-! ### Pressing buttons -/

/-- The button at a place of a line. -/
theorem Numbered.button?_eq (h : s.Numbered) (mem : e ∈ s.transcript) {i : Nat} {b : Button}
    (at_i : e.buttons[i]? = some b) : s.button? e.id i = .ok (e, i, b) := by
  rw [button?, h.entry?_eq mem]
  dsimp only
  rw [if_pos (Int.natCast_nonneg i), Int.toNat_natCast, at_i]

theorem button?_of_unknown {entry : String} {index : Int} (unknown : s.transcript.entry? entry = none) :
    s.button? entry index = .error (.noEntry entry) := by
  rw [button?, unknown]

theorem button?_of_outside {entry : String} {index : Int} (found : s.transcript.entry? entry = some e)
    (outside : index < 0 ∨ e.buttons.length ≤ index) : s.button? entry index = .error (.noButton entry index) := by
  rw [button?, found]
  dsimp only
  rcases outside with before | beyond
  · rw [if_neg (by omega)]
  · rw [if_pos (by omega), List.getElem?_eq_none (by omega)]

/-- Pressing a button that leads on runs what it leads to. -/
theorem click_of_leading {entry : String} {index : Int} {place : Nat} {b : Button} {target : String}
    (pressed : s.button? entry index = .ok (e, place, b)) (goes_on : b.kind = .automation)
    (leads : s.target? e place = some target) :
    s.click k everyStep entry index w =
      .ok ((s.append (userLine (k.now s) b.text [("button", .int place), ("source_entry", .str entry)])).play k
        [target] b.text s.knownContext w) := by
  let line := userLine (k.now s) b.text [("button", .int place), ("source_entry", .str entry)]
  have leads' : (s.append line).target? e place = some target := leads
  unfold click
  rw [pressed]
  dsimp only
  rw [goes_on]
  dsimp only
  rw [leads']
  rfl

/-- The other buttons do nothing. -/
theorem click_of_outward {entry : String} {index : Int} {place : Nat} {b : Button}
    (pressed : s.button? entry index = .ok (e, place, b)) (outward : b.kind ≠ .automation) :
    s.click k everyStep entry index w = .ok (s, w) := by
  unfold click
  rw [pressed]
  dsimp only
  split
  · exact absurd ‹_› outward
  · rfl

theorem click_of_refused {entry : String} {index : Int} {error : PreviewError}
    (refused : s.button? entry index = .error error) : s.click k everyStep entry index w = .error error := by
  unfold click
  rw [refused]

/-- **A button leads where it says.** Moves of all kinds were made on a preview. At some time its graph was one that
is built by changes, and the moves made since then did not change it. Take any line that came since then, of a step
whose id is not empty, and any button of this line.

The step is a message of the graph that has these buttons. If the button goes on in the automation and shows a step,
pressing it adds the line of its text and runs the graph from this step for the text; if it shows none, its text is
received after the line as a message is that is no answer. Buttons of the other kinds do nothing, and an id that is
of no line or a place where the line has no button is refused; then and there nothing changes. -/
theorem click_follows_shown (k : Stage σ) (everyStep : Bool) {s₀ : Session} {w₀ : σ}
    (reached : Reached k everyStep s₀ w₀) {changes : List Edit} (built : s₀.graph = Graph.edits {} changes)
    (recent : List (Clock × Move)) (quiet : ∀ happens ∈ recent, happens.2.graphAfter s₀.graph = s₀.graph)
    (clock : Clock) :
    let k' := { k with clock }
    let s := (s₀.moves k everyStep recent w₀).1
    let w := (s₀.moves k everyStep recent w₀).2
    (∀ e ∈ s.transcript.drop s₀.transcript.length, ∀ id, e.step = some id → id ≠ "" → ∀ (i : Nat) b,
      e.buttons[i]? = some b → b.kind = .automation →
      let pressed := s.append (userLine (k'.now s) b.text [("button", .int i), ("source_entry", .str e.id)])
      (∃ st ∈ s.graph.steps, st.id = id ∧ st.isMessage = true ∧ st.buttons = e.buttons) ∧
      (∀ target, b.connectedTo = some target →
        let run := k'.walker.executeAll s.graph.snapshot [target] b.text s.knownContext s.automation w
        target ∈ s.graph.ids ∧
        s.click k' everyStep e.id i w =
          .ok (run.1.foldl (fun s result => s.showStretch clock.line result) pressed, run.2)) ∧
      (b.connectedTo = none →
        s.click k' everyStep e.id i w = .ok (pressed.receive k' everyStep b.text w) ∧
        (s.awaiting = none → Text.trim b.text = b.text → b.text ≠ "" →
          s.send k' everyStep b.text w =
            .ok ((s.append (userLine (k'.now s) b.text [])).receive k' everyStep b.text w)))) ∧
    (∀ e ∈ s.transcript, ∀ (i : Nat) b, e.buttons[i]? = some b → b.kind ≠ .automation →
      OnPreview.click k' everyStep e.id i (s, w) = .ok [] (s, w)) ∧
    (∀ entry index, s.transcript.entry? entry = none →
      OnPreview.click k' everyStep entry index (s, w) = .error (.noEntry entry) (s, w)) ∧
    (∀ e ∈ s.transcript, ∀ index : Int, index < 0 ∨ e.buttons.length ≤ index →
      OnPreview.click k' everyStep e.id index (s, w) = .error (.noButton e.id index) (s, w)) := by
  intro k' s w
  obtain ⟨graph, lines, transcript, rendered⟩ := moves_adds k everyStep recent quiet w₀
  have numbered : s.Numbered := reached.numbered.moves recent
  have whole : s.graph.Whole := graph.trans built ▸ Graph.Whole.empty.edits changes
  refine ⟨?automation, ?outward, ?unknown, ?outside⟩
  case automation =>
    intro e since id named some_id i b at_i goes_on pressed
    have mem : e ∈ s.transcript := List.mem_of_mem_drop since
    have own : s.graph.Renders e.step e.buttons := by
      have among : e ∈ lines := by rwa [transcript, List.drop_left] at since
      exact graph ▸ rendered e among
    have found := numbered.button?_eq mem at_i
    obtain ⟨aim, there⟩ := target?_eq_connectedTo whole named some_id own at_i
    refine ⟨message_of_rendered whole (named ▸ own) (List.mem_of_getElem? at_i), ?leads, ?astray⟩
    case leads =>
      intro target shows run
      exact ⟨there target shows, click_of_leading found goes_on (aim.trans shows)⟩
    case astray =>
      intro nothing
      refine ⟨click_of_astray found goes_on (aim.trans nothing), fun idle trimmed some_text => ?_⟩
      rw [← trimmed] at some_text
      rw [send_of_idle idle some_text, trimmed]
  case outward =>
    intro e mem i b at_i outward
    rw [OnPreview.click_eq, click_of_outward (numbered.button?_eq mem at_i) outward]
    exact congrArg (EStateM.Result.ok · (s, w)) List.drop_length
  case unknown =>
    intro entry index unknown
    rw [OnPreview.click_eq, click_of_refused (button?_of_unknown unknown)]
    rfl
  case outside =>
    intro e mem index outside
    rw [OnPreview.click_eq, click_of_refused (button?_of_outside (numbered.entry?_eq mem) outside)]
    rfl

/-- A menu of three buttons, before the first one is connected. -/
def menuSettings : MessageSettings :=
  { text := "Pick one", buttons := [{ text := "Yes" }, { text := "Menu" }, { text := "Site", kind := .link }] }

/-- The changes that build a graph with the menu. -/
def menuChanges : List Edit :=
  [.addStep (.ok { id := "in", body := .trigger {} }),
    .addStep (.ok { id := "menu", body := .message menuSettings }),
    .addStep (.ok { id := "yes", body := .message { text := "You said yes" } }),
    .addEdge "in" "menu" none, .addEdge "menu" "yes" (some 0)]

/-- A message brings up the menu. Its first button leads to the next step, the second one is received as a message,
the third one does nothing, and there is no fourth one. -/
theorem click_follows_shown_menu :
    let k : Stage Nat := { services := {}, clock := .counting }
    let s₀ := ({ graph := Graph.edits {} menuChanges } : Session).greet (k.clock.line 0)
    let s := (s₀.moves k false [(k.clock, .send "hi")] 0).1
    let w := (s₀.moves k false [(k.clock, .send "hi")] 0).2
    let pressed (e : Entry) (place : Int) (text : String) :=
      s.append (userLine (k.now s) text [("button", .int place), ("source_entry", .str e.id)])
    let run := k.walker.executeAll s.graph.snapshot ["yes"] "Yes" s.knownContext s.automation w
    Reached k false s₀ 0 ∧
    (∀ happens ∈ [(k.clock, Move.send "hi")], happens.2.graphAfter s₀.graph = s₀.graph) ∧
    ∃ e ∈ s.transcript.drop s₀.transcript.length, e.step = some "menu" ∧
      (e.buttons.map fun b => (b.text, b.kind, b.connectedTo)) =
        [("Yes", .automation, some "yes"), ("Menu", .automation, none), ("Site", .link, none)] ∧
      s.click k false e.id 0 w =
        .ok (run.1.foldl (fun s result => s.showStretch k.clock.line result) (pressed e 0 "Yes"), run.2) ∧
      s.click k false e.id 1 w = .ok ((pressed e 1 "Menu").receive k false "Menu" w) ∧
      OnPreview.click k false e.id 2 (s, w) = .ok [] (s, w) ∧
      OnPreview.click k false e.id 3 (s, w) = .error (.noButton e.id 3) (s, w) := by
  intro k s₀ s w pressed run
  have reached : Reached k false s₀ 0 := ⟨{ graph := Graph.edits {} menuChanges }, k.clock.line 0, [], 0, rfl, rfl⟩
  have quiet : ∀ happens ∈ [(k.clock, Move.send "hi")], happens.2.graphAfter s₀.graph = s₀.graph :=
    fun _ mem => List.mem_singleton.mp mem ▸ rfl
  let shows (b : Button) := (b.text, b.kind, b.connectedTo)
  have shown : ((s.transcript.drop s₀.transcript.length).map fun e => (e.step, e.buttons.map shows)) =
      [(none, []), (some "menu",
        [("Yes", .automation, some "yes"), ("Menu", .automation, none), ("Site", .link, none)])] := by
    decide +kernel
  obtain ⟨follows, outward, -, outside⟩ := click_follows_shown k false reached rfl _ quiet k.clock
  obtain ⟨_, _, all, -, others⟩ := List.map_eq_cons_iff.mp shown
  obtain ⟨e, rfl, same⟩ := List.map_eq_singleton_iff.mp others
  obtain ⟨named, buttons⟩ := Prod.mk.inj same
  have since : e ∈ s.transcript.drop s₀.transcript.length := all ▸ List.mem_cons_of_mem _ List.mem_cons_self
  obtain ⟨yes, _, first, shows_yes, others⟩ := List.map_eq_cons_iff.mp buttons
  obtain ⟨menu, _, rfl, shows_menu, others⟩ := List.map_eq_cons_iff.mp others
  obtain ⟨site, rfl, shows_site⟩ := List.map_eq_singleton_iff.mp others
  simp only [shows, Prod.mk.injEq] at shows_yes shows_menu shows_site
  obtain ⟨text_yes, kind_yes, leads⟩ := shows_yes
  obtain ⟨text_menu, kind_menu, astray⟩ := shows_menu
  obtain ⟨-, kind_site, -⟩ := shows_site
  have at_place (i : Nat) : e.buttons[i]? = [yes, menu, site][i]? := by rw [first]
  have leading := ((follows e since "menu" named (by decide) 0 yes (at_place 0) kind_yes).2.1 "yes" leads).2
  have received := ((follows e since "menu" named (by decide) 1 menu (at_place 1) kind_menu).2.2 astray).1
  rw [text_yes] at leading
  rw [text_menu] at received
  have mem := List.mem_of_mem_drop since
  refine ⟨reached, quiet, e, since, named, buttons, leading, received, outward e mem 2 site (at_place 2) ?_,
    outside e mem 3 (.inr ?_)⟩
  · rw [kind_site]
    exact nofun
  · rw [first]
    exact Int.le_refl 3

end Parley.Session
