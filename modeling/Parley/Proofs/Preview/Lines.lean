import Parley.Preview.Session
import Parley.Proofs.Run.Effects

/-!
# What a preview shows of a run

The id of a line depends on its place in the transcript, and so does the time at which it is written; nothing
else about the line does. So lines are compared without their ids (`Parley.Session.Adds`), and where they are
lines of effects it is enough to know the effects (`Parley.Session.AddsEffects`): the times follow from the
places (`Parley.Session.linesFrom`).

A preview shows the effects of a run, one line each, and for each delay a notice that it was waited for.
The notices can be told from the effects: they are notices without further data that begin with certain
words, and no effect of a run is (`Parley.Services.only_plain`).
-/

namespace Parley

variable {σ : Type}

/-- The clock that counts the steps of a run and the lines of a transcript. -/
def Clock.counting : Clock := { step := fun n => ⟨n, none⟩, line := fun place => ⟨place, none⟩ }

/-- The line without its id. -/
def Entry.unnamed (e : Entry) : Entry := { e with id := "" }

/-- Whether a line is the notice that a delay was waited for. -/
def Entry.saysWaited (e : Entry) : Bool :=
  e.kind == "status" && e.metadata.isEmpty && Text.startsWith e.text "⏱️ Waited "

namespace Session

variable {s s' s'' : Session} {lines lines' : List Entry} {times : Nat → Moment} {effects more : List Effect}

/-! ### Lines that are added -/

/-- Some lines are added to a session, whose ids are left out of account. -/
def Adds (s s' : Session) (lines : List Entry) : Prop :=
  ∃ added, s'.transcript = s.transcript ++ added ∧ added.map Entry.unnamed = lines

theorem Adds.none (same : s'.transcript = s.transcript) : Adds s s' [] :=
  ⟨[], by rw [same, List.append_nil], rfl⟩

theorem Adds.trans (first : Adds s s' lines) (second : Adds s' s'' lines') :
    Adds s s'' (lines ++ lines') := by
  obtain ⟨added, transcript, rfl⟩ := first
  obtain ⟨more, transcript', rfl⟩ := second
  exact ⟨added ++ more, by rw [transcript', transcript, List.append_assoc], List.map_append⟩

theorem adds_append (s : Session) (line : Entry) : Adds s (s.append line) [line.unnamed] :=
  ⟨_, rfl, rfl⟩

theorem Adds.length (adds : Adds s s' lines) : s'.transcript.length = s.transcript.length + lines.length := by
  obtain ⟨added, transcript, rfl⟩ := adds
  rw [transcript, List.length_append, List.length_map]

/-- The lines of some effects of which the first one comes to the given place. -/
def linesFrom (times : Nat → Moment) (place : Nat) (effects : List Effect) : List Entry :=
  effects.mapIdx fun i e => lineOf (times (place + i)) e

theorem length_linesFrom (times : Nat → Moment) (place : Nat) (effects : List Effect) :
    (linesFrom times place effects).length = effects.length := List.length_mapIdx

theorem linesFrom_append (times : Nat → Moment) (place : Nat) (effects more : List Effect) :
    linesFrom times place (effects ++ more) =
      linesFrom times place effects ++ linesFrom times (place + effects.length) more := by
  have shift (i : Nat) : place + (i + effects.length) = place + effects.length + i := by omega
  simp only [linesFrom, List.mapIdx_append, shift]

/-- Each of the lines is that of an effect. -/
theorem exists_of_mem_linesFrom {place : Nat} {line : Entry} (mem : line ∈ linesFrom times place effects) :
    ∃ e ∈ effects, ∃ now, lineOf now e = line := by
  obtain ⟨i, here, rfl⟩ := List.mem_mapIdx.mp mem
  exact ⟨effects[i], List.getElem_mem here, _, rfl⟩

/-- While the clock stands still, the places of the lines do not matter. -/
theorem linesFrom_still (now : Moment) (place : Nat) (effects : List Effect) :
    linesFrom (Clock.still now).line place effects = effects.map (lineOf now) := by
  refine List.ext_getElem ?_ fun i _ _ => ?_
  · rw [length_linesFrom, List.length_map]
  · simp only [linesFrom, List.getElem_mapIdx, List.getElem_map]
    rfl

/-- Some effects are shown in a session, and nothing else is. -/
def AddsEffects (times : Nat → Moment) (s s' : Session) (effects : List Effect) : Prop :=
  Adds s s' (linesFrom times s.transcript.length effects)

theorem AddsEffects.trans (first : AddsEffects times s s' effects) (second : AddsEffects times s' s'' more) :
    AddsEffects times s s'' (effects ++ more) := by
  have place := first.length
  rw [length_linesFrom] at place
  rw [AddsEffects, place] at second
  rw [AddsEffects, linesFrom_append]
  exact Adds.trans first second

/-- A line that is added first comes before the lines of effects. -/
theorem AddsEffects.after_line {line : Entry} (adds : AddsEffects times (s.append line) s' effects) :
    Adds s s' (line.unnamed :: linesFrom times (s.transcript.length + 1) effects) := by
  have first := adds_append s line
  have place : (s.append line).transcript.length = s.transcript.length + 1 := first.length
  rw [AddsEffects, place] at adds
  exact first.trans adds

theorem adds_emit (s : Session) (times : Nat → Moment) (e : Effect) : AddsEffects times s (s.emit times e) [e] := by
  unfold emit
  split
  · exact adds_append (s.pause s.latency) (lineOf (times s.transcript.length) e)
  · exact adds_append s (lineOf (times s.transcript.length) e)

theorem adds_emits (s : Session) (times : Nat → Moment) (effects : List Effect) :
    AddsEffects times s (effects.foldl (fun s e => s.emit times e) s) effects := by
  induction effects generalizing s with
  | nil => exact .none rfl
  | cons e rest ih => exact (adds_emit s times e).trans (ih (s.emit times e))

/-- The notice that a delay was waited for. -/
def waited (delay : Suspension) : Effect :=
  { kind := .status, text := "⏱️ Waited " ++ delay.label, step := some delay.step,
    stepType := some "delay" }

/-- What is shown of a stretch: its effects, and the notice of the delay at its end. -/
def told (result : RunResult) : List Effect :=
  result.effects ++ (result.suspension?.map fun delay => waited delay.1).toList

theorem adds_showStretch (s : Session) (times : Nat → Moment) (result : RunResult) :
    AddsEffects times s (s.showStretch times result) (told result) := by
  have effects := adds_emits { s with results := s.results ++ [result] } times result.effects
  unfold showStretch told
  generalize result.effects.foldl (fun s e => s.emit times e) { s with results := s.results ++ [result] } =
    shown at effects
  -- the field that the next message answers may be noted, which adds no line
  have noted : ∀ asked : Session, asked.transcript = shown.transcript →
      AddsEffects times s asked result.effects := by
    rintro asked same
    obtain ⟨added, transcript, lines⟩ := effects
    exact ⟨added, same.trans transcript, lines⟩
  dsimp only
  split
  · rename_i delay left waits
    rw [waits]
    refine (noted _ ?_).trans (adds_emit _ times (waited delay))
    repeat' split
    all_goals rfl
  · rename_i ends
    rw [ends]
    refine (noted _ ?_).trans (.none rfl)
    repeat' split
    all_goals rfl

theorem adds_stretches (s : Session) (times : Nat → Moment) (results : List RunResult) :
    AddsEffects times s (results.foldl (fun s result => s.showStretch times result) s) (results.flatMap told) := by
  induction results generalizing s with
  | nil => exact .none rfl
  | cons result rest ih => exact (adds_showStretch s times result).trans (ih (s.showStretch times result))

/-! ### Notices of delays -/

theorem saysWaited_waited (now : Moment) (delay : Suspension) :
    (lineOf now (waited delay)).saysWaited = true := by
  have begins : Text.startsWith ("⏱️ Waited " ++ delay.label) "⏱️ Waited " = true := by
    unfold Text.startsWith
    rw [String.toList_append, List.isPrefixOf_iff_prefix]
    exact List.prefix_append _ _
  simp only [Entry.saysWaited, lineOf, waited, begins, EffectKind.word, List.isEmpty_nil, beq_self_eq_true,
    Bool.and_self]

end Session

/-- An effect that is no notice of a delay that was waited for. -/
def Effect.Plain (e : Effect) : Prop := ∀ now, (Session.lineOf now e).saysWaited = false

namespace Effect.Plain

variable {e : Effect}

theorem of_message (h : e.kind = .message) : e.Plain := by
  intro now
  have other : (e.kind.word == "status") = false := by rw [h]; rfl
  simp only [Entry.saysWaited, Session.lineOf, other, Bool.false_and]

theorem of_metadata (h : e.metadata.isEmpty = false) : e.Plain := by
  intro now
  simp only [Entry.saysWaited, Session.lineOf, h, Bool.and_false, Bool.false_and]

theorem of_text (h : Text.startsWith e.text "⏱️ Waited " = false) : e.Plain := by
  intro now
  simp only [Entry.saysWaited, Session.lineOf, h, Bool.and_false]

end Effect.Plain

/-- **What a step does is no such notice.** A notice of a step comes with data, except for that of a step of no known
kind, and this begins with other words. -/
theorem Step.Makes.plain {s : Step} {e : Effect} (made : s.Makes e) : e.Plain := by
  cases made with
  | notice worded data => exact .of_metadata data
  | executed kind =>
    refine .of_text ?_
    unfold Text.startsWith
    rw [Effect.notice, String.append_assoc, String.toList_append]
    rfl
  | message worded metadata => exact .of_message rfl
  | sent body worded => exact .of_message rfl

/-- **No effect of a run is the notice that a delay was waited for.** -/
theorem Services.only_plain (services : Services σ) (clock : Nat → Moment) (maxSteps : Int) :
    (services.walker clock maxSteps).Only Effect.Plain where
  performed s st w e mem := (s.madeBy_perform _ st w e mem).plain
  fault fault := by cases fault <;> exact .of_metadata rfl
  nothing := .of_text rfl

namespace Session

/-- **What is shown of a run**, apart from the notices of delays: its effects. There is such a notice for each
stretch that waits. -/
theorem told_run {results : List RunResult} (plain : ∀ result ∈ results, ∀ e ∈ result.effects, e.Plain)
    (now : Moment) :
    let lines := (results.flatMap told).map (lineOf now)
    lines.filter (fun line => !line.saysWaited) = (results.flatMap (·.effects)).map (lineOf now) ∧
    lines.countP (·.saysWaited) = results.countP (·.waits) := by
  induction results with
  | nil => exact ⟨rfl, rfl⟩
  | cons result rest ih =>
    obtain ⟨effects, waits⟩ := ih fun r mem => plain r (List.mem_cons_of_mem _ mem)
    have own : ∀ line ∈ result.effects.map (lineOf now), line.saysWaited = false := by
      intro line mem
      obtain ⟨e, there, rfl⟩ := List.mem_map.mp mem
      exact plain result List.mem_cons_self e there now
    have kept : (result.effects.map (lineOf now)).filter (fun line => !line.saysWaited) =
        result.effects.map (lineOf now) :=
      List.filter_eq_self.mpr fun line mem => by rw [own line mem]; rfl
    have none : (result.effects.map (lineOf now)).countP (·.saysWaited) = 0 :=
      List.countP_eq_zero.mpr fun line mem => by rw [own line mem]; exact Bool.false_ne_true
    have notices : ((told result).map (lineOf now)).filter (fun line => !line.saysWaited) =
        result.effects.map (lineOf now) ∧
        ((told result).map (lineOf now)).countP (·.saysWaited) = if result.waits then 1 else 0 := by
      unfold told RunResult.waits
      rw [List.map_append, List.filter_append, kept, List.countP_append, none]
      cases result.suspension? with
      | none => simp
      | some delay => simp [saysWaited_waited]
    dsimp only at effects waits ⊢
    rw [List.flatMap_cons, List.flatMap_cons, List.map_append, List.map_append, List.filter_append,
      List.countP_append, effects, waits, notices.1, notices.2, List.countP_cons]
    exact ⟨rfl, Nat.add_comm _ _⟩

/-- The same of lines with their ids. -/
theorem lines_of_run {results : List RunResult} (plain : ∀ result ∈ results, ∀ e ∈ result.effects, e.Plain)
    {now : Moment} {lines : List Entry}
    (shown : lines.map Entry.unnamed = (results.flatMap told).map (lineOf now)) :
    (lines.filter fun line => !line.saysWaited).map Entry.unnamed =
      (results.flatMap (·.effects)).map (lineOf now) ∧
    lines.countP (·.saysWaited) = results.countP (·.waits) := by
  obtain ⟨effects, waits⟩ := told_run plain now
  rw [← shown, List.filter_map] at effects
  rw [← shown, List.countP_map] at waits
  exact ⟨effects, waits⟩

end Session

end Parley
