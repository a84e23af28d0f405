import Mathlib.Data.List.Basic
import Parley.Graph.Edit

/-!
# Buttons of steps

Only messages have buttons, and every change of a graph that touches a step at all touches its buttons:
it clears where they lead, sets one of them, or sets them all from the edges. All of these are
`Parley.Step.mapButtons` for some function of the list of buttons, so what they leave alone – the id,
the kind, the kinds of the buttons – is said once, for any such function.

The one fault test, `Parley.Graph.buttonFault?`, is read back as what it asks for
(`Parley.Graph.buttonFault?_eq_none_iff`), and since it looks at nothing but the kinds of the buttons,
none of these changes affects it.
-/

namespace Parley

namespace Step

variable {s : Step} {f : List Button → List Button}

/-! ### Changing the buttons -/

@[simp] theorem id_mapButtons : (s.mapButtons f).id = s.id := by
  unfold mapButtons
  split <;> rfl

@[simp] theorem connections_mapButtons : (s.mapButtons f).connections = s.connections := by
  unfold mapButtons
  split <;> rfl

@[simp] theorem isMessage_mapButtons : (s.mapButtons f).isMessage = s.isMessage := by
  unfold mapButtons
  split
  · rename_i m eq
    simp only [isMessage, eq]
  · rfl

/-- A step that is no message has no buttons. -/
theorem buttons_eq_nil (h : s.isMessage = false) : s.buttons = [] := by
  obtain ⟨id, title, position, connections, body⟩ := s
  cases body with
  | message m => cases h
  | _ => rfl

/-- The buttons after a change of the buttons. A change makes no button where there is none, so that
steps without buttons are no exception. -/
theorem buttons_mapButtons (empty : f [] = []) : (s.mapButtons f).buttons = f s.buttons := by
  cases message : s.isMessage with
  | true =>
    obtain ⟨id, title, position, connections, body⟩ := s
    cases body with
    | message m => rfl
    | _ => cases message
  | false =>
    rw [buttons_eq_nil message, empty]
    exact buttons_eq_nil (by rw [isMessage_mapButtons, message])

/-- Only what a change makes of the buttons that are there matters. -/
theorem mapButtons_congr {f' : List Button → List Button} (same : f s.buttons = f' s.buttons) :
    s.mapButtons f = s.mapButtons f' := by
  obtain ⟨id, title, position, connections, body⟩ := s
  cases body with
  | message m =>
    have same : f m.buttons = f' m.buttons := same
    simp only [mapButtons, same]
  | _ => rfl

theorem mapButtons_eq_self (same : f s.buttons = s.buttons) : s.mapButtons f = s := by
  have kept : s.mapButtons f = s.mapButtons fun bs => bs := mapButtons_congr same
  rw [kept]
  obtain ⟨id, title, position, connections, body⟩ := s
  cases body <;> rfl

theorem mapButtons_mapButtons {f' : List Button → List Button} :
    (s.mapButtons f).mapButtons f' = s.mapButtons fun bs => f' (f bs) := by
  obtain ⟨id, title, position, connections, body⟩ := s
  cases body <;> rfl

/-! ### Detached steps -/

@[simp] theorem id_detached : s.detached.id = s.id := by simp [detached]

@[simp] theorem connections_detached : s.detached.connections = [] := rfl

@[simp] theorem isMessage_detached : s.detached.isMessage = s.isMessage := by
  have : s.detached.isMessage = (s.mapButtons (List.map _)).isMessage := rfl
  rw [this, isMessage_mapButtons]

@[simp] theorem buttons_detached :
    s.detached.buttons = s.buttons.map fun b => { b with connectedTo := none } := by
  have : s.detached.buttons = (s.mapButtons (List.map _)).buttons := rfl
  rw [this, buttons_mapButtons List.map_nil]

/-- **A change that sets nothing but where buttons lead** is not seen once the step is detached. -/
theorem detached_mapButtons
    (h : ∀ bs, (f bs).map (fun b => { b with connectedTo := none }) =
      bs.map fun b => { b with connectedTo := none }) : (s.mapButtons f).detached = s.detached := by
  obtain ⟨id, title, position, connections, body⟩ := s
  cases body with
  | message m => simp only [detached, mapButtons, h]
  | _ => rfl

theorem detached_reconnected {targets : List String} :
    ({ s with connections := targets } : Step).detached = s.detached := by
  obtain ⟨id, title, position, connections, body⟩ := s
  cases body <;> rfl

@[simp] theorem detached_detached : s.detached.detached = s.detached := by
  obtain ⟨id, title, position, connections, body⟩ := s
  cases body with
  | message m => simp only [detached, mapButtons, List.map_map, Function.comp_def]
  | _ => rfl

end Step

namespace Graph

variable {s : Step} {edges : List Edge} {target : Option String} {gone : String} {index i : Nat}

/-! ### The changes that graphs make -/

@[simp] theorem id_attached : (attached edges s).id = s.id := Step.id_mapButtons

@[simp] theorem connections_attached : (attached edges s).connections = s.connections :=
  Step.connections_mapButtons

@[simp] theorem isMessage_attached : (attached edges s).isMessage = s.isMessage :=
  Step.isMessage_mapButtons

@[simp] theorem buttons_attached : (attached edges s).buttons = s.buttons.mapIdx fun i b =>
    { b with connectedTo := (edges.find? fun e => e.source == s.id && e.button == some i).map (·.target) } :=
  Step.buttons_mapButtons List.mapIdx_nil

@[simp] theorem id_aimButton : (aimButton index target s).id = s.id := Step.id_mapButtons

@[simp] theorem connections_aimButton : (aimButton index target s).connections = s.connections :=
  Step.connections_mapButtons

@[simp] theorem isMessage_aimButton : (aimButton index target s).isMessage = s.isMessage :=
  Step.isMessage_mapButtons

@[simp] theorem buttons_aimButton : (aimButton index target s).buttons =
    s.buttons.modify index fun b => { b with connectedTo := target } :=
  Step.buttons_mapButtons (List.modify_nil ..)

@[simp] theorem id_forget : (forget gone s).id = s.id := Step.id_mapButtons

@[simp] theorem connections_forget : (forget gone s).connections = s.connections :=
  Step.connections_mapButtons

@[simp] theorem isMessage_forget : (forget gone s).isMessage = s.isMessage :=
  Step.isMessage_mapButtons

@[simp] theorem buttons_forget : (forget gone s).buttons = s.buttons.map fun b =>
    if b.connectedTo = some gone then { b with connectedTo := none } else b :=
  Step.buttons_mapButtons List.map_nil

@[simp] theorem detached_attached : (attached edges s).detached = s.detached := by
  refine Step.detached_mapButtons fun bs => List.ext_getElem? fun i => ?_
  rw [List.getElem?_map, List.getElem?_mapIdx, List.getElem?_map, Option.map_map]
  rfl

@[simp] theorem detached_aimButton : (aimButton index target s).detached = s.detached := by
  refine Step.detached_mapButtons fun bs => List.ext_getElem? fun i => ?_
  rw [List.getElem?_map, List.getElem?_modify, List.getElem?_map, Option.map_eq_map, Option.map_map]
  refine Option.map_congr fun b _ => ?_
  simp only [Function.comp_apply]
  split <;> rfl

@[simp] theorem detached_forget : (forget gone s).detached = s.detached := by
  refine Step.detached_mapButtons fun bs => ?_
  rw [List.map_map]
  refine List.map_congr_left fun b _ => ?_
  simp only [Function.comp_apply]
  split <;> rfl

/-! ### Buttons and edges -/

/-- A button that shows the target already is set to no effect. -/
theorem aimButton_eq_self (shown : ∀ b, s.buttons[i]? = some b → b.connectedTo = target) :
    aimButton i target s = s := by
  refine Step.mapButtons_eq_self (List.ext_getElem? fun j => ?_)
  rw [List.getElem?_modify]
  by_cases here : i = j
  · subst here
    rcases at_i : s.buttons[i]? with _ | b
    · simp
    · simp [← shown b at_i]
  · simp [here]

/-- A button that is cleared shows nothing that could be forgotten. -/
theorem forget_aimButton : forget gone (aimButton i none s) = aimButton i none (forget gone s) := by
  simp only [forget, aimButton, Step.mapButtons_mapButtons]
  refine Step.mapButtons_congr (List.ext_getElem? fun j => ?_)
  rw [List.getElem?_map, List.getElem?_modify, List.getElem?_modify, List.getElem?_map]
  by_cases here : i = j
  · rcases s.buttons[j]? with _ | b
    · simp
    · by_cases shows : b.connectedTo = some gone <;> simp [here, shows]
  · simp [here]

/-- One more edge is shown by the button at which it starts, if none starts there yet. -/
theorem attached_concat {e : Edge} (source : e.source = s.id) (slot : e.button = some i)
    (alone : ∀ x ∈ edges, ¬(x.source = s.id ∧ x.button = some i)) :
    attached (edges ++ [e]) s = aimButton i (some e.target) (attached edges s) := by
  simp only [attached, aimButton, Step.mapButtons_mapButtons]
  refine Step.mapButtons_congr (List.ext_getElem? fun j => ?_)
  rw [List.getElem?_modify, List.getElem?_mapIdx, List.getElem?_mapIdx]
  by_cases here : i = j
  · subst here
    have none_before : (edges.find? fun x => x.source == s.id && x.button == some i) = none := by
      rw [List.find?_eq_none]
      intro x mem
      simpa using alone x mem
    rcases s.buttons[i]? with _ | b
    · simp
    · simp [List.find?_append, none_before, source, slot]
  · rcases s.buttons[j]? with _ | b
    · simp
    · simp [List.find?_append, slot, here]

/-! ### Buttons at which edges can start -/

/-- **What an edge may start at**: an automation button of a message. -/
theorem buttonFault?_eq_none_iff : buttonFault? s i = none ↔
    s.isMessage = true ∧ s.buttons[i]?.map (·.kind) = some .automation := by
  unfold buttonFault?
  cases s.isMessage with
  | false => simp
  | true =>
    simp only [if_true, true_and]
    cases s.buttons[i]? with
    | none => simp
    | some b => by_cases h : b.kind = .automation <;> simp [h]

theorem buttonFault?_eq_none_iff_exists : buttonFault? s i = none ↔
    ∃ m b, s.body = .message m ∧ m.buttons[i]? = some b ∧ b.kind = .automation := by
  rw [buttonFault?_eq_none_iff]
  obtain ⟨id, title, position, connections, body⟩ := s
  cases body <;> simp [Step.isMessage, Step.buttons]

/-- **The test does not ask where buttons lead.** -/
theorem buttonFault?_detached : buttonFault? s.detached i = buttonFault? s i := by
  rw [buttonFault?, buttonFault?, Step.isMessage_detached, Step.buttons_detached, Step.id_detached,
    List.getElem?_map]
  cases s.buttons[i]? <;> rfl

/-- Setting where a button leads replaces that button and nothing else. -/
theorem aimButton_eq_set {m : MessageSettings} {b : Button} (body : s.body = .message m)
    (at_i : m.buttons[i]? = some b) : aimButton i target s =
      { s with body := .message { m with buttons := m.buttons.set i { b with connectedTo := target } } } := by
  have buttons : (m.buttons.modify i fun b => { b with connectedTo := target }) =
      m.buttons.set i { b with connectedTo := target } := by
    refine List.ext_getElem? fun j => ?_
    rw [List.getElem?_modify, List.getElem?_set]
    by_cases here : i = j
    · subst here
      have inside := (List.getElem?_eq_some_iff.mp at_i).1
      simp only [at_i, Option.map_eq_map, Option.map_some, if_true, inside]
    · simp [here]
  simp only [aimButton, Step.mapButtons, body, buttons]

/-- The test looks at nothing but the kinds of the buttons. -/
theorem buttonFault?_eq_none_of_kinds {s' : Step} (h : buttonFault? s i = none)
    (message : s'.isMessage = s.isMessage)
    (kinds : s'.buttons[i]?.map (·.kind) = s.buttons[i]?.map (·.kind)) :
    buttonFault? s' i = none := by
  rw [buttonFault?_eq_none_iff] at h ⊢
  rwa [message, kinds]

theorem kind_detached : s.detached.buttons[i]?.map (·.kind) = s.buttons[i]?.map (·.kind) := by
  rw [Step.buttons_detached, List.getElem?_map, Option.map_map]
  rfl

theorem kind_attached :
    (attached edges s).buttons[i]?.map (·.kind) = s.buttons[i]?.map (·.kind) := by
  rw [buttons_attached, List.getElem?_mapIdx, Option.map_map]
  rfl

theorem kind_aimButton :
    (aimButton index target s).buttons[i]?.map (·.kind) = s.buttons[i]?.map (·.kind) := by
  rw [buttons_aimButton, List.getElem?_modify, Option.map_eq_map, Option.map_map]
  refine Option.map_congr fun b _ => ?_
  simp only [Function.comp_apply]
  split <;> rfl

theorem kind_forget : (forget gone s).buttons[i]?.map (·.kind) = s.buttons[i]?.map (·.kind) := by
  rw [buttons_forget, List.getElem?_map, Option.map_map]
  refine Option.map_congr fun b _ => ?_
  simp only [Function.comp_apply]
  split <;> rfl

end Graph

end Parley
