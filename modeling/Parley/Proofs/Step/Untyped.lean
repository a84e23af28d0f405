import Parley.Step.Basic

/-!
# The dictionaries without a schema

All parts of a step may carry fields without a meaning, and calls and actions carry payloads and parameters
of which nothing is known. `Parley.Step.untyped` lists these dictionaries and `Parley.Step.mapUntyped`
changes them: the fields without a meaning by one function, the payloads and parameters by another. The
rest of the step stays as it is, and so does where it leads.
-/

namespace Parley

/-! ### Changing them -/

section Untyped

variable (f g : Fields → Fields)

/-- The button with its fields without a meaning changed. -/
def Button.mapExtras (b : Button) : Button := { b with extras := f b.extras }

/-- The attachment with its fields without a meaning changed. -/
def Attachment.mapExtras (a : Attachment) : Attachment := { a with extras := f a.extras }

/-- The answer asked for with its fields without a meaning changed. -/
def DataField.mapExtras (d : DataField) : DataField := { d with extras := f d.extras }

/-- The storage with its fields without a meaning changed. -/
def Storage.mapExtras (s : Storage) : Storage := { s with extras := f s.extras }

/-- The settings with their fields without a meaning changed. -/
def Settings.mapExtras (s : Settings) : Settings := { s with extras := f s.extras }

/-- The settings with the fields without a meaning changed in all their parts. -/
def MessageSettings.mapExtras (s : MessageSettings) : MessageSettings :=
  { s with
    toSettings := s.toSettings.mapExtras f
    buttons := s.buttons.map (Button.mapExtras f)
    attachments := s.attachments.map (Attachment.mapExtras f) }

/-- The settings with the fields without a meaning changed in all their parts. -/
def InputSettings.mapExtras (s : InputSettings) : InputSettings :=
  { s with
    toSettings := s.toSettings.mapExtras f
    fields := s.fields.map (DataField.mapExtras f)
    storage := s.storage.mapExtras f }

/-- The settings with the fields without a meaning changed by `f` and the content by `g`. -/
def CallSettings.mapUntyped (s : CallSettings) : CallSettings :=
  { s with toSettings := s.toSettings.mapExtras f, content := g s.content }

/-- The body with the fields without a meaning changed by `f`, and payloads and parameters by `g`. -/
def Body.mapUntyped : Body → Body
  | .trigger s => .trigger { s with toSettings := s.toSettings.mapExtras f }
  | .message s => .message (s.mapExtras f)
  | .reply s => .reply { s with toSettings := s.toSettings.mapExtras f }
  | .condition s => .condition { s with toSettings := s.toSettings.mapExtras f }
  | .input s => .input (s.mapExtras f)
  | .apiCall s => .apiCall (s.mapUntyped f g)
  | .webhook s => .webhook (s.mapUntyped f g)
  | .delay s => .delay { s with toSettings := s.toSettings.mapExtras f }
  | .action s => .action { s with toSettings := s.toSettings.mapExtras f, parameters := g s.parameters }
  | .branch s => .branch { s with toSettings := s.toSettings.mapExtras f }
  | .unknown kind s => .unknown kind (s.mapExtras f)

/-- The step with the fields without a meaning changed by `f`, and payloads and parameters by `g`. -/
def Step.mapUntyped (s : Step) : Step := { s with body := s.body.mapUntyped f g }

end Untyped

/-! ### Listing them -/

/-- The dictionaries without a schema in a body: fields without a meaning, payloads and parameters. -/
def Body.untyped : Body → List Fields
  | .trigger s => [s.extras]
  | .message s => s.extras :: (s.buttons.map (·.extras) ++ s.attachments.map (·.extras))
  | .reply s => [s.extras]
  | .condition s => [s.extras]
  | .input s => s.extras :: s.storage.extras :: s.fields.map (·.extras)
  | .apiCall s => [s.extras, s.content]
  | .webhook s => [s.extras, s.content]
  | .delay s => [s.extras]
  | .action s => [s.extras, s.parameters]
  | .branch s => [s.extras]
  | .unknown _ s => [s.extras]

/-- The dictionaries without a schema in a step. -/
def Step.untyped (s : Step) : List Fields := s.body.untyped

/-- Changes that agree on the dictionaries of a body change it in the same way. -/
theorem Body.mapUntyped_congr {f f' g g' : Fields → Fields} {b : Body}
    (h : ∀ fs ∈ b.untyped, f fs = f' fs ∧ g fs = g' fs) : b.mapUntyped f g = b.mapUntyped f' g' := by
  cases b with
  | message s =>
    have buttons : s.buttons.map (Button.mapExtras f) = s.buttons.map (Button.mapExtras f') :=
      List.map_congr_left fun b mem => by
        have same := (h b.extras (List.mem_cons_of_mem _
          (List.mem_append_left _ (List.mem_map_of_mem mem)))).1
        rw [Button.mapExtras, Button.mapExtras, same]
    have attachments : s.attachments.map (Attachment.mapExtras f) =
        s.attachments.map (Attachment.mapExtras f') :=
      List.map_congr_left fun a mem => by
        have same := (h a.extras (List.mem_cons_of_mem _
          (List.mem_append_right _ (List.mem_map_of_mem mem)))).1
        rw [Attachment.mapExtras, Attachment.mapExtras, same]
    have same := (h s.extras List.mem_cons_self).1
    simp only [mapUntyped, MessageSettings.mapExtras, Settings.mapExtras, buttons, attachments, same]
  | input s =>
    have fields : s.fields.map (DataField.mapExtras f) = s.fields.map (DataField.mapExtras f') :=
      List.map_congr_left fun d mem => by
        have same := (h d.extras (List.mem_cons_of_mem _
          (List.mem_cons_of_mem _ (List.mem_map_of_mem mem)))).1
        rw [DataField.mapExtras, DataField.mapExtras, same]
    have same := (h s.extras List.mem_cons_self).1
    have same' := (h s.storage.extras (List.mem_cons_of_mem _ List.mem_cons_self)).1
    simp only [mapUntyped, InputSettings.mapExtras, Settings.mapExtras, Storage.mapExtras, fields, same,
      same']
  | apiCall s =>
    have same := (h s.extras List.mem_cons_self).1
    have same' := (h s.content (List.mem_cons_of_mem _ List.mem_cons_self)).2
    simp only [mapUntyped, CallSettings.mapUntyped, Settings.mapExtras, same, same']
  | webhook s =>
    have same := (h s.extras List.mem_cons_self).1
    have same' := (h s.content (List.mem_cons_of_mem _ List.mem_cons_self)).2
    simp only [mapUntyped, CallSettings.mapUntyped, Settings.mapExtras, same, same']
  | action s =>
    have same := (h s.extras List.mem_cons_self).1
    have same' := (h s.parameters (List.mem_cons_of_mem _ List.mem_cons_self)).2
    simp only [mapUntyped, Settings.mapExtras, same, same']
  | trigger s => simp only [mapUntyped, Settings.mapExtras, (h s.extras List.mem_cons_self).1]
  | reply s => simp only [mapUntyped, Settings.mapExtras, (h s.extras List.mem_cons_self).1]
  | condition s => simp only [mapUntyped, Settings.mapExtras, (h s.extras List.mem_cons_self).1]
  | delay s => simp only [mapUntyped, Settings.mapExtras, (h s.extras List.mem_cons_self).1]
  | branch s => simp only [mapUntyped, Settings.mapExtras, (h s.extras List.mem_cons_self).1]
  | unknown kind s => simp only [mapUntyped, Settings.mapExtras, (h s.extras List.mem_cons_self).1]

/-- Two changes, one after the other, are one. -/
theorem Body.mapUntyped_mapUntyped (f g f' g' : Fields → Fields) (b : Body) :
    (b.mapUntyped f' g').mapUntyped f g = b.mapUntyped (f ∘ f') (g ∘ g') := by
  cases b with
  | message s => simp only [mapUntyped, MessageSettings.mapExtras, List.map_map]; rfl
  | input s => simp only [mapUntyped, InputSettings.mapExtras, List.map_map]; rfl
  | _ => rfl

/-! ### What stays -/

namespace Step

variable {s : Step} {f g : Fields → Fields}

@[simp] theorem id_mapUntyped : (s.mapUntyped f g).id = s.id := rfl

@[simp] theorem connections_mapUntyped : (s.mapUntyped f g).connections = s.connections := rfl

@[simp] theorem isMessage_mapUntyped : (s.mapUntyped f g).isMessage = s.isMessage := by
  obtain ⟨id, title, position, connections, body⟩ := s
  cases body <;> rfl

@[simp] theorem buttons_mapUntyped :
    (s.mapUntyped f g).buttons = s.buttons.map (Button.mapExtras f) := by
  obtain ⟨id, title, position, connections, body⟩ := s
  cases body <;> rfl

/-- Taking away where a step leads and changing its dictionaries do not interfere. -/
theorem detached_mapUntyped : (s.mapUntyped f g).detached = s.detached.mapUntyped f g := by
  obtain ⟨id, title, position, connections, body⟩ := s
  cases body with
  | message m =>
    simp only [mapUntyped, Body.mapUntyped, MessageSettings.mapExtras, detached, mapButtons, List.map_map]
    rfl
  | _ => rfl

end Step

end Parley
