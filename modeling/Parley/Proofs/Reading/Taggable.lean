import Parley.Proofs.Reading.Basic
import Parley.Record.Basic

/-!
# Steps without a kind

A step whose type is a list or a dictionary has no kind at all, and this is told by an issue of its own. No
other document gives rise to this issue: neither the settings of a step nor its other fields, whatever they are.
So a step is read with this issue exactly if its type is of this sort (`Parley.Step.reader_tame_iff`).

A reading that does not tell this issue is called *tame*. Readings are built up from readings of fields, and so
are the proofs that they are tame.
-/

namespace Parley

open Reading

/-- Whether a reading does not find a document without a kind. -/
def Reading.Tame {α : Type} (r : Reading α) : Prop :=
  ∀ issues, r = bad issues → Issue.untaggable? issues = false

/-- Whether a reader finds no document without a kind, whatever it reads. -/
def Reader.Tame {α : Type} (r : Reader α) : Prop := ∀ v, (r v).Tame

/-! ### Readings that are put together -/

section Parts

variable {α β : Type} {f : Reading (α → β)} {r : Reading α} {read : Reader α} {key : Key} {name : String}
  {kind : IssueKind} {fs : Fields} {default : α}

namespace Reading

@[simp] theorem tame_ok (a : α) : (ok a).Tame := fun _ h => absurd h.symm bad_ne_ok

theorem tame_bad_iff {issues : List Issue} :
    (bad issues : Reading α).Tame ↔ Issue.untaggable? issues = false :=
  ⟨fun h => h issues rfl, fun h _ same => Except.error.inj same ▸ h⟩

@[simp] theorem tame_fail_iff : (fail kind : Reading α).Tame ↔ kind ≠ .untaggable := by
  refine tame_bad_iff.trans ?_
  simp [Issue.untaggable?, Issue.here]

/-- What is put together of two readings is tame exactly if both are. -/
@[simp] theorem tame_seq_iff : (f <*> r).Tame ↔ f.Tame ∧ r.Tame := by
  cases f with
  | ok g =>
    cases r with
    | ok a => exact ⟨fun _ => ⟨tame_ok g, tame_ok a⟩, fun _ => tame_ok (g a)⟩
    | error issues =>
      refine tame_bad_iff.trans ⟨fun h => ⟨tame_ok g, tame_bad_iff.mpr h⟩, fun h => tame_bad_iff.mp h.2⟩
  | error issues =>
    cases r with
    | ok a =>
      refine tame_bad_iff.trans ⟨fun h => ⟨tame_bad_iff.mpr h, tame_ok a⟩, fun h => tame_bad_iff.mp h.1⟩
    | error more =>
      refine tame_bad_iff.trans (Iff.trans ?_ (and_congr tame_bad_iff tame_bad_iff).symm)
      rw [Issue.untaggable?, List.any_append, Bool.or_eq_false_iff]
      rfl

@[simp] theorem tame_map_iff (g : α → β) : (g <$> r).Tame ↔ r.Tame :=
  tame_seq_iff.trans ⟨And.right, fun h => ⟨tame_ok g, h⟩⟩

/-- Where a part stands makes no difference. -/
@[simp] theorem tame_under_iff : (under key r).Tame ↔ r.Tame := by
  cases r with
  | ok a => exact ⟨fun _ => tame_ok a, fun _ => tame_ok a⟩
  | error issues =>
    have same : Issue.untaggable? (issues.map (Issue.under key)) = Issue.untaggable? issues := by
      rw [Issue.untaggable?, List.any_map]
      rfl
    exact tame_bad_iff.trans (same ▸ tame_bad_iff.symm)

@[simp] theorem tame_field_iff : (field name r).Tame ↔ r.Tame := tame_under_iff

end Reading

namespace Fields

@[simp] theorem tame_required (h : read.Tame) : (fs.required name read).Tame := by
  unfold required
  split
  · exact tame_field_iff.mpr (h _)
  · exact tame_field_iff.mpr (tame_fail_iff.mpr nofun)

@[simp] theorem tame_withDefault (h : read.Tame) : (fs.withDefault name default read).Tame := by
  unfold withDefault
  split
  · exact tame_field_iff.mpr (h _)
  · exact tame_ok _

end Fields

namespace Reader

@[simp] theorem tame_record_iff {otherwise : IssueKind} {read : Fields → Reading α} :
    Reader.Tame (record otherwise read) ↔ otherwise ≠ .untaggable ∧ ∀ fs, (read fs).Tame := by
  refine ⟨fun h => ⟨tame_fail_iff.mp (h .null), fun fs => h (.dict fs)⟩, fun h v => ?_⟩
  cases v with
  | dict fs => exact h.2 fs
  | _ => exact tame_fail_iff.mpr h.1

@[simp] theorem tame_orNull (h : read.Tame) : (orNull read).Tame := by
  intro v
  cases v with
  | null => exact tame_ok _
  | _ => exact (tame_map_iff some).mpr (h _)

/-- Members of which none is without a kind are read tamely. -/
theorem tame_itemsFrom {vs : List Value} (i : Nat) (h : ∀ v ∈ vs, (read v).Tame) :
    (itemsFrom read i vs).Tame := by
  induction vs generalizing i with
  | nil => exact tame_ok _
  | cons v rest ih =>
    exact tame_seq_iff.mpr ⟨(tame_map_iff _).mpr (tame_under_iff.mpr (h v List.mem_cons_self)),
      ih (i + 1) fun u mem => h u (List.mem_cons_of_mem v mem)⟩

@[simp] theorem tame_listOf (h : read.Tame) : (listOf read).Tame := by
  intro v
  cases v with
  | list vs => exact tame_itemsFrom 0 fun v _ => h v
  | _ => exact tame_fail_iff.mpr nofun

@[simp] theorem tame_dictOf (h : read.Tame) : (dictOf read).Tame := by
  intro v
  cases v with
  | dict fs =>
    show (entries read fs).Tame
    induction fs with
    | nil => exact tame_ok _
    | cons entry rest ih =>
      exact tame_seq_iff.mpr ⟨(tame_map_iff _).mpr (tame_field_iff.mpr (h entry.2)), ih⟩
  | _ => exact tame_fail_iff.mpr nofun

/-! ### Single values -/

@[simp] theorem tame_any : Reader.Tame any := fun _ => tame_ok _

@[simp] theorem tame_text : Reader.Tame text := by
  intro v
  cases v with
  | str s => exact tame_ok s
  | _ => exact tame_fail_iff.mpr nofun

theorem tame_wholeOfFloat (x : Float) : (wholeOfFloat x).Tame := by
  unfold wholeOfFloat
  repeat' split
  all_goals first | exact tame_ok _ | exact tame_fail_iff.mpr nofun

@[simp] theorem tame_whole : Reader.Tame whole := by
  intro v
  unfold whole
  repeat' split
  all_goals first | exact tame_ok _ | exact tame_wholeOfFloat _ | exact tame_fail_iff.mpr nofun

@[simp] theorem tame_floating : Reader.Tame floating := by
  intro v
  unfold floating
  dsimp only
  repeat' split
  all_goals first | exact tame_ok _ | exact tame_fail_iff.mpr nofun

theorem tame_truthOfWhole (n : Int) : (truthOfWhole n).Tame := by
  unfold truthOfWhole
  repeat' split
  all_goals first | exact tame_ok _ | exact tame_fail_iff.mpr nofun

@[simp] theorem tame_truth : Reader.Tame truth := by
  intro v
  unfold truth
  repeat' split
  all_goals first | exact tame_ok _ | exact tame_truthOfWhole _ | exact tame_fail_iff.mpr nofun

@[simp] theorem tame_moment : Reader.Tame moment := by
  intro v
  unfold moment
  dsimp only
  repeat' split
  all_goals first | exact tame_ok _ | exact tame_fail_iff.mpr nofun

end Reader

namespace Fields

@[simp] theorem tame_text : (fs.text name).Tame := tame_withDefault Reader.tame_text

@[simp] theorem tame_textOrNull : (fs.textOrNull name).Tame :=
  tame_withDefault (Reader.tame_orNull Reader.tame_text)

@[simp] theorem tame_texts : (fs.texts name).Tame := tame_withDefault (Reader.tame_listOf Reader.tame_text)

@[simp] theorem tame_textDict : (fs.textDict name).Tame :=
  tame_withDefault (Reader.tame_dictOf Reader.tame_text)

@[simp] theorem tame_dict : (fs.dict name).Tame := tame_withDefault (Reader.tame_dictOf Reader.tame_any)

end Fields

end Parts

/-! ### Words -/

@[simp] theorem ButtonKind.tame_reader : Reader.Tame ButtonKind.reader := by
  intro v
  unfold ButtonKind.reader
  repeat' split
  all_goals first | exact tame_ok _ | exact tame_fail_iff.mpr nofun

@[simp] theorem TimeUnit.tame_reader : Reader.Tame TimeUnit.reader := by
  intro v
  unfold TimeUnit.reader
  repeat' split
  all_goals first | exact tame_ok _ | exact tame_fail_iff.mpr nofun

@[simp] theorem Status.tame_reader : Reader.Tame Status.reader := by
  intro v
  unfold Status.reader
  repeat' split
  all_goals first | exact tame_ok _ | exact tame_fail_iff.mpr nofun

/-! ### Parts of settings -/

@[simp] theorem Settings.tame_read (known : List String) (fs : Fields) : (Settings.read known fs).Tame :=
  (tame_map_iff _).mpr Fields.tame_textOrNull

@[simp] theorem Button.tame_reader : Reader.Tame Button.reader := by simp [Button.reader]

@[simp] theorem Attachment.tame_reader : Reader.Tame Attachment.reader := by simp [Attachment.reader]

@[simp] theorem RateLimit.tame_reader : Reader.Tame RateLimit.reader := by simp [RateLimit.reader]

@[simp] theorem Scope.tame_reader : Reader.Tame Scope.reader := by simp [Scope.reader]

@[simp] theorem ConditionRule.tame_reader : Reader.Tame ConditionRule.reader := by simp [ConditionRule.reader]

@[simp] theorem DataField.tame_reader : Reader.Tame DataField.reader := by simp [DataField.reader]

@[simp] theorem Storage.tame_reader : Reader.Tame Storage.reader := by simp [Storage.reader]

@[simp] theorem Position.tame_reader : Reader.Tame Position.reader := by simp [Position.reader]

/-! ### Settings of each kind -/

@[simp] theorem TriggerSettings.tame_readRule {known : List String} {rule : Fields → Reading TriggerRule}
    {fs : Fields} (h : (rule fs).Tame) : (TriggerSettings.readRule known rule fs).Tame :=
  tame_seq_iff.mpr ⟨(tame_map_iff _).mpr (Settings.tame_read _ fs), h⟩

@[simp] theorem TriggerSettings.tame_readTagged (fs : Fields) : (TriggerSettings.readTagged fs).Tame := by
  unfold TriggerSettings.readTagged
  split <;> simp

@[simp] theorem TriggerSettings.tame_reader : Reader.Tame TriggerSettings.reader := by
  simp [TriggerSettings.reader]

@[simp] theorem MessageSettings.tame_reader : Reader.Tame MessageSettings.reader := by
  simp [MessageSettings.reader]

@[simp] theorem ReplySettings.tame_reader : Reader.Tame ReplySettings.reader := by simp [ReplySettings.reader]

@[simp] theorem ConditionSettings.tame_reader : Reader.Tame ConditionSettings.reader := by
  simp [ConditionSettings.reader]

@[simp] theorem InputSettings.tame_reader : Reader.Tame InputSettings.reader := by simp [InputSettings.reader]

@[simp] theorem CallSettings.tame_reader (method content : String) :
    Reader.Tame (CallSettings.reader method content) := by
  simp [CallSettings.reader]

@[simp] theorem DelaySettings.tame_reader : Reader.Tame DelaySettings.reader := by
  simp [DelaySettings.reader, DelaySettings.readModern]

@[simp] theorem ActionSettings.tame_reader : Reader.Tame ActionSettings.reader := by
  simp [ActionSettings.reader]

@[simp] theorem BranchSettings.tame_reader : Reader.Tame BranchSettings.reader := by
  simp [BranchSettings.reader]

@[simp] theorem Settings.tame_reader : Reader.Tame Settings.reader := by simp [Settings.reader]

/-! ### Steps -/

namespace Step

/-- The settings of every known kind of step are read tamely. -/
theorem tame_bodyOfKind? {kind : String} {read : Fields → Reading Body} (known : bodyOfKind? kind = some read)
    (fs : Fields) : (read fs).Tame := by
  unfold bodyOfKind? at known
  split at known <;> cases known
  all_goals simp

theorem tame_readWith {body : Fields → Reading Body} {fs : Fields} (h : (body fs).Tame) :
    (readWith body fs).Tame := by
  simp [readWith, h]

theorem tame_unknownBody (fs : Fields) : (unknownBody fs).Tame := by simp [unknownBody]

/-- Whether what stands for the type of a step can tell a kind. -/
def hasKind (fs : Fields) : Bool :=
  match Dict.get? fs "type" with
  | some (.list _) => false
  | some (.dict _) => false
  | _ => true

/-- **A step is without a kind** exactly if its type is a list or a dictionary. -/
theorem reader_tame_iff {fs : Fields} : (reader (.dict fs)).Tame ↔ hasKind fs = true := by
  have other : (field "unknown" (readWith unknownBody fs)).Tame :=
    tame_field_iff.mpr (tame_readWith (tame_unknownBody fs))
  unfold reader hasKind
  dsimp only
  cases Dict.get? fs "type" with
  | none => exact ⟨fun _ => rfl, fun _ => other⟩
  | some v =>
    cases v with
    | list vs => simp
    | dict inner => simp
    | str kind =>
      refine ⟨fun _ => rfl, fun _ => ?_⟩
      dsimp only
      split
      · rename_i read known
        exact tame_field_iff.mpr (tame_readWith (tame_bodyOfKind? known fs))
      · exact other
    | _ => exact ⟨fun _ => rfl, fun _ => other⟩

end Step

/-! ### Records -/

theorem Edge.tame_reader : Reader.Tame Edge.reader := by
  have whole (v : Value) : (Edge.indexReader v).Tame := by
    unfold Edge.indexReader andThen
    have read := Reader.tame_whole v
    cases found : Reader.whole v with
    | ok n =>
      dsimp only
      split
      · exact tame_ok _
      · exact tame_fail_iff.mpr nofun
    | error issues => exact tame_bad_iff.mpr (read issues found)
  have ends (fs : Fields) (name other : String) : (Edge.readEnd fs name other).Tame := by
    unfold Edge.readEnd
    split
    · exact tame_field_iff.mpr (Reader.tame_text _)
    · exact tame_field_iff.mpr (tame_fail_iff.mpr nofun)
  have button (fs : Fields) : (Edge.readButton fs).Tame := by
    unfold Edge.readButton
    split
    · exact tame_field_iff.mpr (Reader.tame_orNull whole _)
    · exact tame_ok _
  simp [Edge.reader, Edge.readerAs, ends, button]

/-- **A record** is read tamely if its steps are. -/
theorem Record.tame_readerWith {id : String} {now : Moment} {fs : Fields}
    (steps : (fs.withDefault "workflow" [] (Reader.listOf Step.reader)).Tame) :
    (Record.readerWith id now (.dict fs)).Tame := by
  simp [Record.readerWith, Reader.record, steps, Edge.tame_reader]

end Parley
