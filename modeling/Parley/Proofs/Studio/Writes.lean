import Parley.Proofs.Studio.History

/-!
# Writing automations

An automation is written whole or not at all. When one is created or replaced, either the draft is stored and
the answer shows the record, or the request is refused and everything is as it was
(`Parley.Studio.writes_whole_or_not`).

There is no answer at all in two cases. A draft with a step of no kind is neither stored nor refused. And a step
may hold an infinite number where it has a meaning: then the draft is stored, but the record cannot be written
into the answer, nor is it found again.
-/

namespace Parley

variable {σ : Type}

/-! ### Answers that can be written -/

namespace Value

mutual

/-- **No infinite number** is found in a document exactly if it is finite. -/
theorem infinite?_eq_none_iff (v : Value) : v.infinite? = none ↔ v.isFinite = true := by
  cases v with
  | float x =>
    simp only [infinite?, isFinite]
    cases x.isFinite <;> simp
  | list items => simp only [infinite?, isFinite, infiniteItem?_eq_none_iff items]
  | dict fields => simp only [infinite?, isFinite, infiniteField?_eq_none_iff fields]
  | null => simp only [infinite?, isFinite]
  | bool b => simp only [infinite?, isFinite]
  | int n => simp only [infinite?, isFinite]
  | str s => simp only [infinite?, isFinite]

theorem infiniteItem?_eq_none_iff (items : List Value) :
    infiniteItem? items = none ↔ itemsFinite items = true := by
  cases items with
  | nil => simp only [infiniteItem?, itemsFinite]
  | cons item rest =>
    simp only [infiniteItem?, itemsFinite, Option.or_eq_none_iff, Bool.and_eq_true,
      infinite?_eq_none_iff item, infiniteItem?_eq_none_iff rest]

theorem infiniteField?_eq_none_iff (fields : Fields) :
    infiniteField? fields = none ↔ fieldsFinite fields = true := by
  match fields with
  | [] => simp only [infiniteField?, fieldsFinite]
  | (key, value) :: rest =>
    simp only [infiniteField?, fieldsFinite, Option.or_eq_none_iff, Bool.and_eq_true,
      infinite?_eq_none_iff value, infiniteField?_eq_none_iff rest]

end

end Value

/-- **A record is written without infinite numbers** exactly if it is legible. -/
theorem Record.isFinite_write (r : Record) : r.write.isFinite = true ↔ r.Legible := by
  have steps : Value.itemsFinite (r.workflow.map (Step.write .full)) = true ↔ r.Legible := by
    rw [Value.itemsFinite_eq_all, List.all_map, List.all_eq_true]
    exact forall₂_congr fun s _ => by rw [Function.comp_apply, s.isFinite_write, List.all_eq_true, Step.Legible]
  have edges : Value.itemsFinite (r.connections.map (Edge.write .full)) = true :=
    Value.itemsFinite_map fun e _ => e.isFinite_write
  simp [write, fields, Value.isFinite, Value.fieldsFinite, Value.fieldsFinite_finiteFields, steps, edges]

/-- An answer that shows a legible record can be written. -/
theorem Answer.written_of_legible {r : Record} (legible : r.Legible) (status : Nat) :
    Answer.written ⟨status, r.write⟩ = .ok ⟨status, r.write⟩ := by
  rw [written, (Value.infinite?_eq_none_iff _).mpr ((Record.isFinite_write r).mpr legible)]

/-- An answer that shows a record that is not legible cannot be written. -/
theorem Answer.written_of_illegible {r : Record} (illegible : ¬r.Legible) (status : Nat) :
    ∃ x, Answer.written ⟨status, r.write⟩ = .error (.unwritable x) := by
  cases first : r.write.infinite? with
  | none => exact absurd ((Record.isFinite_write r).mp ((Value.infinite?_eq_none_iff _).mp first)) illegible
  | some x => exact ⟨x, by rw [written, first]⟩

namespace Studio

/-! ### What is written -/

/-- **What writing an automation does** if its draft makes a graph: the status for its success, the record that
is stored, and the studio after it. -/
inductive Writes (s : Studio) (o : Occasion) : Action → Nat → Record → Studio → Prop where
  | created {d : Draft} {g : Graph} (made : graphOf d = .ok g) :
      Writes s o (.create d) 201 (g.stored (d.begun o) o.now none)
        (s.storing (g.stored (d.begun o) o.now none))
  | replaced {id : String} {d : Draft} {r : Record} {g back : Graph} (found : s.find id = .ok (r, back))
      (made : graphOf d = .ok g) :
      Writes s o (.replace id d) 200 (g.stored (d.revised r) o.now (some r))
        ((s.storing (g.stored (d.revised r) o.now (some r))).showing id g)

variable {s s' : Studio} {live : Dict Record} {issued : List String} {o : Occasion} {a : Action} {d : Draft}
  {status : Nat} {r : Record} {k : Workshop σ} {w : σ}

namespace Writes

/-- A record that is not legible is one of a draft with a step that is not. -/
theorem exists_of_illegible (wrote : s.Writes o a status r s') (drafted : a.draft? = some d)
    (illegible : ¬r.Legible) :
    ∃ fs ∈ d.workflow, ∃ t, Step.reader (.dict fs) = .ok t ∧ ¬t.Legible := by
  have some_step {d : Draft} {g : Graph} {r : Record} {found : Option Record} (made : graphOf d = .ok g)
      (illegible : ¬(g.stored r o.now found).Legible) :
      ∃ fs ∈ d.workflow, ∃ t, Step.reader (.dict fs) = .ok t ∧ ¬t.Legible := by
    rw [Graph.legible_stored, Graph.Legible] at illegible
    push Not at illegible
    obtain ⟨step, mem, bad⟩ := illegible
    obtain ⟨fs, there, t, read, same⟩ := (drafted_of_graphOf made).steps step mem
    exact ⟨fs, there, t, read, fun legible => bad ((Step.legible_of_detached same).mpr legible)⟩
  cases wrote with
  | created made =>
    cases drafted
    exact some_step made illegible
  | replaced found made =>
    cases drafted
    exact some_step made illegible

/-- **What is written is stored**: it is live under its id. -/
theorem sound (wrote : s.Writes o a status r s') (sound : s.Sound live issued) (proper : o.Proper)
    (fresh : o.freshId ∉ issued) :
    ∃ live' issued', s'.Sound live' issued' ∧ live'.get? r.id = some r := by
  cases wrote with
  | created made =>
    refine ⟨_, _, sound.created proper fresh made, ?_⟩
    rw [Graph.id_stored]
    exact Dict.get?_put.trans (if_pos rfl)
  | @replaced id d old g back found made =>
    obtain ⟨there, legible, -⟩ := sound.find_eq_ok.mp found
    refine ⟨_, _, sound.replaced proper.clock there legible made, ?_⟩
    obtain ⟨rfl, -, -⟩ := sound.holds.own_of_get? there
    rw [Graph.id_stored]
    exact Dict.get?_put.trans (if_pos rfl)

end Writes

/-- **Writing an automation** stores the draft, refuses it, or breaks off at a step without a kind. -/
theorem Sound.act_of_draft (sound : s.Sound live issued) (proper : o.Proper) (fresh : o.freshId ∉ issued)
    (drafted : a.draft? = some d) :
    (∃ status r s', s.Writes o a status r s' ∧ s.act k o a w = (.ok ⟨status, r.write⟩, s', w)) ∨
      (∃ reason : Refusal, s.act k o a w = (.error (.refused reason), s, w) ∧
        (reason.status = 422 ∨
          reason.status = 404 ∧ ∃ id, a = .replace id d ∧ ∀ r, s.store.load id ≠ .ok (some r))) ∨
      s.act k o a w = (.error (.failed .untaggable), s, w) ∧ ∃ fs ∈ d.workflow, Step.hasKind fs = false := by
  -- a draft that makes no graph is refused or has a step without a kind, whatever it is for
  have unmade {t : Trouble} (fails : graphOf d = .error t) (acts : s.act k o a w = (.error t, s, w)) :
      (∃ reason : Refusal, s.act k o a w = (.error (.refused reason), s, w) ∧
        (reason.status = 422 ∨
          reason.status = 404 ∧ ∃ id, a = .replace id d ∧ ∀ r, s.store.load id ≠ .ok (some r))) ∨
      s.act k o a w = (.error (.failed .untaggable), s, w) ∧ ∃ fs ∈ d.workflow, Step.hasKind fs = false := by
    rcases graphOf_eq_error fails with ⟨reason, rfl, unprocessable⟩ | ⟨rfl, kindless⟩
    · exact .inl ⟨reason, acts, .inl unprocessable⟩
    · exact .inr ⟨acts, kindless⟩
  cases a with
  | create draft =>
    cases drafted
    cases made : graphOf d with
    | error t => exact .inr (unmade made (by simp only [act, create_of_error made]))
    | ok g =>
      refine .inl ⟨201, _, _, .created made, ?_⟩
      simp only [act, sound.create_eq proper fresh made]
  | replace id draft =>
    cases drafted
    cases found : s.find id with
    | error t =>
      obtain rfl := sound.find_eq_error found
      refine .inr (.inl ⟨.noAutomation, ?_, .inr ⟨rfl, id, rfl, sound.load_ne_some found⟩⟩)
      simp only [act, replace_of_missing found]
    | ok both =>
      obtain ⟨old, back⟩ := both
      cases made : graphOf d with
      | error t => exact .inr (unmade made (by simp only [act, replace_of_error found made]))
      | ok g =>
        obtain ⟨there, legible, -⟩ := sound.find_eq_ok.mp found
        refine .inl ⟨200, _, _, .replaced found made, ?_⟩
        simp only [act, sound.replace_eq proper.clock there legible made]
  | _ => cases drafted

/-- **An automation is written whole or not at all.** After any history from the start on, a request to create
or replace an automation that is understood ends in one of four ways. The draft is stored, the answer shows the
record, and it is found from then on; or the request is refused, for what is sent or because no record can be
loaded under the id, and the studio is as it was. There may be no answer if a step of the draft has no kind:
then the studio is as it was, too. And there may be none if a step holds an infinite number where it has a
meaning: only then the draft has been stored all the same. -/
theorem writes_whole_or_not (k : Workshop σ) (history : List (Occasion × Happening)) (w₀ : σ)
    (proper : ∀ h ∈ history, h.1.Proper) (fresh : (history.map (·.1.freshId)).Nodup) (o : Occasion)
    (proper_now : o.Proper) (fresh_now : o.freshId ∉ history.map (·.1.freshId)) (request : Request) (a : Action)
    (d : Draft) (understood : request.action = .ok a) (drafted : a.draft? = some d) :
    let s := (happenings {} k history w₀).1
    let w := (happenings {} k history w₀).2
    let done := s.handle (k.atTime o.now) o request w
    (∃ status r s' g, s.Writes o a status r s' ∧ s'.find r.id = .ok (r, g) ∧
        done = (.ok ⟨status, r.write⟩, s', w)) ∨
      (∃ reason : Refusal, done = (.ok reason.answer, s, w) ∧
        (reason.status = 422 ∨
          reason.status = 404 ∧ ∃ id, a = .replace id d ∧ ∀ r, s.store.load id ≠ .ok (some r))) ∨
      (done = (.error .untaggable, s, w) ∧ ∃ fs ∈ d.workflow, Step.hasKind fs = false) ∨
      ∃ status r s' x, s.Writes o a status r s' ∧ done = (.error (.unwritable x), s', w) ∧
        ∃ fs ∈ d.workflow, ∃ t, Step.reader (.dict fs) = .ok t ∧ ¬t.Legible := by
  intro s w done
  obtain ⟨live, sound⟩ := sound_of_happenings k w₀ proper fresh
  have new : o.freshId ∉ (history.map (·.1.freshId)).reverse := by simpa using fresh_now
  rcases sound.act_of_draft (k := k.atTime o.now) (w := w) proper_now new drafted with
    ⟨status, r, s', wrote, acts⟩ | ⟨reason, acts, why⟩ | ⟨acts, kindless⟩
  · by_cases legible : r.Legible
    · obtain ⟨live', issued', sound', there⟩ := wrote.sound sound proper_now new
      obtain ⟨g, made⟩ := (sound'.stored_of_get? there).graph
      refine .inl ⟨status, r, s', g, wrote, sound'.find_eq_ok.mpr ⟨there, legible, made⟩, ?_⟩
      exact (handle_of_ok understood acts).trans (by rw [Answer.written_of_legible legible])
    · obtain ⟨x, unwritten⟩ := Answer.written_of_illegible legible status
      refine .inr (.inr (.inr ⟨status, r, s', x, wrote, ?_, wrote.exists_of_illegible drafted legible⟩))
      exact (handle_of_ok understood acts).trans (by rw [unwritten])
  · exact .inr (.inl ⟨reason, handle_of_error understood acts, why⟩)
  · exact .inr (.inr (.inl ⟨handle_of_error understood acts, kindless⟩))

/-- A step of no kind is not answered, and the automation and its preview stay as they were. -/
theorem writes_whole_or_not_rehearsal :
    let s := (happenings {} idle rehearsal 0).1
    let o : Occasion := ⟨⟨3, none⟩, "four"⟩
    let steps : Value := .list [.dict [("id", .str "hi"), ("type", .list [])]]
    let request : Request :=
      { method := "PUT", path := ["api", "automations", "one"], body := .dict [("workflow", steps)] }
    s.handle (idle.atTime o.now) o request 0 = (.error .untaggable, s, 0) := by
  intro s o steps request
  let d : Draft := { workflow := [[("id", .str "hi"), ("type", .list [])]] }
  have understood : request.action = .ok (.replace "one" d) := rfl
  have still : (happenings {} idle rehearsal 0).2 = 0 := by decide +kernel
  have of_check : ∀ result : Except Fault Answer,
      (match result with
        | .error .untaggable => true
        | _ => false) = true → result = .error .untaggable := by
    intro result check
    split at check
    · rfl
    · cases check
  have unanswered : (s.handle (idle.atTime o.now) o request 0).1 = .error .untaggable :=
    of_check _ (by decide +kernel)
  have ways := writes_whole_or_not idle rehearsal 0 (by decide +kernel) (by decide +kernel) o
    (by decide +kernel) (by decide +kernel) request (.replace "one" d) d understood rfl
  rw [still] at ways
  rcases ways with ⟨_, _, _, _, -, -, done⟩ | ⟨_, done, -⟩ | ⟨done, -⟩ | ⟨_, _, _, _, -, done, -⟩
  · have answered := congrArg Prod.fst done
    cases unanswered.symm.trans answered
  · have answered := congrArg Prod.fst done
    cases unanswered.symm.trans answered
  · exact done
  · have unwritten := congrArg Prod.fst done
    cases unanswered.symm.trans unwritten

end Studio

end Parley
