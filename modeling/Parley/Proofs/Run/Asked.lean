import Parley.Proofs.Run.Routing

/-!
# Which field a run asks for

Some steps ask for an answer, and name the field that it is for. A run goes on after such a step, so it may
ask for several fields before anybody can answer; what it asks for in the end is the field that it asked for
last. The field is handed from round to round and over delays in the state of the run, and every stretch tells
the one asked for so far. Someone who takes what each stretch tells in place of what was known before is
therefore left with the field of the last step that asked for one (`Parley.Walker.Asks.executeAll`), or with
what was known before the run if no step did.

Which steps were performed is written down by a walker that is watched (`Parley.Walker.watched`).
-/

namespace Parley

/-! ### Fields -/

/-- A field that has a name: an empty one counts as none. -/
def named (field : Option String) : Option String := field.filter (· != "")

theorem named_named (field : Option String) : named (named field) = named field := by
  cases field with
  | none => rfl
  | some name =>
    by_cases blank : name = ""
    · subst blank
      rfl
    · simp [named, Option.filter, blank]

theorem named_ne_blank (field : Option String) : named field ≠ some "" := by
  intro same
  have kept := Option.mem_filter_iff.mp same
  exact absurd kept.2 (by decide)

/-- The field that a step asks for. -/
def Step.asks? (s : Step) : Option String :=
  match s.body with
  | .input i => named i.targetField
  | _ => none

/-- The field of the last of some steps that asks for one. -/
def lastAsked (steps : List Step) : Option String := (steps.filterMap Step.asks?).getLast?

theorem lastAsked_singleton (s : Step) : lastAsked [s] = s.asks? := by
  unfold lastAsked
  cases asks : s.asks? <;> simp [asks]

theorem lastAsked_append (steps more : List Step) :
    lastAsked (steps ++ more) = (lastAsked more).or (lastAsked steps) := by
  rw [lastAsked, List.filterMap_append, List.getLast?_append]
  rfl

/-- A field that a step asks for has a name. -/
theorem named_or_lastAsked (steps : List Step) (field : Option String) :
    named ((lastAsked steps).or field) = (lastAsked steps).or (named field) := by
  cases asked : lastAsked steps with
  | none => rfl
  | some name =>
    obtain ⟨s, -, asks⟩ := List.mem_filterMap.mp (List.mem_of_getLast? asked)
    have kept : named (some name) = some name := by
      rw [← asks, Step.asks?]
      cases s.body <;> first | rfl | exact named_named _
    exact kept

/-- What is known of the field to be answered after a stretch, where `before` was known. -/
def noted (before : Option String) (r : RunResult) : Option String := (named r.awaiting).or before

namespace Walker

variable {σ : Type} {k : Walker σ} {g : Graph}

/-! ### Walkers that are watched -/

/-- The walker whose steps are written down as it performs them. -/
def watched (k : Walker σ) : Walker (σ × List Step) :=
  { perform := fun s st w =>
      let (o, v) := k.perform s st w.1
      (o, (v, w.2 ++ [s]))
    maxSteps := k.maxSteps }

/-- A walker that is watched does what it does unwatched. -/
theorem watched_over (k : Walker σ) : k.watched.Over k Prod.fst :=
  ⟨rfl, fun _ _ _ => rfl⟩

/-- A walker that is watched performs a step as it does unwatched, and the step is written down. -/
theorem exists_of_watched {st : RunState} {s : Step} {w v : σ × List Step} {o : Outcome}
    (did : k.watched.perform s st w = (o, v)) : ∃ u, k.perform s st w.1 = (o, u) ∧ v = (u, w.2 ++ [s]) := by
  cases did
  exact ⟨_, rfl, rfl⟩

/-- A walker asks for what the steps say that it performs. -/
def Asks (k : Walker σ) : Prop := ∀ s st w, named (k.perform s st w).1.awaiting = s.asks?

namespace Asks

/-- After a step the run has asked for the field of the step, or else for what it asked for before. -/
theorem leave (h : k.Asks) {s : Step} {entered : RunState} {w v : σ} {o : Outcome}
    (did : k.perform s entered w = (o, v)) :
    (entered.leave g s.id o).awaiting = s.asks?.or entered.awaiting := by
  have own := h s entered w
  rw [did] at own
  rw [← own, RunState.leave]
  cases o.awaiting with
  | none => rfl
  | some field =>
    by_cases blank : field = ""
    · subst blank
      rfl
    · simp [named, Option.filter, blank]

/-- Whether a stretch that waits hands on the field that it tells. -/
def Carries (r : RunResult) : Prop :=
  ∀ pause left, r.ending = .suspended pause left → left.awaiting = r.awaiting

/-- **What a stretch asks for** is what the last of its steps asks for that asks for something, or else what
the run has asked for before. -/
theorem walk (h : k.Asks) (st : RunState) (effects : List Effect) (w : σ × List Step) :
    ∃ done, (k.watched.walk g st effects w).2.2 = w.2 ++ done ∧
      (k.watched.walk g st effects w).1.awaiting = (lastAsked done).or st.awaiting ∧
      Carries (k.watched.walk g st effects w).1 := by
  -- a step is written down when it is performed, and leaves the state asking for its field
  have performs {st entered : RunState} {s : Step} {w v : σ × List Step} {o : Outcome}
      (goes : round k.watched.maxSteps g st = .execute s entered)
      (did : k.watched.perform s entered w = (o, v)) :
      v.2 = w.2 ++ [s] ∧ (entered.leave g s.id o).awaiting = s.asks?.or st.awaiting := by
    obtain ⟨u, did', rfl⟩ := exists_of_watched did
    rw [h.leave did', (kept_of_round goes).2]
    exact ⟨rfl, rfl⟩
  fun_induction Walker.walk k.watched g st effects w with
  | case1 => exact ⟨[], (List.append_nil _).symm, rfl, fun _ _ ending => Ending.noConfusion ending⟩
  | case2 => exact ⟨[], (List.append_nil _).symm, rfl, fun _ _ ending => Ending.noConfusion ending⟩
  | case3 st effects w s entered goes o v did left effects' seconds label waits =>
    obtain ⟨log, asks⟩ := performs goes did
    refine ⟨[s], log, by rw [lastAsked_singleton]; exact asks, ?_⟩
    rintro _ _ ⟨⟩
    rfl
  | case4 st effects w s entered goes o v did left effects' goes_on ih =>
    obtain ⟨log, asks⟩ := performs goes did
    obtain ⟨done, log', asks', carries⟩ := ih
    refine ⟨s :: done, ?_, ?_, carries⟩
    · rw [log', log, List.append_assoc]
      rfl
    · rw [asks', asks, ← List.singleton_append, lastAsked_append, lastAsked_singleton, Option.or_assoc]

/-- **What all stretches ask for**, each taken in place of the one before. -/
theorem stretches (h : k.Asks) (r : RunResult) (carries : Carries r) (w : σ × List Step) :
    ∃ done, (k.watched.stretches g r w).2.2 = w.2 ++ done ∧ ∀ before,
      (k.watched.stretches g r w).1.foldl noted before = (lastAsked done).or (noted before r) := by
  fun_induction Walker.stretches k.watched g r w with
  | case1 r w pause left waits rest v later ih =>
    obtain ⟨first, log, asks, carries'⟩ := h.walk (g := g) left [] w
    obtain ⟨more, log', asks'⟩ := ih carries'
    rw [later] at log' asks'
    refine ⟨first ++ more, ?_, fun before => ?_⟩
    · rw [log', resume, log, List.append_assoc]
    · -- the field that is told is the one that the state carries, and is told again by the next stretch
      have again : noted (noted before r) (k.watched.resume g left w).1 =
          (lastAsked first).or (noted before r) := by
        rw [noted, resume, asks, carries pause left waits, named_or_lastAsked, noted, Option.or_assoc,
          ← @Option.or_assoc _ (named r.awaiting), Option.or_self]
      rw [List.foldl_cons, asks', again, lastAsked_append, Option.or_assoc]
  | case2 r w ends => exact ⟨[], (List.append_nil _).symm, fun before => rfl⟩

/-- **What a run asks for** is the field of the last step that it performs and that asks for one, or else what
was known before. -/
theorem executeAll (h : k.Asks) (entries : List String) (message : String) (context : Context)
    (automation : String) (w : σ) (before : Option String) :
    let run := k.watched.executeAll g entries message context automation (w, [])
    run.1.foldl noted before = (lastAsked run.2.2).or before := by
  intro run
  cases entries with
  | nil =>
    have only : run = ([{ effects := [noSteps], ending := .completed }], w, []) :=
      stretches_ends fun _ _ eq => Ending.noConfusion eq
    rw [only]
    rfl
  | cons first rest =>
    let st : RunState := { automation, message, context, pending := first :: rest }
    obtain ⟨done, log, asks, carries⟩ := h.walk (g := g) st [] (w, [])
    obtain ⟨more, log', asks'⟩ := h.stretches (g := g) _ carries (k.watched.walk g st [] (w, [])).2
    have steps : run.2.2 = done ++ more := by
      rw [log, List.nil_append] at log'
      exact log'
    have told : named (k.watched.walk g st [] (w, [])).1.awaiting = lastAsked done := by
      rw [asks, named_or_lastAsked]
      exact Option.or_none
    rw [steps, lastAsked_append, Option.or_assoc, ← told]
    exact asks' before

end Asks

end Walker

/-- Every kind of step asks for what it says. -/
theorem Services.asks {σ : Type} (services : Services σ) (clock : Nat → Moment) (maxSteps : Int) :
    (services.walker clock maxSteps).Asks := by
  intro s st w
  let r : Runner σ := { services, now := clock st.executed, maxSteps }
  have alike : (s.perform r st w).1.awaiting = s.outline.awaiting :=
    congrArg OutcomeOutline.awaiting (s.perform_outline r st w)
  show named (s.perform r st w).1.awaiting = s.asks?
  rw [alike, Step.outline, Step.asks?]
  cases s.body <;> rfl

end Parley
