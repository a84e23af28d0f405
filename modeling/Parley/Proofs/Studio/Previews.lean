import Parley.Proofs.Studio.History

/-!
# Open previews show what is stored

A preview is opened with the graph that is found in the store, and when its automation is replaced it goes on
with the graph of the draft, as it was built. What is stored of a draft is a record, which is written in two
steps and of which a third graph is made whenever the automation is looked up. These graphs agree, but for
fields without a meaning that are null: so whatever happens, every open preview belongs to a stored automation
and shows it as it is stored (`Parley.Studio.previews_show_stored`).

This asks that no number of a draft is infinite: an automation with such a number where it has a meaning can be
stored but not be found again, and elsewhere null is found in its place.
-/

namespace Parley

variable {σ : Type}

/-! ### Graphs that agree -/

/-- **Graphs that agree**: their steps have the same ids in the same order and are the same but for null fields
without a meaning, and they have the same edges in the same order. -/
structure Graph.Agrees (g g' : Graph) : Prop where
  ids : g.ids = g'.ids
  edges : g.edges = g'.edges
  steps : g.steps.map Step.withoutNulls = g'.steps.map Step.withoutNulls

theorem Graph.Agrees.refl (g : Graph) : g.Agrees g := ⟨rfl, rfl, rfl⟩

/-- A finite graph agrees with the one that is found after it was stored. -/
theorem Graph.agrees_tidied_tidied {g : Graph} (finite : g.FiniteUntyped) : g.Agrees g.tidied.tidied where
  ids := ids_tidied_tidied.symm
  edges := rfl
  steps := by
    rw [steps_tidied_tidied finite, List.map_map]
    exact List.map_congr_left fun s _ => Step.withoutNulls_withoutNulls.symm

/-! ### Finite drafts -/

/-- Whether the numbers of all steps of a draft that can be read are finite, with a meaning or without. -/
def Draft.Finite (d : Draft) : Prop :=
  ∀ fs ∈ d.workflow, ∀ t ∈ (Step.reader (.dict fs)).toOption, t.Legible ∧ t.FiniteUntyped

/-- Whether a happening brings finite drafts only. -/
def Happening.Finite (h : Happening) : Prop := ∀ d ∈ h.action?.bind Action.draft?, d.Finite

instance (s : Step) : Decidable s.FiniteUntyped :=
  inferInstanceAs (Decidable (∀ fs ∈ s.untyped, Value.fieldsFinite fs = true))

instance (d : Draft) : Decidable d.Finite :=
  inferInstanceAs (Decidable (∀ fs ∈ d.workflow, ∀ t ∈ (Step.reader (.dict fs)).toOption,
    t.Legible ∧ t.FiniteUntyped))

instance (h : Happening) : Decidable h.Finite :=
  inferInstanceAs (Decidable (∀ d ∈ h.action?.bind Action.draft?, d.Finite))

namespace Studio

/-- The graph of a finite draft is finite. -/
theorem Drafted.finite {d : Draft} {g : Graph} (made : Drafted d g) (finite : d.Finite) :
    g.Legible ∧ g.FiniteUntyped := by
  have each : ∀ s ∈ g.steps, s.Legible ∧ s.FiniteUntyped := by
    intro s mem
    obtain ⟨fs, there, t, read, same⟩ := made.steps s mem
    rw [Step.legible_of_detached same, Step.finiteUntyped_of_detached same]
    exact finite fs there t (by rw [read]; exact rfl)
  exact ⟨fun s mem => (each s mem).1, fun s mem => (each s mem).2⟩

/-! ### Previews that show what is stored -/

/-- Whether a session shows an automation as it is stored. -/
def Shows (live : Dict Record) (session : Session) : Prop :=
  ∃ r g, live.get? session.automation = some r ∧ Graph.ofRecord r = .ok g ∧ session.graph.Agrees g

/-- **A faithful studio**: all its records can be read, and its previews show what is stored. -/
structure Faithful (s : Studio) (live : Dict Record) : Prop where
  legible : ∀ entry ∈ live, entry.2.Legible
  shows : ∀ entry ∈ s.previews, Shows live entry.2

variable {k : Workshop σ} {o : Occasion} {s s' : Studio} {live live' : Dict Record} {issued : List String}
  {w w' : σ} {h : Happening}

/-- What is stored under another id does not matter to a session. -/
theorem Shows.put {session : Session} (shows : Shows live session) {id : String} (stored : Record)
    (other : session.automation ≠ id) : Shows (live.put id stored) session := by
  obtain ⟨r, g, there, made, agrees⟩ := shows
  exact ⟨r, g, by rw [Dict.get?_put, if_neg other, there], made, agrees⟩

/-- A session that shows the graph of a finite draft shows what is stored of it. -/
theorem shows_stored {d : Draft} {g : Graph} (made : Drafted d g) (finite : d.Finite) {session : Session}
    {r : Record} {now : Moment} {found : Option Record} (same : session.graph = g) :
    Shows (live.put session.automation (g.stored r now found)) session := by
  refine ⟨_, _, by rw [Dict.get?_put, if_pos rfl], made.whole.ofRecord_stored made.mutable, ?_⟩
  rw [same]
  exact Graph.agrees_tidied_tidied (made.finite finite).2

/-- **A deed keeps a studio faithful.** -/
theorem Faithful.deed (faithful : s.Faithful live) (sound : s.Sound live issued) (fresh : o.freshId ∉ issued)
    (finite : h.Finite) (deed : Deed k o s live w h s' live' w') : s'.Faithful live' := by
  -- what is stored of a finite draft can be read
  have legible {d : Draft} {g : Graph} {id : String} {r : Record} {found : Option Record}
      (made : graphOf d = .ok g) (finite : d.Finite) :
      ∀ entry ∈ live.put id (g.stored r o.now found), entry.2.Legible := by
    intro entry mem
    rcases (Dict.mem_put sound.holds.distinct).mp mem with rfl | ⟨old, -⟩
    · exact Graph.legible_stored.mpr ((drafted_of_graphOf made).finite finite).1
    · exact faithful.legible entry old
  cases deed with
  | nothing => exact faithful
  | created asked made =>
    refine ⟨legible made (finite _ (by rw [asked]; exact rfl)), fun entry mem => ?_⟩
    have shows := faithful.shows entry mem
    refine shows.put _ ?_
    -- a new id is none of an automation that a preview belongs to
    rintro same
    obtain ⟨r, -, there, -⟩ := shows
    exact fresh (sound.issuedLive _ (same ▸ Dict.mem_keys_of_get? there))
  | @replaced id _ _ g asked there readable made =>
    have finite_draft := finite _ (by rw [asked]; exact rfl)
    refine ⟨legible made finite_draft, fun entry mem => ?_⟩
    obtain ⟨old, among, rfl⟩ := List.mem_map.mp mem
    by_cases own : old.2.automation = id
    · subst own
      rw [if_pos (beq_self_eq_true _)]
      have same : ({ old.2 with graph := g } : Session).graph = g := rfl
      exact shows_stored (drafted_of_graphOf made) finite_draft same
    · rw [if_neg (by simpa using own)]
      exact (faithful.shows old among).put _ own
  | @deleted id asked there =>
    refine ⟨fun entry mem => faithful.legible entry (Dict.mem_erase.mp mem).1, fun entry mem => ?_⟩
    obtain ⟨among, other⟩ := List.mem_filter.mp mem
    obtain ⟨r, g, there, made, agrees⟩ := faithful.shows entry among
    exact ⟨r, g, by rw [Dict.get?_erase, if_neg (by simpa using other), there], made, agrees⟩
  | opened asked there made =>
    refine ⟨faithful.legible, fun entry mem => ?_⟩
    rcases (Dict.mem_put sound.distinct).mp mem with rfl | ⟨old, -⟩
    · exact ⟨_, _, there, made, .refl _⟩
    · exact faithful.shows entry old
  | @gestured id gesture before after _ asked present done =>
    refine ⟨faithful.legible, fun entry mem => ?_⟩
    rcases (Dict.mem_put sound.distinct).mp mem with rfl | ⟨old, -⟩
    · obtain ⟨graph, automation⟩ := Session.move_keeps done
      have same : gesture.move.graphAfter before.graph = before.graph := by cases gesture <;> rfl
      obtain ⟨r, g, there, made, agrees⟩ := faithful.shows _ (Dict.mem_of_get? present)
      exact ⟨r, g, automation ▸ there, made, by rw [graph, same]; exact agrees⟩
    · exact faithful.shows entry old
  | conversed time known => exact ⟨faithful.legible, faithful.shows⟩

/-- **Open previews show what is stored.** After any history from the start on, in which no number of a draft is
infinite, every open preview belongs to a stored automation, and its graph agrees with the one that is made of
the stored record: it has the same step ids and the same edges in the same order, and its steps are the same but
for null fields without a meaning. -/
theorem previews_show_stored (k : Workshop σ) (history : List (Occasion × Happening)) (w : σ)
    (proper : ∀ h ∈ history, h.1.Proper) (fresh : (history.map (·.1.freshId)).Nodup)
    (finite : ∀ h ∈ history, h.2.Finite) :
    let s := (happenings {} k history w).1
    ∀ entry ∈ s.previews, ∃ r g, s.store.loadGraph entry.2.automation = .ok (some (r, g)) ∧
      entry.2.graph.ids = g.ids ∧ entry.2.graph.edges = g.edges ∧
      entry.2.graph.steps.map Step.withoutNulls = g.steps.map Step.withoutNulls := by
  intro s entry mem
  have start : Faithful {} [] := ⟨nofun, nofun⟩
  obtain ⟨live, sound, faithful⟩ := happenings_induction
    (motive := fun s live _ => s.Faithful live) (k := k) (w := w) Sound.empty start proper fresh nofun
    fun sound fresh _ mem deed faithful => faithful.deed sound fresh (finite _ mem) deed
  obtain ⟨r, g, there, made, ids, edges, steps⟩ := faithful.shows entry mem
  have legible := faithful.legible _ (Dict.mem_of_get? there)
  exact ⟨r, g, sound.holds.loadGraph_legible there legible (sound.stored_of_get? there).settings made, ids,
    edges, steps⟩

/-- The preview shows the steps of the replaced automation. -/
theorem previews_show_stored_rehearsal :
    let s := (happenings {} idle rehearsal 0).1
    (s.previews.map fun entry => (entry.1, entry.2.automation, entry.2.graph.ids)) =
      [("two", "one", ["hi", "bye"])] ∧
    ∃ r g, s.store.loadGraph "one" = .ok (some (r, g)) ∧ g.ids = ["hi", "bye"] := by
  intro s
  have shown : (s.previews.map fun entry => (entry.1, entry.2.automation, entry.2.graph.ids)) =
      [("two", "one", ["hi", "bye"])] := by decide +kernel
  obtain ⟨entry, mem, same⟩ :=
    List.mem_map.mp (shown ▸ List.mem_singleton_self ("two", "one", ["hi", "bye"]))
  obtain ⟨r, g, loaded, ids, -⟩ := previews_show_stored idle rehearsal 0 (by decide +kernel)
    (by decide +kernel) (by decide +kernel) entry mem
  obtain ⟨-, automation, shows⟩ : _ ∧ entry.2.automation = "one" ∧ entry.2.graph.ids = ["hi", "bye"] := by
    simpa only [Prod.mk.injEq] using same
  exact ⟨shown, r, g, automation ▸ loaded, ids.symm.trans shows⟩

end Studio

end Parley
