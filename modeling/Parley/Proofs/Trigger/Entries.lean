import Parley.Proofs.Graph.Course
import Parley.Proofs.Text.Distinct
import Parley.Trigger.Match

/-!
# Where runs enter

There are four ways in which a match comes to its entries: the steps that a message calls by a keyword,
without repetition; the step behind a trigger; the first step that is no trigger; and all such steps. In a
whole graph each of them gives different steps that are there.
-/

namespace Parley

namespace Graph

variable {g : Graph}

/-! ### The entries of a match -/

/-- Different ids, each of them that of a step. -/
structure Entrances (g : Graph) (entries : List String) : Prop where
  distinct : entries.Nodup
  present : ∀ id ∈ entries, ∃ s ∈ g.steps, s.id = id

theorem Entrances.nil : g.Entrances [] :=
  ⟨.nil, fun _ mem => absurd mem List.not_mem_nil⟩

theorem Entrances.single {id : String} (h : ∃ s ∈ g.steps, s.id = id) : g.Entrances [id] :=
  ⟨List.pairwise_singleton _ id, fun _ mem => List.mem_singleton.mp mem ▸ h⟩

/-- The ids of a whole graph are those of its steps. -/
theorem Whole.mem_ids_iff (h : g.Whole) {id : String} : id ∈ g.ids ↔ ∃ s ∈ g.steps, s.id = id := by
  rw [ids, Dict.mem_keys_iff]
  exact exists_congr fun s => h.step?_eq_some_iff

/-- The step behind a slot is there. -/
theorem Whole.exists_next (h : g.Whole) {id next : String} {slot : Option Nat}
    (leads : g.next? id slot = some next) : ∃ s ∈ g.steps, s.id = next :=
  h.mem_ids_iff.mp (h.closed.next?_mem_ids leads)

theorem Whole.entrances_after (h : g.Whole) (trigger : String) :
    g.Entrances (g.entriesAfter trigger) := by
  unfold entriesAfter
  split
  · rename_i next leads
    exact .single (h.exists_next leads)
  · cases found : g.steps.find? fun s => !s.isTrigger with
    | none => exact .nil
    | some s => exact .single ⟨s, List.mem_of_find?_eq_some found, rfl⟩

/-- The ids of some of the steps. -/
theorem Whole.entrances_filter (h : g.Whole) (keep : Step → Bool) :
    g.Entrances ((g.steps.filter keep).map (·.id)) := by
  have ids : g.steps.map (·.id) = g.ids := by
    rw [steps, ids, Dict.keys, List.map_map]
    exact List.map_congr_left fun entry mem => (h.keyed entry mem).symm
  refine ⟨(ids ▸ h.distinct).sublist (List.filter_sublist.map _), fun id mem => ?_⟩
  obtain ⟨s, kept, same⟩ := List.mem_map.mp mem
  exact ⟨s, List.mem_of_mem_filter kept, same⟩

/-- Where runs enter at steps that a message calls, without repetition. -/
theorem Whole.entrances_called (h : g.Whole) {called : List Step} (present : ∀ s ∈ called, s ∈ g.steps) :
    g.Entrances (Text.distinct (called.flatMap g.entriesAt)) := by
  refine ⟨Text.nodup_distinct _, fun id mem => ?_⟩
  obtain ⟨s, called, at_s⟩ := List.mem_flatMap.mp (Text.mem_of_mem_distinct mem)
  unfold entriesAt at at_s
  split at at_s
  · exact (h.entrances_after s.id).present id at_s
  · exact ⟨s, present s called, (List.mem_singleton.mp at_s).symm⟩

theorem Whole.entrances_matchTrigger (h : g.Whole) (everyStep : Bool) (text : String) :
    g.Entrances (g.matchTrigger everyStep text).entries := by
  unfold matchTrigger
  split
  · split
    · exact h.entrances_after _
    · exact .nil
  · by_cases asked : (everyStep && !((g.steps.filter fun s => !s.isTrigger).map (·.id)).isEmpty) = true
    · simp only [if_pos asked]
      exact h.entrances_filter _
    · simp only [if_neg asked]
      exact .nil

/-- **A message enters a whole graph at different steps that are there.** -/
theorem Whole.entrances_matchMessage (h : g.Whole) (everyStep : Bool) (message : String) :
    g.Entrances (g.matchMessage everyStep message).entries := by
  unfold matchMessage
  split
  · dsimp only
    split
    · exact .nil
    · exact h.entrances_called fun s mem => List.mem_of_mem_filter mem
  · exact h.entrances_matchTrigger everyStep _

/-- **An event enters a whole graph at different steps that are there.** -/
theorem Whole.entrances_matchEvent (h : g.Whole) (integration event : String) :
    g.Entrances (g.matchEvent integration event).entries := by
  unfold matchEvent
  split
  · split
    · exact h.entrances_after _
    · exact .nil
  · exact .nil

end Graph

end Parley
