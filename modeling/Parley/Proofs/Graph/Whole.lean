import Parley.Proofs.Graph.Changes
import Parley.Proofs.List

/-!
# Whole graphs

A graph tells where it leads twice: in its list of edges, and again in its buttons, which show the
target of the edge that starts at them. `Parley.Graph.Whole` says that the two accounts agree and that
neither of them speaks of anything that is not there. It holds of the empty graph, every change that
succeeds keeps it, and a change that fails leaves the graph as it is, so it holds after every sequence
of changes (`Parley.Graph.Whole.edits`).

The changes are taken apart by the equivalences of `Parley.Proofs.Graph.Changes`. What is left for each
of them is a statement about a filtered or a longer list of edges and a dictionary of steps with one
entry changed, and the one clause with any substance is the last: a button shows what it should because
the edges that leave *other* slots do not matter to it.
-/

namespace Parley.Graph

variable {g g' : Graph} {s stored : Step} {id source target : String} {button : Option Int}
  {slot : Option Nat} {e : Edge}

/-- **A whole graph**: steps stand under their own ids, edges join different steps that are there, no
two edges are alike, edges of buttons start at automation buttons and no two at the same one, and every
button shows where the edge that starts at it leads. -/
structure Whole (g : Graph) : Prop where
  /-- Every step stands under its own id. -/
  keyed : ∀ entry ∈ g.table, entry.1 = entry.2.id
  /-- No id stands for two steps. -/
  distinct : g.ids.Nodup
  /-- Every edge joins two different steps. -/
  joined : ∀ e ∈ g.edges, e.source ∈ g.ids ∧ e.target ∈ g.ids ∧ e.source ≠ e.target
  /-- No two edges have the same ends and the same slot. -/
  unlike : g.edges.Pairwise fun a b => a.sameLink b = false
  /-- An edge of a button starts at an automation button of a message. -/
  anchored : ∀ e ∈ g.edges, ∀ i, e.button = some i →
    ∃ s, g.step? e.source = some s ∧ buttonFault? s i = none
  /-- No two edges start at the same button. -/
  single : ∀ id i, (g.successors id (some i)).length ≤ 1
  /-- Edges made by changes carry no label. -/
  unlabelled : ∀ e ∈ g.edges, e.label = none
  /-- Steps have no connections of their own. -/
  bare : ∀ s ∈ g.steps, s.connections = []
  /-- Every button shows where the edge that starts at it leads. -/
  mirrored : ∀ s ∈ g.steps, ∀ i b, s.buttons[i]? = some b → b.connectedTo = g.next? s.id (some i)

/-! ### Steps and slots -/

theorem mem_steps : s ∈ g.steps ↔ ∃ id, (id, s) ∈ g.table := by
  simp only [steps, List.mem_map, Prod.exists, exists_eq_right]

/-- Where a slot leads depends on the edges that leave it and on nothing else. -/
theorem next?_congr (h : g'.successors id slot = g.successors id slot) :
    g'.next? id slot = g.next? id slot := by
  rw [next?, next?, h]

/-- The edge behind the place where a slot leads. -/
theorem exists_edge_of_next? (h : g.next? id slot = some target) :
    ∃ e ∈ g.edges, e.source = id ∧ e.button = slot ∧ e.target = target := by
  rw [next?, Option.map_eq_some_iff] at h
  obtain ⟨e, first, rfl⟩ := h
  have mem := List.mem_of_mem_head? first
  simp only [successors, List.mem_filter, Bool.and_eq_true, beq_iff_eq] at mem
  exact ⟨e, mem.1, mem.2.1, mem.2.2, rfl⟩

namespace Whole

/-- **The step of an id** in a whole graph. -/
theorem step?_eq_some_iff (h : g.Whole) : g.step? id = some s ↔ s ∈ g.steps ∧ s.id = id := by
  rw [step?, Dict.get?_eq_some_iff h.distinct, mem_steps]
  refine ⟨fun mem => ⟨⟨id, mem⟩, (h.keyed _ mem).symm⟩, ?_⟩
  rintro ⟨⟨key, mem⟩, rfl⟩
  rwa [← h.keyed _ mem]

/-- No edge leaves what is not a step. -/
theorem successors_eq_nil (h : g.Whole) (absent : id ∉ g.ids) : g.successors id slot = [] := by
  rw [successors, List.filter_eq_nil_iff]
  intro e mem out
  simp only [Bool.and_eq_true, beq_iff_eq] at out
  exact absent (out.1 ▸ (h.joined e mem).1)

theorem next?_eq_none (h : g.Whole) (absent : id ∉ g.ids) : g.next? id slot = none := by
  rw [next?, h.successors_eq_nil absent]
  rfl

/-- An edge of a button is the only one of its slot. -/
theorem successors_eq_singleton (h : g.Whole) {i : Nat} (mem : e ∈ g.edges) (of : e.button = some i) :
    g.successors e.source (some i) = [e] := by
  have there : e ∈ g.successors e.source (some i) := by
    simp only [successors, List.mem_filter, mem, of, beq_self_eq_true, Bool.and_self, and_self]
  have few := h.single e.source i
  obtain ⟨x, only⟩ : ∃ x, g.successors e.source (some i) = [x] := by
    refine List.length_eq_one_iff.mp ?_
    have := List.length_pos_of_mem there
    omega
  rw [only, List.mem_singleton] at there
  rw [only, there]

theorem empty : Whole {} where
  keyed := fun _ mem => absurd mem List.not_mem_nil
  distinct := List.nodup_nil
  joined := fun _ mem => absurd mem List.not_mem_nil
  unlike := List.Pairwise.nil
  anchored := fun _ mem => absurd mem List.not_mem_nil
  single := fun _ _ => Nat.zero_le 1
  unlabelled := fun _ mem => absurd mem List.not_mem_nil
  bare := fun _ mem => absurd mem List.not_mem_nil
  mirrored := fun _ mem => absurd mem List.not_mem_nil

/-! ### Adding and replacing a step -/

/-- A step that comes in has no edge yet, and its buttons lead nowhere. -/
theorem addStep (h : g.Whole) {step : Reading Step} (ok : g.addStep step = .ok (g', stored)) :
    g'.Whole := by
  obtain ⟨s, -, -, absent, rfl, rfl⟩ := addStep_eq_ok.mp ok
  have table : g.table.put s.id s.detached = g.table ++ [(s.id, s.detached)] :=
    Dict.put_of_not_mem absent
  have old : ∀ {id}, id ∈ g.ids → id ∈ (g.table.put s.id s.detached).keys := fun mem =>
    Dict.mem_keys_put.mpr (Or.inr mem)
  have steps : ∀ {t}, t ∈ Graph.steps { g with table := g.table.put s.id s.detached } →
      t ∈ g.steps ∨ t = s.detached := by
    intro t mem
    obtain ⟨id, there⟩ := mem_steps.mp mem
    rw [table, List.mem_append, List.mem_singleton] at there
    exact there.imp (fun there => mem_steps.mpr ⟨id, there⟩) fun same => (Prod.mk.inj same).2
  refine ⟨?_, Dict.nodup_keys_put h.distinct, ?_, h.unlike, ?_, h.single, h.unlabelled, ?_, ?_⟩
  · intro entry mem
    rw [table, List.mem_append, List.mem_singleton] at mem
    rcases mem with mem | rfl
    · exact h.keyed entry mem
    · exact Step.id_detached.symm
  · intro e mem
    obtain ⟨source, target, apart⟩ := h.joined e mem
    exact ⟨old source, old target, apart⟩
  · -- the new step is none that an edge starts at
    intro e mem i of
    obtain ⟨t, found, free⟩ := h.anchored e mem i of
    refine ⟨t, ?_, free⟩
    have other : e.source ≠ s.id := fun same => absent (same ▸ (h.joined e mem).1)
    rwa [step?, Dict.get?_put, if_neg other]
  · intro t mem
    rcases steps mem with mem | rfl
    · exact h.bare t mem
    · rfl
  · intro t mem i b at_i
    rcases steps mem with mem | rfl
    · exact h.mirrored t mem i b at_i
    · -- the new buttons lead nowhere, and no edge leaves a step that was not there
      rw [Step.buttons_detached, List.getElem?_map, Option.map_eq_some_iff] at at_i
      obtain ⟨a, -, rfl⟩ := at_i
      have leads : g.next? s.detached.id (some i) = none := by
        rw [Step.id_detached]
        exact h.next?_eq_none absent
      exact leads.symm

/-- An edge that does not start at the replaced step survives. -/
theorem survives_of_ne (other : e.source ≠ s.id) : survives s e = true := by
  simp [survives, other]

/-- An edge of a button of the replaced step survives only if the button still has a place for it. -/
theorem buttonFault?_of_survives {i : Nat} (stays : survives s e = true) (from_s : e.source = s.id)
    (of : e.button = some i) : buttonFault? s i = none := by
  simpa [survives, from_s, of] using stays

/-- A step with its buttons set from the edges of a graph shows where these lead. -/
theorem mirrored_attached {i : Nat} {b : Button} (at_i : (attached g.edges s).buttons[i]? = some b) :
    b.connectedTo = g.next? s.id (some i) := by
  rw [buttons_attached, List.getElem?_mapIdx, Option.map_eq_some_iff] at at_i
  obtain ⟨a, -, rfl⟩ := at_i
  rw [next?, successors, List.head?_filter]

/-- A step keeps the edges for which it still has buttons, and its buttons show them. -/
theorem updateStep (h : g.Whole) {step : Reading Step} (ok : g.updateStep step = .ok (g', stored)) :
    g'.Whole := by
  obtain ⟨s, current, -, -, present, -, eq, rfl⟩ := updateStep_eq_ok.mp ok
  have id_stored : stored.id = s.id := by rw [eq, id_attached, Step.id_detached]
  have kinds : ∀ {i}, buttonFault? s i = none → buttonFault? stored i = none := by
    intro i free
    refine buttonFault?_eq_none_of_kinds free ?_ ?_
    · rw [eq, isMessage_attached, Step.isMessage_detached]
    · rw [eq, kind_attached, kind_detached]
  have old : ∀ {id}, id ∈ g.ids → id ∈ (g.table.put s.id stored).keys := fun mem =>
    Dict.mem_keys_put.mpr (Or.inr mem)
  have steps : ∀ {t}, t ∈ Graph.steps
      { g with table := g.table.put s.id stored, edges := g.edges.filter (survives s) } →
      t = stored ∨ (t ∈ g.steps ∧ t.id ≠ s.id) := by
    intro t mem
    obtain ⟨id, there⟩ := mem_steps.mp mem
    refine ((Dict.mem_put h.distinct).mp there).imp (fun same => (Prod.mk.inj same).2) ?_
    rintro ⟨there, other⟩
    exact ⟨mem_steps.mpr ⟨id, there⟩, h.keyed _ there ▸ other⟩
  refine ⟨?_, Dict.nodup_keys_put h.distinct, ?_, h.unlike.filter _, ?_, ?_, ?_, ?_, ?_⟩
  · intro entry mem
    rcases (Dict.mem_put h.distinct).mp mem with rfl | ⟨mem, -⟩
    · exact id_stored.symm
    · exact h.keyed entry mem
  · intro e mem
    obtain ⟨source, target, apart⟩ := h.joined e (List.mem_of_mem_filter mem)
    exact ⟨old source, old target, apart⟩
  · intro e mem i of
    obtain ⟨mem, stays⟩ := List.mem_filter.mp mem
    by_cases from_s : e.source = s.id
    · -- an edge of the replaced step survives only where the new one has a button for it
      refine ⟨stored, ?_, kinds (buttonFault?_of_survives stays from_s of)⟩
      rw [step?, Dict.get?_put, if_pos from_s]
    · obtain ⟨t, found, free⟩ := h.anchored e mem i of
      refine ⟨t, ?_, free⟩
      rwa [step?, Dict.get?_put, if_neg from_s]
  · intro id i
    refine Nat.le_trans (List.Sublist.length_le ?_) (h.single id i)
    exact List.filter_sublist.filter _
  · exact fun e mem => h.unlabelled e (List.mem_of_mem_filter mem)
  · intro t mem
    rcases steps mem with rfl | ⟨mem, -⟩
    · rw [eq, connections_attached, Step.connections_detached]
    · exact h.bare t mem
  · intro t mem i b at_i
    rcases steps mem with rfl | ⟨mem, other⟩
    · rw [id_stored, ← Step.id_detached (s := s)]
      exact mirrored_attached (eq ▸ at_i)
    · -- all edges of the other steps survive, so their buttons show what they did
      rw [h.mirrored t mem i b at_i]
      refine (next?_congr ?_).symm
      refine List.filter_filter_of_imp fun e _ out => survives_of_ne ?_
      simp only [Bool.and_eq_true, beq_iff_eq] at out
      exact out.1 ▸ other

/-! ### Removing a step -/

/-- A step goes with the edges that touch it, and with the word of the buttons that led to it. A button
whose edge goes is one that showed the step, since no second edge starts at it. -/
theorem removeStep (h : g.Whole) (ok : g.removeStep id = .ok g') : g'.Whole := by
  obtain ⟨-, -, rfl⟩ := removeStep_eq_ok.mp ok
  have step?_new : ∀ {k t}, k ≠ id → g.step? k = some t →
      ((g.table.erase id).mapValues (forget id)).get? k = some (forget id t) := by
    intro k t other found
    rw [Dict.get?_mapValues, Dict.get?_erase, if_neg other]
    exact congrArg (Option.map (forget id)) found
  have ids : ∀ {k}, k ∈ g.ids → k ≠ id → k ∈ ((g.table.erase id).mapValues (forget id)).keys := by
    intro k mem other
    rw [Dict.keys_mapValues, Dict.keys_erase, List.mem_filter]
    exact ⟨mem, by simpa using other⟩
  have entries : ∀ {entry}, entry ∈ (g.table.erase id).mapValues (forget id) →
      ∃ t, (entry.1, t) ∈ g.table ∧ entry.1 ≠ id ∧ entry.2 = forget id t := by
    intro entry mem
    obtain ⟨⟨k, t⟩, there, rfl⟩ := List.mem_map.mp mem
    exact ⟨t, (Dict.mem_erase.mp there).1, (Dict.mem_erase.mp there).2, rfl⟩
  have steps : ∀ {t'}, t' ∈ Graph.steps { g with
        table := (g.table.erase id).mapValues (forget id)
        edges := g.edges.filter fun e => e.source != id && e.target != id } →
      ∃ t ∈ g.steps, t.id ≠ id ∧ t' = forget id t := by
    intro t' mem
    obtain ⟨k, there⟩ := mem_steps.mp mem
    obtain ⟨t, there, other, same⟩ := entries there
    exact ⟨t, mem_steps.mpr ⟨k, there⟩, h.keyed _ there ▸ other, same⟩
  have apart : ∀ {e}, e ∈ g.edges.filter (fun e => e.source != id && e.target != id) →
      e ∈ g.edges ∧ e.source ≠ id ∧ e.target ≠ id := by
    intro e mem
    simpa using mem
  refine ⟨?_, ?_, ?_, h.unlike.filter _, ?_, ?_, ?_, ?_, ?_⟩
  · intro entry mem
    obtain ⟨t, there, -, same⟩ := entries mem
    rw [same, id_forget]
    exact h.keyed _ there
  · rw [Graph.ids, Dict.keys_mapValues]
    exact Dict.nodup_keys_erase h.distinct
  · intro e mem
    obtain ⟨mem, source, target⟩ := apart mem
    obtain ⟨source_in, target_in, ne⟩ := h.joined e mem
    exact ⟨ids source_in source, ids target_in target, ne⟩
  · intro e mem i of
    obtain ⟨mem, source, -⟩ := apart mem
    obtain ⟨t, found, free⟩ := h.anchored e mem i of
    exact ⟨forget id t, step?_new source found,
      buttonFault?_eq_none_of_kinds free isMessage_forget kind_forget⟩
  · intro k i
    refine Nat.le_trans (List.Sublist.length_le ?_) (h.single k i)
    exact List.filter_sublist.filter _
  · exact fun e mem => h.unlabelled e (List.mem_of_mem_filter mem)
  · intro t' mem
    obtain ⟨t, old, -, rfl⟩ := steps mem
    rw [connections_forget]
    exact h.bare t old
  · intro t' mem i b' at_i
    obtain ⟨t, old, other, rfl⟩ := steps mem
    rw [buttons_forget, List.getElem?_map, Option.map_eq_some_iff] at at_i
    obtain ⟨b, at_i, rfl⟩ := at_i
    have shown := h.mirrored t old i b at_i
    rw [id_forget]
    -- the edges of the slot after the removal are those before it that do not touch the step
    have slot : Graph.successors { g with
          table := (g.table.erase id).mapValues (forget id)
          edges := g.edges.filter fun e => e.source != id && e.target != id } t.id (some i) =
        (g.successors t.id (some i)).filter fun e => e.source != id && e.target != id := by
      simp only [successors, List.filter_filter, Bool.and_comm]
    rw [next?, slot]
    rw [next?] at shown
    have few := h.single t.id i
    -- at most one edge starts at the button: none, or one that goes or stays
    rcases eq_out : g.successors t.id (some i) with _ | ⟨e, _ | ⟨e', more⟩⟩
    · rw [eq_out] at shown
      simp [shown]
    · rw [eq_out] at shown
      have mem_out : e ∈ g.successors t.id (some i) := by simp [eq_out]
      have source : e.source = t.id := by
        have := (List.mem_filter.mp mem_out).2
        simp only [Bool.and_eq_true, beq_iff_eq] at this
        exact this.1
      by_cases leads : e.target = id <;> simp [shown, source, other, leads]
    · rw [eq_out] at few
      simp at few

/-! ### Adding and removing an edge -/

/-- Setting where a button leads changes no id and no kind, so all that is asked of the dictionary of steps
and of the starts of edges is kept. -/
theorem keyed_aim {target : Option String} (h : g.Whole) :
    ∀ entry ∈ (g.aim id slot target).table, entry.1 = entry.2.id := by
  intro entry mem
  cases slot with
  | none => exact h.keyed entry mem
  | some i =>
    obtain ⟨old, there, rfl⟩ := List.mem_map.mp mem
    have same := h.keyed old there
    split
    · rw [id_aimButton]
      exact same
    · exact same

theorem ids_aim {target : Option String} : (g.aim id slot target).ids = g.ids := by
  cases slot with
  | none => rfl
  | some i => exact Dict.keys_modify _

theorem distinct_aim {target : Option String} (h : g.Whole) : (g.aim id slot target).ids.Nodup := by
  rw [ids_aim]
  exact h.distinct

theorem anchored_aim {target : Option String} {k : String} {i : Nat}
    (h : ∃ s, g.step? k = some s ∧ buttonFault? s i = none) :
    ∃ s, (g.aim id slot target).step? k = some s ∧ buttonFault? s i = none := by
  obtain ⟨s, found, free⟩ := h
  cases slot with
  | none => exact ⟨s, found, free⟩
  | some j =>
    have new : (g.aim id (some j) target).step? k =
        if k = id then (g.step? k).map (aimButton j target) else g.step? k := Dict.get?_modify _
    by_cases here : k = id
    · refine ⟨aimButton j target s, ?_,
        buttonFault?_eq_none_of_kinds free isMessage_aimButton kind_aimButton⟩
      rw [new, if_pos here, found, Option.map_some]
    · exact ⟨s, by rw [new, if_neg here, found], free⟩

/-- **What the steps of a graph are when a button is set**: those from before, of which the one named
shows the new target at that button. -/
theorem steps_aim {target : Option String} (h : g.Whole) (mem : s ∈ (g.aim id slot target).steps) :
    ∃ t ∈ g.steps, s.id = t.id ∧ s.connections = t.connections ∧
      ∀ i, s.buttons[i]? = (t.buttons[i]?).map fun b =>
        if t.id = id ∧ slot = some i then { b with connectedTo := target } else b := by
  cases slot with
  | none => exact ⟨s, mem, rfl, rfl, fun i => by simp⟩
  | some j =>
    obtain ⟨k, there⟩ := mem_steps.mp mem
    obtain ⟨⟨k', t⟩, there, same⟩ := List.mem_map.mp there
    have key := h.keyed _ there
    refine ⟨t, mem_steps.mpr ⟨k', there⟩, ?_⟩
    dsimp only at same key
    by_cases here : k' = id
    · rw [if_pos (by simpa using here)] at same
      obtain rfl := (Prod.mk.inj same).2
      refine ⟨id_aimButton, connections_aimButton, fun i => ?_⟩
      rw [buttons_aimButton, List.getElem?_modify, ← key]
      simp only [here, true_and, Option.some.injEq]
      rfl
    · rw [if_neg (by simpa using here)] at same
      obtain rfl := (Prod.mk.inj same).2
      refine ⟨rfl, rfl, fun i => ?_⟩
      simp [← key, here]

/-- A new edge of a button starts where none did, so the button can show it. -/
theorem addEdge (h : g.Whole) (ok : g.addEdge source target button = .ok (g', e)) : g'.Whole := by
  obtain ⟨s, slot, -, found, present, ne, -, rfl, fresh, free, rfl⟩ := addEdge_eq_ok.mp ok
  rw [slotFault?_eq_none_iff] at free
  have id_s : s.id = source := (h.step?_eq_some_iff.mp found).2
  rw [id_s] at free
  have source_in : source ∈ g.ids := Dict.mem_keys_of_get? found
  -- the new edge leaves its own slot and no other
  have out : ∀ id i, Graph.successors
      { g.aim source slot (some target) with
        edges := g.edges ++ [{ source, target, button := slot }] } id (some i) =
      g.successors id (some i) ++
        if source = id ∧ slot = some i then [{ source, target, button := slot }] else [] := by
    intro id i
    simp [successors, List.filter_append, List.filter_cons]
  refine ⟨h.keyed_aim, h.distinct_aim, ?_, ?_, ?_, ?_, ?_, ?_, ?_⟩
  · intro e mem
    change e.source ∈ (g.aim source slot _).ids ∧ e.target ∈ (g.aim source slot _).ids ∧ _
    rw [ids_aim]
    rcases List.mem_append.mp mem with mem | mem
    · exact h.joined e mem
    · obtain rfl := List.mem_singleton.mp mem
      exact ⟨source_in, present, ne⟩
  · -- the new edge is unlike all before it
    refine List.pairwise_append.mpr ⟨h.unlike, List.pairwise_singleton _ _, ?_⟩
    intro a mem b mem_b
    obtain rfl := List.mem_singleton.mp mem_b
    have apart := fresh a mem
    simp only [Edge.sameLink, Bool.and_eq_false_iff, beq_eq_false_iff_ne] at apart ⊢
    exact apart.imp (Or.imp Ne.symm Ne.symm) Ne.symm
  · intro e mem i of
    change ∃ t, (g.aim source slot (some target)).step? e.source = some t ∧ buttonFault? t i = none
    refine anchored_aim ?_
    rcases List.mem_append.mp mem with mem | mem
    · exact h.anchored e mem i of
    · obtain rfl := List.mem_singleton.mp mem
      exact ⟨s, found, (free i of).1⟩
  · intro id i
    rw [out]
    split
    · rename_i here
      rw [← here.1, (free i here.2).2]
      exact Nat.le_refl _
    · rw [List.append_nil]
      exact h.single id i
  · intro e mem
    rcases List.mem_append.mp mem with mem | mem
    · exact h.unlabelled e mem
    · rw [List.mem_singleton.mp mem]
  · intro t mem
    obtain ⟨t₀, old, -, same, -⟩ := h.steps_aim mem
    rw [same]
    exact h.bare t₀ old
  · intro t mem i b at_i
    obtain ⟨t₀, old, id_t, -, buttons⟩ := h.steps_aim mem
    rw [buttons, Option.map_eq_some_iff] at at_i
    obtain ⟨b₀, at_i, rfl⟩ := at_i
    rw [next?, out, id_t]
    -- the button of the new edge shows it, and all others what they did
    by_cases here : t₀.id = source ∧ slot = some i
    · rw [if_pos here, if_pos ⟨here.1.symm, here.2⟩, here.1, (free i here.2).2]
      rfl
    · rw [if_neg here, if_neg fun there => here ⟨there.1.symm, there.2⟩, List.append_nil]
      exact h.mirrored t₀ old i b₀ at_i

/-- An edge goes with the word of the button that it started at, and there is no other edge by which
that button would still lead somewhere. -/
theorem removeEdge {found : Bool} (h : g.Whole)
    (ok : g.removeEdge source target button = .ok (g', found)) : g'.Whole := by
  obtain ⟨-, ⟨e, eq, -, rfl⟩ | ⟨-, -, rfl⟩⟩ := removeEdge_eq_ok.mp ok
  swap
  · exact h
  have mem_e := List.mem_of_find?_eq_some eq
  have is_e := List.find?_some eq
  have link : ∀ {x}, isLink source target button x = true →
      x.source = source ∧ x.target = target ∧ x.button.map Int.ofNat = button := by
    intro x is_x
    simpa [isLink, and_assoc] using is_x
  have only : g.edges.eraseP (isLink source target button) =
      g.edges.filter fun x => !isLink source target button x := by
    refine List.eraseP_eq_filter (h.unlike.imp fun {a b} apart both => ?_)
    obtain ⟨sa, ta, ba⟩ := link both.1
    obtain ⟨sb, tb, bb⟩ := link both.2
    have := slot_injective (ba.trans bb.symm)
    simp [Edge.sameLink, sa, sb, ta, tb, this] at apart
  rw [only]
  refine ⟨h.keyed_aim, h.distinct_aim, ?_, h.unlike.filter _, ?_, ?_, ?_, ?_, ?_⟩
  · intro x mem
    change x.source ∈ (g.aim source _ _).ids ∧ x.target ∈ (g.aim source _ _).ids ∧ _
    rw [ids_aim]
    exact h.joined x (List.mem_of_mem_filter mem)
  · intro x mem i of
    exact anchored_aim (h.anchored x (List.mem_of_mem_filter mem) i of)
  · intro id i
    refine Nat.le_trans (List.Sublist.length_le ?_) (h.single id i)
    exact List.filter_sublist.filter _
  · exact fun x mem => h.unlabelled x (List.mem_of_mem_filter mem)
  · intro t mem
    obtain ⟨t₀, old, -, same, -⟩ := h.steps_aim mem
    rw [same]
    exact h.bare t₀ old
  · intro t mem i b at_i
    obtain ⟨t₀, old, id_t, -, buttons⟩ := h.steps_aim mem
    rw [buttons, Option.map_eq_some_iff] at at_i
    obtain ⟨b₀, at_i, rfl⟩ := at_i
    rw [id_t]
    by_cases here : t₀.id = source ∧ e.button = some i
    · rw [if_pos here, next?]
      have slot : Graph.successors { g.aim source e.button none with
          edges := g.edges.filter fun x => !isLink source target button x } t₀.id (some i) =
          (g.successors e.source (some i)).filter fun x => !isLink source target button x := by
        rw [(link is_e).1, here.1]
        simp only [successors, List.filter_filter, Bool.and_comm]
      rw [slot, h.successors_eq_singleton mem_e here.2, List.filter_cons_of_neg (by simp [is_e])]
      rfl
    · rw [if_neg here, h.mirrored t₀ old i b₀ at_i]
      refine (next?_congr ?_).symm
      refine List.filter_filter_of_imp fun x _ leaves => ?_
      simp only [Bool.and_eq_true, beq_iff_eq] at leaves
      rw [Bool.not_eq_true', ← Bool.not_eq_true]
      intro is_x
      refine here ⟨leaves.1.symm.trans (link is_x).1, ?_⟩
      exact (slot_injective ((link is_e).2.2.trans (link is_x).2.2.symm)).trans leaves.2

/-! ### Sequences of changes -/

/-- One change keeps a graph whole. -/
theorem edit {change : Edit} {outcome : EditOutcome} (h : g.Whole)
    (ok : g.edit change = .ok (g', outcome)) : g'.Whole := by
  have made := edit_cases ok
  cases change with
  | addStep step =>
    obtain ⟨stored, made⟩ := made
    exact h.addStep made
  | updateStep step =>
    obtain ⟨stored, made⟩ := made
    exact h.updateStep made
  | removeStep id => exact h.removeStep made
  | addEdge source target button =>
    obtain ⟨e, made⟩ := made
    exact h.addEdge made
  | removeEdge source target button =>
    obtain ⟨found, made⟩ := made
    exact h.removeEdge made

/-- **Every sequence of changes keeps a graph whole**; those that fail are passed over. -/
theorem edits (h : g.Whole) (changes : List Edit) : (g.edits changes).Whole :=
  edits_induction h fun _ _ _ _ _ whole ok => whole.edit ok

end Whole

/-- **Integrity of graphs**: however steps and edges are added, replaced and removed, starting from the
empty graph and passing over the changes that fail, the two accounts of where the graph leads agree. -/
theorem integrity_of_edits (changes : List Edit) :
    let g := Graph.edits {} changes
    (∀ id s, (id, s) ∈ g.table → id = s.id) ∧ g.ids.Nodup ∧
    (∀ e ∈ g.edges, e.source ∈ g.ids ∧ e.target ∈ g.ids ∧ e.source ≠ e.target) ∧
    (g.edges.map fun e => (e.source, e.target, e.button)).Nodup ∧
    (∀ e ∈ g.edges, ∀ i, e.button = some i → ∃ s m b, (e.source, s) ∈ g.table ∧
      s.body = .message m ∧ m.buttons[i]? = some b ∧ b.kind = .automation) ∧
    (∀ id i, (g.successors id (some i)).length ≤ 1) ∧
    (∀ s ∈ g.steps, s.connections = []) ∧
    (∀ s ∈ g.steps, ∀ m, s.body = .message m → ∀ i b, m.buttons[i]? = some b →
      b.connectedTo = (g.successors s.id (some i)).head?.map (·.target)) := by
  intro g
  have h : g.Whole := Whole.empty.edits changes
  refine ⟨fun id s mem => h.keyed _ mem, h.distinct, h.joined, ?_, ?_, h.single, h.bare, ?_⟩
  · refine List.pairwise_map.mpr (h.unlike.imp fun {a b} apart same => ?_)
    obtain ⟨source, target, button⟩ : a.source = b.source ∧ a.target = b.target ∧
        a.button = b.button := by simpa using same
    simp [Edge.sameLink, source, target, button] at apart
  · intro e mem i of
    obtain ⟨s, found, free⟩ := h.anchored e mem i of
    obtain ⟨message, kind⟩ := buttonFault?_eq_none_iff.mp free
    obtain ⟨b, at_i, automation⟩ := Option.map_eq_some_iff.mp kind
    obtain ⟨m, body⟩ : ∃ m, s.body = .message m := by
      unfold Step.isMessage at message
      split at message
      · exact ⟨_, ‹_›⟩
      · cases message
    refine ⟨s, m, b, Dict.mem_of_get? found, body, ?_, automation⟩
    simpa only [Step.buttons, body] using at_i
  · intro s mem m body i b at_i
    refine h.mirrored s mem i b ?_
    simpa only [Step.buttons, body] using at_i

end Parley.Graph
