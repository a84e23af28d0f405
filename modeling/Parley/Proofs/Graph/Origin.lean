import Parley.Proofs.Graph.Whole

/-!
# Where the steps of a graph come from

Changes bring steps into a graph, and afterwards set nothing but where their buttons lead. So every step
of a graph is, apart from where it leads, one that a change brought: what holds of all steps that are
brought in, whatever they say about where they lead, holds of all steps of the graph.
-/

namespace Parley

/-- Whether a change brings a step into a graph. -/
def Edit.Brings (s : Step) : Edit → Prop
  | .addStep step => step = .ok s
  | .updateStep step => step = .ok s
  | _ => False

/-- Whether the step that a change brings, if it brings one, is read from a document. -/
def Edit.FromDocument : Edit → Prop
  | .addStep step => ∃ v, step = Step.reader v
  | .updateStep step => ∃ v, step = Step.reader v
  | _ => True

/-- What a change from documents brings is read from one. -/
theorem Edit.FromDocument.exists_reader {change : Edit} {s : Step} (h : change.FromDocument)
    (brings : change.Brings s) : ∃ v, Step.reader v = .ok s := by
  cases change with
  | addStep step =>
    obtain ⟨v, rfl⟩ := h
    exact ⟨v, brings⟩
  | updateStep step =>
    obtain ⟨v, rfl⟩ := h
    exact ⟨v, brings⟩
  | removeStep id => cases brings
  | addEdge source target button => cases brings
  | removeEdge source target button => cases brings

namespace Graph

variable {g g' : Graph} {s : Step} {change : Edit} {outcome : EditOutcome}

/-- The steps of a graph under their ids, apart from where they lead. -/
def bareTable (g : Graph) : Dict Step := g.table.mapValues Step.detached

theorem keys_bareTable : g.bareTable.keys = g.ids := Dict.keys_mapValues _

/-- Where a button leads is no part of the bare steps. -/
theorem bareTable_aim {id : String} {slot : Option Nat} {target : Option String} :
    (g.aim id slot target).bareTable = g.bareTable := by
  rcases slot with _ | i
  · rfl
  · show (g.table.modify id (aimButton i target)).mapValues Step.detached = g.table.mapValues Step.detached
    exact Dict.mapValues_modify_of_eq fun _ => detached_aimButton

theorem map_snd_bareTable : g.bareTable.map (·.2) = g.steps.map Step.detached := by
  rw [bareTable, Dict.mapValues, Graph.steps, List.map_map, List.map_map]
  rfl

/-- Where a button leads does not matter to what its step is apart from that. -/
theorem detached_aim {id : String} {slot : Option Nat} {target : Option String} :
    (g.aim id slot target).steps.map Step.detached = g.steps.map Step.detached := by
  rw [← map_snd_bareTable, bareTable_aim, map_snd_bareTable]

theorem detached_of_mem_aim {id : String} {slot : Option Nat} {target : Option String}
    (mem : s ∈ (g.aim id slot target).steps) : ∃ t ∈ g.steps, s.detached = t.detached := by
  have there : s.detached ∈ g.steps.map Step.detached :=
    detached_aim (g := g) ▸ List.mem_map_of_mem mem
  obtain ⟨t, old, same⟩ := List.mem_map.mp there
  exact ⟨t, old, same.symm⟩

/-- A step after a change is, apart from where it leads, one from before or one that was brought in. -/
theorem Whole.detached_of_edit (h : g.Whole) (ok : g.edit change = .ok (g', outcome)) (mem : s ∈ g'.steps) :
    (∃ t ∈ g.steps, s.detached = t.detached) ∨ ∃ t, change.Brings t ∧ s.detached = t.detached := by
  have made := edit_cases ok
  cases change with
  | addStep step =>
    obtain ⟨stored, made⟩ := made
    obtain ⟨t, -, read, -, rfl, rfl⟩ := addStep_eq_ok.mp made
    obtain ⟨key, there⟩ := mem_steps.mp mem
    rcases (Dict.mem_put h.distinct).mp there with new | ⟨old, -⟩
    · obtain rfl := (Prod.mk.inj new).2
      exact .inr ⟨t, read, Step.detached_detached⟩
    · exact .inl ⟨s, mem_steps.mpr ⟨key, old⟩, rfl⟩
  | updateStep step =>
    obtain ⟨stored, made⟩ := made
    obtain ⟨t, current, -, read, -, -, rfl, rfl⟩ := updateStep_eq_ok.mp made
    obtain ⟨key, there⟩ := mem_steps.mp mem
    rcases (Dict.mem_put h.distinct).mp there with new | ⟨old, -⟩
    · obtain rfl := (Prod.mk.inj new).2
      exact .inr ⟨t, read, detached_attached.trans Step.detached_detached⟩
    · exact .inl ⟨s, mem_steps.mpr ⟨key, old⟩, rfl⟩
  | removeStep id =>
    obtain ⟨-, -, rfl⟩ := removeStep_eq_ok.mp made
    obtain ⟨key, there⟩ := mem_steps.mp mem
    obtain ⟨⟨key', t⟩, old, same⟩ := List.mem_map.mp there
    obtain rfl := (Prod.mk.inj same).2
    exact .inl ⟨t, mem_steps.mpr ⟨key', (Dict.mem_erase.mp old).1⟩, detached_forget⟩
  | addEdge source target button =>
    obtain ⟨e, made⟩ := made
    obtain ⟨t, slot, -, -, -, -, -, -, -, -, rfl⟩ := addEdge_eq_ok.mp made
    exact .inl (detached_of_mem_aim mem)
  | removeEdge source target button =>
    obtain ⟨found, made⟩ := made
    obtain ⟨-, ⟨e, -, -, rfl⟩ | ⟨-, -, rfl⟩⟩ := removeEdge_eq_ok.mp made
    · exact .inl (detached_of_mem_aim mem)
    · exact .inl ⟨s, mem, rfl⟩

/-- **Every step of a graph that was changed** is, apart from where it leads, a step from before or one that
some change brought. -/
theorem Whole.detached_of_edits (h : g.Whole) (changes : List Edit) :
    ∀ s ∈ (g.edits changes).steps, (∃ t ∈ g.steps, s.detached = t.detached) ∨
      ∃ change ∈ changes, ∃ t, change.Brings t ∧ s.detached = t.detached := by
  -- that a graph is whole goes along, since it tells which entry of the table a step replaces
  refine (edits_induction (motive := fun p => p.Whole ∧ ∀ s ∈ p.steps,
    (∃ t ∈ g.steps, s.detached = t.detached) ∨
      ∃ change ∈ changes, ∃ t, change.Brings t ∧ s.detached = t.detached)
    ⟨h, fun s mem => .inl ⟨s, mem, rfl⟩⟩ fun p p' change outcome there before ok => ?_).2
  obtain ⟨whole, origins⟩ := before
  refine ⟨whole.edit ok, fun s mem => ?_⟩
  -- the step is one from before, whose origin is known, or is brought in now
  rcases whole.detached_of_edit ok mem with ⟨t, old, same⟩ | ⟨t, brought, same⟩
  · rw [same]
    exact origins t old
  · exact .inr ⟨change, there, t, brought, same⟩

/-- No change makes a snapshot. -/
theorem frozen_of_edit (ok : g.edit change = .ok (g', outcome)) : g'.frozen = g.frozen := by
  have made := edit_cases ok
  cases change with
  | addStep step =>
    obtain ⟨stored, made⟩ := made
    obtain ⟨t, -, -, -, -, rfl⟩ := addStep_eq_ok.mp made
    rfl
  | updateStep step =>
    obtain ⟨stored, made⟩ := made
    obtain ⟨t, current, -, -, -, -, -, rfl⟩ := updateStep_eq_ok.mp made
    rfl
  | removeStep id =>
    obtain ⟨-, -, rfl⟩ := removeStep_eq_ok.mp made
    rfl
  | addEdge source target button =>
    obtain ⟨e, made⟩ := made
    obtain ⟨t, slot, -, -, -, -, -, -, -, -, rfl⟩ := addEdge_eq_ok.mp made
    cases slot <;> rfl
  | removeEdge source target button =>
    obtain ⟨found, made⟩ := made
    obtain ⟨-, ⟨e, -, -, rfl⟩ | ⟨-, -, rfl⟩⟩ := removeEdge_eq_ok.mp made
    · show (g.aim source e.button none).frozen = g.frozen
      cases e.button <;> rfl
    · rfl

theorem frozen_edits (g : Graph) (changes : List Edit) : (g.edits changes).frozen = g.frozen :=
  edits_induction (motive := fun p => p.frozen = g.frozen) rfl
    fun _ _ _ _ _ same ok => (frozen_of_edit ok).trans same

end Graph

end Parley
