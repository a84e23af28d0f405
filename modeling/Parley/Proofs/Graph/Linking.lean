import Parley.Proofs.Graph.Origin
import Parley.Proofs.Graph.Whole

/-!
# Which edges can be added

The tests before an edge is added are neither too many nor too few. What a graph should be is said here of
any table of steps and any list of links (`Parley.Graph.Consistent`), so that it can be asked of the table and
the links that there would be with one more link. If an edge is added, they are those of the new graph, and it
is consistent; if none is added, it is because of the links alone (`Parley.Graph.WellLinked`): one would lead
from or to no step, come back to where it starts, be there twice, leave what is no automation button, or leave
a button that another one leaves (`Parley.Graph.addEdge_iff_consistent`).

An edge has a natural number for its button, and what is asked for has any integer. A `Parley.Link` is an edge
as it is asked for, so that a link by a button of negative index can be said to break the graph, which of edges
could not even be stated.

One direction is that every change keeps a graph whole. For the other one, each clause that the new link would
break is the answer of one of the tests, and the one on the button has to look through the target that is set
in between: the button keeps its kind.
-/

namespace Parley

/-- An edge as it is asked for: the index of the button may be any integer. -/
structure Link where
  source : String
  target : String
  button : Option Int := none
deriving DecidableEq

/-- The link that an edge makes. -/
def Edge.link (e : Edge) : Link := ⟨e.source, e.target, e.button.map Int.ofNat⟩

namespace Graph

variable {g g' : Graph} {s : Step} {e : Edge} {link : Link} {id source target : String}
  {button : Option Int} {slot : Option Nat} {i : Nat}

/-- The links of a graph, in the order of its edges. -/
def links (g : Graph) : List Link := g.edges.map Edge.link

/-- The steps of a graph with a link shown by the button that it leaves by, if there is one. -/
def showing (g : Graph) (link : Link) : Dict Step :=
  match link.button with
  | some (.ofNat i) => g.table.modify link.source (aimButton i (some link.target))
  | _ => g.table

/-- **Links that there can be** between the steps of a table. -/
structure WellLinked (table : Dict Step) (links : List Link) : Prop where
  /-- Links join steps that are there. -/
  present : ∀ l ∈ links, l.source ∈ table.keys ∧ l.target ∈ table.keys
  /-- No link leads from a step to itself. -/
  apart : ∀ l ∈ links, l.source ≠ l.target
  /-- No two links are the same. -/
  unlike : links.Nodup
  /-- The link of a button leaves an automation button of a message, by its index, which is not negative. -/
  anchored : ∀ l ∈ links, ∀ i, l.button = some i → 0 ≤ i ∧ ∃ s m b, table.get? l.source = some s ∧
    s.body = .message m ∧ m.buttons[i.toNat]? = some b ∧ b.kind = .automation
  /-- At most one link leaves a button. -/
  single : ∀ id (i : Int), links.countP (fun l => l.source = id ∧ l.button = some i) ≤ 1

/-- **A consistent graph**, by its steps and its links. -/
structure Consistent (table : Dict Step) (links : List Link) : Prop extends WellLinked table links where
  /-- Every step stands under its own id. -/
  keyed : ∀ id s, (id, s) ∈ table → id = s.id
  /-- No id stands for two steps. -/
  distinct : table.keys.Nodup
  /-- Steps have no connections of their own. -/
  bare : ∀ id s, (id, s) ∈ table → s.connections = []
  /-- Every button shows where the link that leaves it leads. -/
  mirrored : ∀ id s m i b, (id, s) ∈ table → s.body = .message m → m.buttons[i]? = some b →
    ∀ target, b.connectedTo = some target ↔ ⟨s.id, target, some (Int.ofNat i)⟩ ∈ links

/-- **A graph with one more link**, and nothing else changed: the edge is the last one and has no label, and the
button that it leaves by, if it leaves by one, shows where it leads. -/
structure Extended (g : Graph) (link : Link) (e : Edge) (g' : Graph) : Prop where
  edge : e.link = link ∧ e.label = none
  edges : g'.edges = g.edges ++ [e]
  frozen : g'.frozen = g.frozen
  plain : link.button = none → g'.table = g.table
  button : ∀ i, link.button = some i → ∃ s m b, g.step? link.source = some s ∧ s.body = .message m ∧
    m.buttons[i.toNat]? = some b ∧
    g'.table = g.table.put link.source { s with
      body := .message { m with
        buttons := m.buttons.set i.toNat { b with connectedTo := some link.target } } }

/-! ### The links of a whole graph -/

theorem mem_links : ⟨source, target, slot.map Int.ofNat⟩ ∈ g.links ↔
    ∃ e ∈ g.edges, e.source = source ∧ e.target = target ∧ e.button = slot := by
  simp only [links, List.mem_map, Edge.link, Link.mk.injEq, slot_injective.eq_iff]

/-- The links that leave a button are the edges that do. -/
theorem countP_links : g.links.countP (fun l => l.source = id ∧ l.button = some (Int.ofNat i)) =
    (g.successors id (some i)).length := by
  rw [links, List.countP_map, List.countP_eq_length_filter, successors]
  refine congrArg List.length (List.filter_congr fun e _ => ?_)
  have slot : e.button.map Int.ofNat = some (Int.ofNat i) ↔ e.button = some i :=
    slot_injective.eq_iff (b := some i)
  simp only [Function.comp_apply, Edge.link, slot, Bool.decide_and, Bool.beq_eq_decide_eq]
  rfl

namespace Whole

/-- A button leads where an edge leads that leaves it, since no second one does. -/
theorem next?_eq_some_iff (h : g.Whole) : g.next? id (some i) = some target ↔
    ⟨id, target, some (Int.ofNat i)⟩ ∈ g.links := by
  rw [show some (Int.ofNat i) = (some i).map Int.ofNat from rfl, mem_links]
  constructor
  · intro leads
    obtain ⟨e, mem, source, of, target⟩ := exists_edge_of_next? leads
    exact ⟨e, mem, source, target, of⟩
  · rintro ⟨e, mem, rfl, rfl, of⟩
    rw [next?, h.successors_eq_singleton mem of, List.head?_cons, Option.map_some]

/-- **A whole graph is consistent.** -/
theorem consistent (h : g.Whole) : Consistent g.table g.links where
  keyed id s mem := h.keyed _ mem
  distinct := h.distinct
  present := by
    intro l mem
    obtain ⟨e, there, rfl⟩ := List.mem_map.mp mem
    exact ⟨(h.joined e there).1, (h.joined e there).2.1⟩
  apart := by
    intro l mem
    obtain ⟨e, there, rfl⟩ := List.mem_map.mp mem
    exact (h.joined e there).2.2
  unlike := by
    refine List.pairwise_map.mpr (h.unlike.imp fun {a b} apart same => ?_)
    obtain ⟨source, target, button⟩ := Link.mk.inj same
    simp [Edge.sameLink, source, target, slot_injective button] at apart
  anchored := by
    intro l mem i of
    obtain ⟨e, there, rfl⟩ := List.mem_map.mp mem
    obtain ⟨n, slot, rfl⟩ := Option.map_eq_some_iff.mp of
    obtain ⟨s, found, free⟩ := h.anchored e there n slot
    obtain ⟨m, b, body, at_n, automation⟩ := buttonFault?_eq_none_iff_exists.mp free
    exact ⟨Int.natCast_nonneg n, s, m, b, found, body, at_n, automation⟩
  single := by
    intro id i
    cases i with
    | ofNat n =>
      rw [countP_links]
      exact h.single id n
    | negSucc n =>
      -- no edge leaves by a negative index
      refine Nat.le_trans (Nat.le_of_eq (List.countP_eq_zero.mpr fun l mem => ?_)) (Nat.zero_le 1)
      obtain ⟨e, -, rfl⟩ := List.mem_map.mp mem
      cases slot : e.button <;> simp [Edge.link, slot]
  bare id s mem := h.bare s (mem_steps.mpr ⟨id, mem⟩)
  mirrored := by
    intro id s m i b mem body at_i target
    rw [h.mirrored s (mem_steps.mpr ⟨id, mem⟩) i b (by simpa only [Step.buttons, body] using at_i)]
    exact h.next?_eq_some_iff

end Whole

/-! ### When a link can be added -/

theorem keys_showing : (g.showing link).keys = g.ids := by
  unfold showing
  split
  · exact Dict.keys_modify _
  · rfl

/-- An automation button is one still when it shows a link. -/
theorem buttonFault?_of_showing (found : g.step? link.source = some s) (of : link.button = some (Int.ofNat i))
    (anchored : ∃ s m b, (g.showing link).get? link.source = some s ∧ s.body = .message m ∧
      m.buttons[i]? = some b ∧ b.kind = .automation) : buttonFault? s i = none := by
  obtain ⟨t, m, b, there, starts⟩ := anchored
  have shown : (g.showing link).get? link.source = some (aimButton i (some link.target) s) := by
    rw [showing, of]
    exact (Dict.get?_modify _).trans (by rw [if_pos rfl, ← step?, found, Option.map_some])
  obtain rfl : t = aimButton i (some link.target) s := Option.some.inj (there.symm.trans shown)
  exact buttonFault?_eq_none_of_kinds (buttonFault?_eq_none_iff_exists.mpr ⟨m, b, starts⟩)
    isMessage_aimButton.symm kind_aimButton.symm

/-- **No test is in the way of a link that the graph could have.** -/
theorem exists_addEdge (h : g.Whole) (mutable : g.frozen = false)
    (could : WellLinked (g.showing link) (g.links ++ [link])) :
    ∃ r, g.addEdge link.source link.target link.button = .ok r := by
  have last : link ∈ g.links ++ [link] := List.mem_append_right _ (List.mem_singleton_self link)
  obtain ⟨source, target⟩ := could.present link last
  rw [keys_showing] at source target
  obtain ⟨s, found⟩ := Dict.mem_keys_iff.mp source
  have id_s : s.id = link.source := (h.step?_eq_some_iff.mp found).2
  obtain ⟨slot, meant⟩ : ∃ slot : Option Nat, link.button = slot.map Int.ofNat := by
    cases of : link.button with
    | none => exact ⟨none, rfl⟩
    | some i => exact ⟨some i.toNat, congrArg some (Int.toNat_of_nonneg (could.anchored link last i of).1).symm⟩
  have new : link ∉ g.links := fun old =>
    (List.nodup_append.mp could.unlike).2.2 link old link (List.mem_singleton_self link) rfl
  refine ⟨_, addEdge_eq_ok.mpr ⟨s, slot, mutable, found, target, could.apart link last, meant, rfl, ?_, ?_, rfl⟩⟩
  · intro x mem
    refine Bool.eq_false_iff.mpr fun alike => new ?_
    simp only [Edge.sameLink, Bool.and_eq_true, beq_iff_eq] at alike
    obtain ⟨⟨same_source, same_target⟩, same_slot⟩ := alike
    have there := mem_links.mpr ⟨x, mem, same_source.symm, same_target.symm, same_slot.symm⟩
    rwa [← meant] at there
  · refine slotFault?_eq_none_iff.mpr fun i of => ?_
    have of_link : link.button = some (Int.ofNat i) := by rw [meant, of, Option.map_some]
    refine ⟨buttonFault?_of_showing found of_link (could.anchored link last _ of_link).2, ?_⟩
    -- the new link is the one that may leave the button, so no other one does
    have few := could.single link.source (Int.ofNat i)
    rw [List.countP_append, countP_links, List.countP_singleton] at few
    simp only [of_link, and_self, decide_true, if_true] at few
    rw [id_s]
    exact List.length_eq_zero_iff.mp (by omega)

/-- **What adding an edge makes**: the graph with one more link, which has the steps that show it. -/
theorem extended_of_addEdge (h : g.Whole) (ok : g.addEdge source target button = .ok (g', e)) :
    Extended g ⟨source, target, button⟩ e g' ∧ g'.table = g.showing ⟨source, target, button⟩ := by
  obtain ⟨s, slot, -, found, -, -, rfl, rfl, -, free, rfl⟩ := addEdge_eq_ok.mp ok
  refine ⟨⟨⟨rfl, rfl⟩, rfl, by cases slot <;> rfl, ?_, ?_⟩, by cases slot <;> rfl⟩
  · intro plain
    obtain rfl : slot = none := Option.map_eq_none_iff.mp plain
    rfl
  · intro i of
    obtain ⟨n, rfl, rfl⟩ := Option.map_eq_some_iff.mp of
    obtain ⟨m, b, body, at_n, -⟩ :=
      buttonFault?_eq_none_iff_exists.mp (slotFault?_eq_none_iff.mp free n rfl).1
    refine ⟨s, m, b, found, body, at_n, ?_⟩
    exact (Dict.modify_eq_put h.distinct found).trans (by rw [aimButton_eq_set body at_n]; rfl)

theorem Extended.links_eq (h : Extended g link e g') : g'.links = g.links ++ [link] := by
  rw [links, h.edges, List.map_append, List.map_singleton, h.edge.1]
  rfl

/-- **The tests on edges are exact**: a graph that was made by changes is consistent, and it takes an edge if and
only if it would be consistent with that link added and shown by its button, for which it is enough that the links
are such as there can be. The graph is then extended by the link, and nothing else about it is changed. -/
theorem addEdge_iff_consistent (changes : List Edit) (source target : String) (button : Option Int) :
    let g := Graph.edits {} changes
    let link : Link := { source, target, button }
    Consistent g.table g.links ∧
      match g.addEdge source target button with
      | .ok (g', e) => Consistent (g.showing link) (g.links ++ [link]) ∧ Extended g link e g'
      | .error _ => ¬WellLinked (g.showing link) (g.links ++ [link]) := by
  intro g link
  have whole : g.Whole := Whole.empty.edits changes
  refine ⟨whole.consistent, ?_⟩
  cases made : g.addEdge source target button with
  | ok r =>
    obtain ⟨g', e⟩ := r
    obtain ⟨extended, shown⟩ := extended_of_addEdge whole made
    refine ⟨?_, extended⟩
    rw [← shown, ← extended.links_eq]
    exact (whole.addEdge made).consistent
  | error refused =>
    intro could
    obtain ⟨r, taken⟩ := exists_addEdge whole (frozen_edits {} changes) could
    exact nomatch made.symm.trans taken

end Graph

end Parley
