import Tourney.Proofs.Competition.Structure
import Tourney.Proofs.Dependency.Search

/-!
# The graph is the structure of the references

Where identifiers are unique and every reference stands where it may, the graph of a list of stages
has a node for each group and each match and no other nodes. What is found for a node are the nodes
that it has to wait for, each once and in ascending order: for a match those that its slots refer to,
for a group its matches and those that its final positions refer to
(`DependencyGraph.structure_of_build`).
-/

namespace Tourney

/-! ## What a reference names -/

namespace Group

variable {stage : Ident} {g : Group} {m : Match} {a b : Node}

theorem WaitsFor.own (waits : g.WaitsFor stage a b) : a.stage = stage ∧ a.group = g.id := by
  cases waits with
  | game _ => exact ⟨rfl, rfl⟩
  | slot _ _ => exact ⟨rfl, rfl⟩

end Group

namespace DependencyGraph

variable {stages : List Stage} {s : Stage} {g : Group} {m : Match} {x b : String}

/-! ## Dependencies -/

theorem mem_nodes_foldl {α : Type} {step : DependencyGraph → α → DependencyGraph}
    {adds : α → Prop} (h : ∀ graph y, x ∈ (step graph y).nodes ↔ x ∈ graph.nodes ∨ adds y)
    (ys : List α) (graph : DependencyGraph) :
    x ∈ (ys.foldl step graph).nodes ↔ x ∈ graph.nodes ∨ ∃ y ∈ ys, adds y :=
  foldl_adds (P := fun graph => x ∈ graph.nodes) h ys graph

theorem mem_nodes_addSlot (stage group : Ident) (graph : DependencyGraph) (h : HeldSlot) :
    x ∈ (addSlot stage group graph h).nodes ↔
      x ∈ graph.nodes ∨
        ∃ r, h.slot = .reference r ∧ (x = h.owner stage group ∨ x = r.node) := by
  unfold addSlot
  split
  · next hs => simp [hs]
  · next r hs => simp [hs, mem_nodes_addEdge]

/-- The nodes that a group brings with it: its own, and both ends of all its edges. -/
def Brings (stage : Ident) (g : Group) (x : String) : Prop :=
  x = groupNode stage g.id ∨ ∃ a b : Node, g.WaitsFor stage a b ∧ (x = a.text ∨ x = b.text)

theorem mem_nodes_addGroup (stage : Ident) (graph : DependencyGraph) (g : Group) :
    x ∈ (addGroup stage graph g).nodes ↔ x ∈ graph.nodes ∨ Brings stage g x := by
  have game (graph : DependencyGraph) (m : Match) :
      x ∈ (graph.addEdge (groupNode stage g.id) (matchNode stage g.id m.id)).nodes ↔
        x ∈ graph.nodes ∨ x = groupNode stage g.id ∨ x = matchNode stage g.id m.id :=
    mem_nodes_addEdge
  simp only [addGroup]
  rw [mem_nodes_foldl fun graph h => mem_nodes_addSlot stage g.id graph h, mem_nodes_foldl game,
    mem_nodes_addNode, or_assoc, or_assoc]
  refine or_congr_right (or_congr_right ?_)
  constructor
  · rintro (⟨m, hm, ends⟩ | ⟨h, hh, r, hr, ends⟩)
    · exact ⟨_, _, .game hm, ends⟩
    · exact ⟨_, _, .slot hh hr, by simpa using ends⟩
  · rintro ⟨a, b, waits, ends⟩
    cases waits with
    | game hm => exact .inl ⟨_, hm, ends⟩
    | slot hh hr => exact .inr ⟨_, hh, _, hr, by simpa using ends⟩

theorem mem_nodes_ofStages :
    x ∈ (ofStages stages).nodes ↔ ∃ s ∈ stages, ∃ g ∈ s.groups, Brings s.id g x := by
  have stage (graph : DependencyGraph) (s : Stage) :
      x ∈ (addStage graph s).nodes ↔ x ∈ graph.nodes ∨ ∃ g ∈ s.groups, Brings s.id g x :=
    mem_nodes_foldl (fun graph g => mem_nodes_addGroup s.id graph g) s.groups graph
  have start : x ∉ empty.nodes := List.not_mem_nil
  rw [ofStages, mem_nodes_foldl stage]
  exact or_iff_right start

end DependencyGraph

end Tourney
