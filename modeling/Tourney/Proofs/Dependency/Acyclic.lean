import Mathlib.Data.List.Chain
import Mathlib.Logic.Relation
import Tourney.Dependency.Cycle

/-!
# The search accepts graphs without cycles

The nodes on the chain of the search depend on each other one after another, from the innermost
outwards, and whatever is pending at a node depends on it. So a dependent that is found on the chain
depends on itself. In a graph in which no node does, the search finds nothing to report.
-/

namespace Tourney.DependencyGraph

open Relation (TransGen)

def DependsOn (g : DependencyGraph) (a b : String) : Prop :=
  ⟨a, b⟩ ∈ g.edges

variable {g : DependencyGraph} {a b : String}

theorem mem_dependents : a ∈ g.dependents b ↔ g.DependsOn a b := by
  simp only [dependents, DependsOn, List.mem_map, List.mem_filter, beq_iff_eq]
  constructor
  · rintro ⟨⟨_, _⟩, ⟨mem, rfl⟩, rfl⟩
    exact mem
  · intro mem
    exact ⟨_, ⟨mem, rfl⟩, rfl⟩

def Acyclic (g : DependencyGraph) : Prop :=
  ∀ node, ¬ TransGen g.DependsOn node node

/-! ## The chain of the search -/

/-- The chain of a search that has followed edges of the graph only. -/
structure Follows (g : DependencyGraph) (chain : List Frame) : Prop where
  linked : (chain.map (·.node)).IsChain g.DependsOn
  pending : ∀ f ∈ chain, ∀ next ∈ f.pending, g.DependsOn next f.node

namespace Follows

variable {f : Frame} {node next : String} {pending : List String} {chain : List Frame}

theorem start (g : DependencyGraph) (node : String) : g.Follows [⟨node, g.dependents node⟩] where
  linked := List.isChain_singleton node
  pending := by
    intro f hf next hn
    obtain rfl := List.mem_singleton.mp hf
    exact mem_dependents.mp hn

theorem tail (h : g.Follows (f :: chain)) : g.Follows chain where
  linked := (h.linked : List.IsChain _ (f.node :: chain.map (·.node))).tail
  pending := fun f' hf => h.pending f' (List.mem_cons_of_mem _ hf)

theorem skip (h : g.Follows (⟨node, next :: pending⟩ :: chain)) :
    g.Follows (⟨node, pending⟩ :: chain) where
  linked := h.linked
  pending := by
    intro f hf n hn
    rcases List.mem_cons.mp hf with rfl | hf
    · exact h.pending _ List.mem_cons_self n (List.mem_cons_of_mem _ hn)
    · exact h.pending f (List.mem_cons_of_mem _ hf) n hn

theorem push (h : g.Follows (⟨node, next :: pending⟩ :: chain)) :
    g.Follows (⟨next, g.dependents next⟩ :: ⟨node, pending⟩ :: chain) where
  linked := .cons_cons (h.pending _ List.mem_cons_self _ List.mem_cons_self) h.linked
  pending := by
    intro f hf n hn
    rcases List.mem_cons.mp hf with rfl | hf
    · exact mem_dependents.mp hn
    · exact h.skip.pending f hf n hn

/-- A pending dependent that is on the chain depends on itself. -/
theorem cycle (h : g.Follows (⟨node, next :: pending⟩ :: chain))
    (hn : next ∈ node :: chain.map (·.node)) : TransGen g.DependsOn next next := by
  have first : g.DependsOn next node := h.pending _ List.mem_cons_self _ List.mem_cons_self
  rcases List.mem_cons.mp hn with rfl | hn
  · exact .single first
  · have linked : (node :: chain.map (·.node)).IsChain (TransGen g.DependsOn) :=
      h.linked.imp fun _ _ => .single
    have inner : TransGen g.DependsOn node next := linked.rel_cons hn
    exact .head first inner

end Follows

/-! ## The search -/

theorem explore_ok (acyclic : g.Acyclic) (fresh : List String) {chain : List Frame}
    (h : g.Follows chain) : ∃ left, g.explore fresh chain = .ok left := by
  fun_induction explore g fresh chain with
  | case1 fresh => exact ⟨fresh, rfl⟩
  | case2 _ _ _ ih => exact ih h.tail
  | case3 _ _ _ _ _ _ ih => exact ih h.push
  | case4 _ node next pending chain _ onChain => exact (acyclic next (h.cycle onChain)).elim
  | case5 _ _ _ _ _ _ _ ih => exact ih h.skip

theorem exploreAll_ok (acyclic : g.Acyclic) (nodes fresh : List String) :
    g.exploreAll nodes fresh = .ok () := by
  induction nodes generalizing fresh with
  | nil => rfl
  | cons node rest ih =>
      unfold exploreAll
      split
      · obtain ⟨left, hl⟩ := explore_ok acyclic (fresh.erase node) (.start g node)
        rw [hl]
        exact ih left
      · exact ih fresh

theorem checkAcyclic_ok (acyclic : g.Acyclic) : g.checkAcyclic = .ok () := by
  rw [checkAcyclic, exploreAll_ok acyclic]
  rfl

end Tourney.DependencyGraph
