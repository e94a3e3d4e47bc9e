import Tourney.Dependency.Graph

/-!
# Cycles of dependencies

A depth-first search that follows edges from each node to its dependents. It keeps the nodes that
it has not reached yet (`fresh`) and the chain of nodes that it is exploring, the innermost first.
A dependent that is on the chain closes a cycle. Every step reaches a fresh node or uses up a
dependent that was still to be looked at, so the search ends.
-/

namespace Tourney

namespace DependencyGraph

/-- A node on the chain, with the dependents still to be looked at. -/
structure Frame where
  node : String
  pending : List String
deriving DecidableEq

/-- The part of the chain from a node to the innermost one, closed by the node again. -/
def closedPath (chain : List Frame) (node : String) : List String :=
  (chain.reverse.map (·.node)).dropWhile (· != node) ++ [node]

/-- How much of a chain is still to be looked at: its nodes, and their pending dependents. -/
def remaining : List Frame → Nat
  | [] => 0
  | f :: chain => f.pending.length + 1 + remaining chain

/-- Explores everything on the chain. Returns the nodes that are still fresh, or a cycle. -/
def explore (g : DependencyGraph) (fresh : List String) :
    List Frame → Except (List String) (List String)
  | [] => .ok fresh
  | ⟨_, []⟩ :: chain => g.explore fresh chain
  | ⟨node, next :: pending⟩ :: chain =>
      if next ∈ fresh then
        g.explore (fresh.erase next) (⟨next, g.dependents next⟩ :: ⟨node, pending⟩ :: chain)
      else if next ∈ node :: chain.map (·.node) then
        .error (closedPath (⟨node, pending⟩ :: chain) next)
      else g.explore fresh (⟨node, pending⟩ :: chain)
termination_by chain => (fresh.length, remaining chain)
decreasing_by
  · exact Prod.Lex.right _ (by simp [remaining])
  · have shorter := List.length_erase_of_mem ‹next ∈ fresh›
    have nonempty := List.length_pos_of_mem ‹next ∈ fresh›
    exact Prod.Lex.left _ _ (by omega)
  · exact Prod.Lex.right _ (by simp [remaining])

/-- Explores from each node in turn that is still fresh. -/
def exploreAll (g : DependencyGraph) : List String → List String → Except (List String) Unit
  | [], _ => .ok ()
  | node :: rest, fresh => do
      if node ∈ fresh then
        let fresh ← g.explore (fresh.erase node) [⟨node, g.dependents node⟩]
        g.exploreAll rest fresh
      else g.exploreAll rest fresh

/-- Accepts a graph without cycles; otherwise reports one, from a node back to itself. -/
def checkAcyclic (g : DependencyGraph) : Except Error Unit :=
  (g.exploreAll g.nodes g.nodes).mapError .cycle

end DependencyGraph

end Tourney
