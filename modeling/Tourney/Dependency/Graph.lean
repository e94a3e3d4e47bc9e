import Tourney.Error

/-!
# Dependency graphs

A graph of named nodes with edges from each node to what it depends on. Nodes keep the order in
which they were first named. An edge may be recorded more than once.
-/

namespace Tourney

/-- A record that one node depends on another. -/
structure Dependency where
  dependent : String
  dependsOn : String
deriving DecidableEq

/-- A graph of dependencies between named nodes. -/
structure DependencyGraph where
  /-- The nodes, each once, in the order in which they were first named. -/
  nodes : List String
  /-- The edges, the latest first. -/
  edges : List Dependency
deriving DecidableEq

namespace DependencyGraph

def empty : DependencyGraph := ⟨[], []⟩

/-- Whether a node has been named. -/
def contains (g : DependencyGraph) (node : String) : Bool :=
  g.nodes.contains node

/-- Names a node. -/
def addNode (g : DependencyGraph) (node : String) : DependencyGraph :=
  if g.contains node then g else { g with nodes := g.nodes ++ [node] }

/-- The place of a node in the order in which nodes were named. -/
def index? (g : DependencyGraph) (node : String) : Option Nat :=
  g.nodes.idxOf? node

/-- Records that one node depends on another, and names both. -/
def addEdge (g : DependencyGraph) (dependent dependsOn : String) : DependencyGraph :=
  let g := (g.addNode dependent).addNode dependsOn
  { g with edges := ⟨dependent, dependsOn⟩ :: g.edges }

/-- The nodes that depend directly on a node, by the latest record first. -/
def dependents (g : DependencyGraph) (node : String) : List String :=
  (g.edges.filter (·.dependsOn == node)).map (·.dependent)

/-- The nodes that a node depends on directly, each once and in ascending order. -/
def dependencies (g : DependencyGraph) (node : String) : List String :=
  let named := (g.edges.filter (·.dependent == node)).map (·.dependsOn)
  named.eraseDups.mergeSort fun a b => decide (a ≤ b)

end DependencyGraph

end Tourney
