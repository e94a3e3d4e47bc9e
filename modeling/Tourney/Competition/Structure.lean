import Tourney.Competition.Registers
import Tourney.Dependency.Placement

/-!
# The structure of a competition

A competition is well structured when every team that its slots name is registered, every reference
stands where it may, and no references depend on each other in a cycle. A stage is appended only
if this holds afterwards; `validate` checks it for the whole competition.
-/

namespace Tourney

namespace Competition

/-- Accepts a slot that refers to something, or names a registered team. -/
def checkLiteral (c : Competition) : TeamSlot → Except Error Unit
  | .literal id => if c.hasTeam id then .ok () else .error (.notFound .team id.text)
  | .reference _ => .ok ()

/-- Checks the teams that the slots of a stage name. -/
def checkLiterals (c : Competition) (s : Stage) : Except Error Unit :=
  s.slots.forM c.checkLiteral

/-- The dependencies in the competition, if references stand where they may and have no cycle. -/
def dependencyGraph (c : Competition) : Except Error DependencyGraph := do
  let graph ← DependencyGraph.build c.stages
  graph.checkAcyclic
  return graph

/-- Checks the structure of the whole competition. -/
def validate (c : Competition) : Except Error Unit := do
  c.stages.forM c.checkLiterals
  discard c.dependencyGraph

/-- Appends a stage whose identifier is new and with which the structure holds. -/
def addStage (c : Competition) (s : Stage) : Except Error Competition := do
  if c.hasStage s.id then throw (.invalid (.duplicate .stage s.id.text .competition))
  let extended := { c with stages := c.stages ++ [s] }
  extended.checkLiterals s
  discard extended.dependencyGraph
  return extended

end Competition

end Tourney
