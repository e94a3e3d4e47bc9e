import Tourney.Proofs.Competition.Tree
import Tourney.Proofs.Dependency.Exact

/-!
# What validation accepts

Where all indexes are right, validation by index accepts exactly what the rules allow
(`Tree.valid_iff_wellStructured`), and the graph that it builds is the structure of the references
(`DependencyGraph.structure_of_buildIndexed`). Indexes that are right are needed: a reference is checked
in the match that the index has for it, and named in the graph by the identifier that it asks for.
-/

namespace Tourney

namespace Tree

end Tree

namespace SmallCup

def tree : Tree := .of cup

/-- Two matches of a crossover have been exchanged by access, and the one that stands second now asks
for its own winner. The index still has it in the first place. -/
def exchanged : Tree :=
  let crossover : Group := { Group.new pool .crossover .sets with
    entries := [.fixture (.new opener (.literal teamA) (.literal teamB)),
      .fixture (.new final (.literal teamA) (.literal teamB))] }
  let drawn : Tree := .of { cup with stages := [{ Stage.new pools with groups := [crossover] }] }
  let first := (drawn.accessMatch pools pool opener fun _ =>
    .new final (.literal teamA) (.literal teamB)).2
  (first.accessMatch pools pool final fun _ =>
    .new opener (.reference ⟨pools, pool, .winner opener⟩) (.literal teamB)).2

/-- Identifiers are unique, but with an index that is not right it is a cycle that is found. -/
example : exchanged.competition.UniqueIds ∧
    exchanged.validate = .error (.cycle ["L:P:M1", "L:P:M1"]) :=
  ⟨by decide, by cbv⟩

end SmallCup

end Tourney
