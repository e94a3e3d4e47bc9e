/-!
# League settings

By what a league ranks its teams, and how many league points a match is worth.
-/

namespace Tourney

/-- A criterion by which teams are ranked. -/
inductive RankKey
  | points
  | wins
  /-- Fewer rank first. -/
  | losses
  /-- Wins among the tied teams. -/
  | headToHead
  | pointsFor
  /-- Fewer rank first. -/
  | pointsAgainst
  | pointsDifference
  | setsFor
  /-- Fewer rank first. -/
  | setsAgainst
  | setsDifference
  | setRatio
  | pointRatio
deriving DecidableEq

/-- The league points that a match is worth, whole numbers of 64 bits. The `ByOne` awards replace the
plain ones in matches played in sets whose set counts differ by one. -/
structure PointsAward where
  played : Int
  perSet : Int
  win : Int
  winByOne : Option Int
  lose : Int
  loseByOne : Option Int
  draw : Int
deriving DecidableEq

/-- Three points for a win and one for a draw. -/
def PointsAward.standard : PointsAward where
  played := 0
  perSet := 0
  win := 3
  winByOne := none
  lose := 0
  loseByOne := none
  draw := 1

/-- How a league ranks its teams. -/
structure LeagueConfig where
  /-- The criteria, each of which separates the teams that are level on those before it. -/
  ordering : List RankKey
  points : PointsAward
deriving DecidableEq

/-- League points, then head to head, then the ratio of sets, then the ratio of points. -/
def LeagueConfig.standard : LeagueConfig where
  ordering := [.points, .headToHead, .setRatio, .pointRatio]
  points := .standard

end Tourney
