import Tourney.League.RankValue
import Tourney.League.Row

/-!
# League tables

A table is ranked block by block. A block of rows is sorted by the first criterion, largest value
first, and rows with level values form smaller blocks, which the remaining criteria rank in turn.
Rows that no criterion separates keep the order in which their teams are listed. The wins of head
to head are counted anew for every block, in the matches between its teams only.
-/

namespace Tourney

/-- The value of a row under a criterion that looks at the row alone. Where fewer rank first, the
value is negated. -/
def RankKey.value (key : RankKey) (r : Record) : RankValue :=
  match key with
  | .points => .ofInt r.leaguePoints
  | .wins => .ofNat r.wins
  | .losses => (RankValue.ofNat r.losses).neg
  | .headToHead => .zero
  | .pointsFor => .ofInt r.pointsFor
  | .pointsAgainst => (RankValue.ofInt r.pointsAgainst).neg
  | .pointsDifference => .ofInt (wrap64 (r.pointsFor - r.pointsAgainst))
  | .setsFor => .ofNat r.setsFor
  | .setsAgainst => (RankValue.ofNat r.setsAgainst).neg
  | .setsDifference => .ofInt ((r.setsFor : Int) - r.setsAgainst)
  | .setRatio => .ratio r.setsFor r.setsAgainst
  | .pointRatio => .ratio r.pointsFor r.pointsAgainst

namespace Table

/-- The matches that a team has won among the given teams. -/
def winsAmong (results : List LeagueResult) (teams : List Ident) (team : Ident) : Nat :=
  (results.filter fun r => r.isAmong teams && r.winner? == some team).length

/-- The rows of a block with their wins against each other. Of the rows of a team that occurs more
than once, the last has the wins. -/
def headToHead (results : List LeagueResult) (teams : List Ident) :
    List Row → List (RankValue × Row)
  | [] => []
  | row :: rest =>
      let wins := if row.team ∈ rest.map (·.team) then 0 else winsAmong results teams row.team
      (.ofNat wins, row) :: headToHead results teams rest

/-- The rows of a block with their values under a criterion. -/
def valued (results : List LeagueResult) (key : RankKey) (block : List Row) :
    List (RankValue × Row) :=
  match key with
  | .headToHead => headToHead results (block.map (·.team)) block
  | key => block.map fun row => (key.value row.record, row)

/-- The rows of a block by falling value, split where the value changes. -/
def runs (rows : List (RankValue × Row)) : List (List Row) :=
  let sorted := rows.mergeSort fun a b => a.1.atLeast b.1
  (sorted.splitBy fun a b => a.1.level b.1).map (·.map (·.2))

/-- Ranks a block of rows by a list of criteria. -/
def rank (results : List LeagueResult) : List RankKey → List Row → List Row
  | [], block => block
  | key :: keys, block => (runs (valued results key block)).flatMap (rank results keys)

end Table

/-- The ranked table of a list of teams over a list of matches. -/
def table (teams : List Ident) (results : List LeagueResult) (form : MatchForm)
    (config : LeagueConfig) : List Row :=
  Table.rank results config.ordering (tally teams results form config.points)

end Tourney
