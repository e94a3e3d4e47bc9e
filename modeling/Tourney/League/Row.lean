import Tourney.Ident
import Tourney.League.Config
import Tourney.Scoring.Outcome
import Tourney.Scoring.Rules
import Tourney.Width

/-!
# Rows of a league table

What one match adds to the row of a team (`LeagueResult.line`), and the rows of a list of teams
before they are ranked (`tally`). A team that is listed twice has its results in the later row. Rows
have counters of 32 bits and points of 64 bits, and what is added up in them wraps around
(`Record.wrap`).
-/

namespace Tourney

/-- A complete match between two teams. -/
structure LeagueResult where
  home : Ident
  away : Ident
  evaluation : Evaluation
  scores : List SetScore
deriving DecidableEq

/-- What a team has gathered in a league, or gathers in one match. -/
structure Record where
  played : Nat
  wins : Nat
  losses : Nat
  draws : Nat
  setsFor : Nat
  setsAgainst : Nat
  pointsFor : Int
  pointsAgainst : Int
  leaguePoints : Int
deriving DecidableEq

namespace Record

def zero : Record := ⟨0, 0, 0, 0, 0, 0, 0, 0, 0⟩

/-- Everything gathered in two records, with nothing lost. -/
def add (a b : Record) : Record where
  played := a.played + b.played
  wins := a.wins + b.wins
  losses := a.losses + b.losses
  draws := a.draws + b.draws
  setsFor := a.setsFor + b.setsFor
  setsAgainst := a.setsAgainst + b.setsAgainst
  pointsFor := a.pointsFor + b.pointsFor
  pointsAgainst := a.pointsAgainst + b.pointsAgainst
  leaguePoints := a.leaguePoints + b.leaguePoints

instance : Add Record := ⟨add⟩

/-- What a row keeps of a record: counters of 32 bits, and points of 64 bits. -/
def wrap (r : Record) : Record where
  played := wrap32 r.played
  wins := wrap32 r.wins
  losses := wrap32 r.losses
  draws := wrap32 r.draws
  setsFor := wrap32 r.setsFor
  setsAgainst := wrap32 r.setsAgainst
  pointsFor := wrap64 r.pointsFor
  pointsAgainst := wrap64 r.pointsAgainst
  leaguePoints := wrap64 r.leaguePoints

/-- Everything gathered in a row to which records are added one after another. -/
def sum (records : List Record) : Record :=
  records.foldl (fun gathered r => (gathered + r).wrap) zero

end Record

/-- One team's line in a league table. -/
structure Row where
  team : Ident
  record : Record
deriving DecidableEq

namespace LeagueResult

def team (r : LeagueResult) : Side → Ident
  | .home => r.home
  | .away => r.away

def winner? (r : LeagueResult) : Option Ident :=
  r.evaluation.outcome.winner?.map r.team

/-- The points of a side over all sets. -/
def points (r : LeagueResult) (side : Side) : Int :=
  r.scores.foldr (fun s total => s.points side + total) 0

/-- Whether the match was played in sets and their counts differ by one. -/
def byOne (r : LeagueResult) (form : MatchForm) : Bool :=
  let sets := r.evaluation.sets
  form == .sets && (sets.home == sets.away + 1 || sets.away == sets.home + 1)

/-- The league points that the outcome is worth to a side. -/
def award (r : LeagueResult) (form : MatchForm) (points : PointsAward) (side : Side) : Int :=
  match r.evaluation.outcome with
  | .draw => points.draw
  | .wonBy winner =>
      if winner = side then
        if r.byOne form then points.winByOne.getD points.win else points.win
      else
        if r.byOne form then points.loseByOne.getD points.lose else points.lose

/-- What the match adds to the record of the team on a side. -/
def line (r : LeagueResult) (form : MatchForm) (points : PointsAward) (side : Side) : Record where
  played := 1
  wins := if r.evaluation.outcome = .wonBy side then 1 else 0
  losses := if r.evaluation.outcome = .wonBy side.opposite then 1 else 0
  draws := if r.evaluation.outcome = .draw then 1 else 0
  setsFor := r.evaluation.sets.of side
  setsAgainst := r.evaluation.sets.of side.opposite
  pointsFor := r.points side
  pointsAgainst := r.points side.opposite
  leaguePoints := points.played + points.perSet * r.evaluation.sets.of side
    + r.award form points side

/-- What the match adds to the record of a team, which may have played on both sides. -/
def lines (r : LeagueResult) (form : MatchForm) (points : PointsAward) (team : Ident) :
    List Record :=
  (if r.home = team then [r.line form points .home] else [])
    ++ (if r.away = team then [r.line form points .away] else [])

/-- Whether both teams are among the given ones. -/
def isAmong (r : LeagueResult) (teams : List Ident) : Bool :=
  teams.contains r.home && teams.contains r.away

end LeagueResult

/-- The rows of a list of teams in its order, given the record of each. Of the rows of a team that
is listed more than once, the last has the record and the others are empty. -/
def rowsOf (record : Ident → Record) : List Ident → List Row
  | [] => []
  | team :: rest =>
      ⟨team, if team ∈ rest then .zero else record team⟩ :: rowsOf record rest

/-- The rows of a list of teams over the matches between them, in the order of the teams. -/
def tally (teams : List Ident) (results : List LeagueResult) (form : MatchForm)
    (points : PointsAward) : List Row :=
  let counted := results.filter (·.isAmong teams)
  rowsOf (fun team => Record.sum (counted.flatMap (·.lines form points team))) teams

end Tourney
