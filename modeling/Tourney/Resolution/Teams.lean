import Tourney.Resolution.Follow
import Tourney.Slot.Parse

/-!
# Who plays

The team that stands in a slot or that an expression stands for, the winner and loser of a match,
the teams of a group and the table of a league, all as of the scores recorded so far.
-/

namespace Tourney

/-! ## Given who stands in a slot -/

section Via

variable (resolve : TeamSlot → Except Error Ident)

/-- The context of an expression that is looked up. -/
def lookupContext : String := "team lookup"

/-- The team that an expression stands for: one that it names, or that of a reference. -/
def teamIdVia (expression : String) : Except Error Ident := do
  resolve (← TeamSlot.parse lookupContext expression)

/-- The team on the side that a match has decided on. -/
def sideTeamVia (side : Match → Except Error Side) (m : Match) : Except Error Ident := do
  resolve (m.slot (← side m))

/-- The table of a group, which has to be a league. -/
def tableVia (g : Group) : Except Error (List Row) := do
  let config ← g.leagueConfig
  let fixtures ← g.leagueMatches.mapM (Competition.fixtureVia resolve)
  return g.tableOf config fixtures

end Via

/-! ## In a competition -/

namespace Competition

/-- The registered team that stands in a slot. -/
def resolve (c : Competition) (s : TeamSlot) : Except Error Ident :=
  c.lookupVia (c.follow []) s

/-- The identifier of the team that an expression stands for: a team's own, or a reference. -/
def teamId (c : Competition) (expression : String) : Except Error Ident :=
  teamIdVia c.resolve expression

def team (c : Competition) (expression : String) : Except Error Team := do
  c.getTeam (← c.teamId expression)

def winnerTeam (c : Competition) (m : Match) : Except Error Ident :=
  sideTeamVia c.resolve Match.winnerSide m

def loserTeam (c : Competition) (m : Match) : Except Error Ident :=
  sideTeamVia c.resolve Match.loserSide m

/-- The teams that play in a group, in order of first appearance. -/
def groupTeams (c : Competition) (g : Group) : Except Error (List Ident) := do
  return Fixture.allTeams (← g.games.mapM (fixtureVia c.resolve))

/-- The table of a group, which has to be a league. -/
def standings (c : Competition) (g : Group) : Except Error (List Row) :=
  tableVia c.resolve g

end Competition

end Tourney
