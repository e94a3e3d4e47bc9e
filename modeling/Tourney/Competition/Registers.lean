import Tourney.Competition.Basic

/-!
# Registers of clubs, teams and players

Clubs, teams and players are registered under identifiers that are new in their register. The club
of a team and the teams of a player have to be registered before.
-/

namespace Tourney

namespace Competition

/-! ## Clubs -/

def findClub? (c : Competition) (id : Ident) : Option Club :=
  c.clubs.find? (·.id == id)

def hasClub (c : Competition) (id : Ident) : Bool :=
  (c.findClub? id).isSome

def getClub (c : Competition) (id : Ident) : Except Error Club :=
  match c.findClub? id with
  | some club => .ok club
  | none => .error (.notFound .club id.text)

def addClub (c : Competition) (club : Club) : Except Error Competition :=
  if c.hasClub club.id then .error (.invalid (.duplicate .club club.id.text .competition))
  else .ok { c with clubs := c.clubs ++ [club] }

def putClub (c : Competition) (club : Club) : Competition :=
  { c with clubs := putFirst (·.id) club c.clubs }

def renameClub (c : Competition) (id : Ident) (name : String) : Except Error Competition := do
  let club ← c.getClub id
  return c.putClub { club with name := name }

/-- The teams of a club, which has to be registered. -/
def clubTeams (c : Competition) (id : Ident) : Except Error (List Team) := do
  discard <| c.getClub id
  return c.teams.filter (·.club == some id)

/-- Accepts no club, or one that is registered. -/
def checkClub (c : Competition) : Option Ident → Except Error Unit
  | none => .ok ()
  | some id => discard <| c.getClub id

/-! ## Teams -/

def findTeam? (c : Competition) (id : Ident) : Option Team :=
  c.teams.find? (·.id == id)

def hasTeam (c : Competition) (id : Ident) : Bool :=
  (c.findTeam? id).isSome

def getTeam (c : Competition) (id : Ident) : Except Error Team :=
  match c.findTeam? id with
  | some team => .ok team
  | none => .error (.notFound .team id.text)

def addTeam (c : Competition) (team : Team) : Except Error Competition := do
  if c.hasTeam team.id then throw (.invalid (.duplicate .team team.id.text .competition))
  c.checkClub team.club
  return { c with teams := c.teams ++ [team] }

def putTeam (c : Competition) (team : Team) : Competition :=
  { c with teams := putFirst (·.id) team c.teams }

def updateTeam (c : Competition) (id : Ident) (change : Team → Except Error Team) :
    Except Error Competition := do
  let team ← change (← c.getTeam id)
  return c.putTeam team

def teamClub (c : Competition) (id : Ident) : Except Error (Option Club) := do
  match (← c.getTeam id).club with
  | none => return none
  | some club => return some (← c.getClub club)

/-- Moves a team to a registered club, or out of any club. -/
def setTeamClub (c : Competition) (id : Ident) (club : Option Ident) :
    Except Error Competition := do
  c.checkClub club
  c.updateTeam id fun team => .ok { team with club := club }

/-! ## Players -/

def findPlayer? (c : Competition) (id : Ident) : Option Player :=
  c.players.find? (·.id == id)

def getPlayer (c : Competition) (id : Ident) : Except Error Player :=
  match c.findPlayer? id with
  | some player => .ok player
  | none => .error (.notFound .player id.text)

def addPlayer (c : Competition) (player : Player) : Except Error Competition := do
  if (c.findPlayer? player.id).isSome then
    throw (.invalid (.duplicate .player player.id.text .competition))
  player.teams.forM fun a => discard <| c.getTeam a.team
  return { c with players := c.players ++ [player] }

def putPlayer (c : Competition) (player : Player) : Competition :=
  { c with players := putFirst (·.id) player c.players }

def updatePlayer (c : Competition) (id : Ident) (change : Player → Except Error Player) :
    Except Error Competition := do
  let player ← change (← c.getPlayer id)
  return c.putPlayer player

def playerTeams (c : Competition) (id : Ident) : Except Error (List Affiliation) :=
  (c.getPlayer id).map (·.teams)

/-- Appends an affiliation with a registered team to a player. -/
def addPlayerTeam (c : Competition) (id : Ident) (a : Affiliation) :
    Except Error Competition := do
  discard <| c.getTeam a.team
  c.updatePlayer id fun player => .ok (player.append a)

/-- The players who have ever been affiliated with a team, which has to be registered. -/
def teamPlayers (c : Competition) (id : Ident) : Except Error (List Player) := do
  discard <| c.getTeam id
  return c.players.filter (·.hasPlayedFor id)

end Competition

end Tourney
