import Tourney.Competition.Registers

/-!
# Rosters

A roster is a competition whose registers are filled in place. Each register has an index of the
places of its elements, and whatever is looked up by identifier is looked up there. A change makes
its checks and writes as it goes along; what is written before a failure stays written.
-/

namespace Tourney

/-- The place of the element with an identifier in a list, if there is one. -/
abbrev Places := Ident → Option Nat

namespace Places

def empty : Places :=
  fun _ => none

def insert (places : Places) (id : Ident) (n : Nat) : Places :=
  fun id' => if id' = id then some n else places id'

/-- The place of an identifier that has to have one. -/
def place (places : Places) (entity : Entity) (id : Ident) : Except Error Nat :=
  match places id with
  | some n => .ok n
  | none => .error (.notFound entity id.text)

/-- The element at the place of an identifier. -/
def get {α : Type} (places : Places) (entity : Entity) (xs : List α) (id : Ident) :
    Except Error α :=
  match (places id).bind (xs[·]?) with
  | some x => .ok x
  | none => .error (.notFound entity id.text)

end Places

/-- A competition with an index of each of its registers. -/
structure Roster where
  competition : Competition
  clubPlaces : Places
  teamPlaces : Places
  playerPlaces : Places

/-- A change of a roster in place. -/
abbrev RosterChange := ExceptT Error (StateM Roster)

namespace Roster

def new (name : String) : Roster :=
  ⟨.new name, .empty, .empty, .empty⟩

/-! ## Lookups -/

def hasClub (r : Roster) (id : Ident) : Bool :=
  (r.clubPlaces id).isSome

def hasTeam (r : Roster) (id : Ident) : Bool :=
  (r.teamPlaces id).isSome

def getClub (r : Roster) (id : Ident) : Except Error Club :=
  r.clubPlaces.get .club r.competition.clubs id

def getTeam (r : Roster) (id : Ident) : Except Error Team :=
  r.teamPlaces.get .team r.competition.teams id

def getPlayer (r : Roster) (id : Ident) : Except Error Player :=
  r.playerPlaces.get .player r.competition.players id

/-- The teams of a club, which has to be registered. -/
def clubTeams (r : Roster) (id : Ident) : Except Error (List Team) := do
  discard <| r.getClub id
  return r.competition.teams.filter (·.club == some id)

def teamClub (r : Roster) (id : Ident) : Except Error (Option Club) := do
  match (← r.getTeam id).club with
  | none => return none
  | some club => return some (← r.getClub club)

def playerTeams (r : Roster) (id : Ident) : Except Error (List Affiliation) :=
  (r.getPlayer id).map (·.teams)

/-- Accepts no club, or one that is registered. -/
def checkClub (r : Roster) : Option Ident → Except Error Unit
  | none => .ok ()
  | some id => discard <| r.getClub id

/-! ## Changes -/

/-- Refuses an identifier that has a place already. -/
def refuseTaken (places : Places) (entity : Entity) (id : Ident) : Except Error Unit :=
  if (places id).isSome then .error (.invalid (.duplicate entity id.text .competition)) else .ok ()

def addClub (club : Club) : RosterChange Unit := do
  MonadExcept.ofExcept (refuseTaken (← get).clubPlaces .club club.id)
  modify fun r => { r with clubPlaces := r.clubPlaces.insert club.id r.competition.clubs.length }
  modify fun r => { r with competition.clubs := r.competition.clubs ++ [club] }

def addTeam (team : Team) : RosterChange Unit := do
  MonadExcept.ofExcept (refuseTaken (← get).teamPlaces .team team.id)
  MonadExcept.ofExcept ((← get).checkClub team.club)
  modify fun r => { r with teamPlaces := r.teamPlaces.insert team.id r.competition.teams.length }
  modify fun r => { r with competition.teams := r.competition.teams ++ [team] }

/-- Moves a team to a registered club, or out of any club. -/
def setTeamClub (id : Ident) (club : Option Ident) : RosterChange Unit := do
  MonadExcept.ofExcept ((← get).checkClub club)
  let n ← MonadExcept.ofExcept ((← get).teamPlaces.place .team id)
  modify fun r =>
    { r with competition.teams := r.competition.teams.modify n ({ · with club := club }) }

def addPlayer (player : Player) : RosterChange Unit := do
  MonadExcept.ofExcept (refuseTaken (← get).playerPlaces .player player.id)
  player.teams.forM fun a => do
    discard <| MonadExcept.ofExcept ((← get).getTeam a.team)
  modify fun r =>
    { r with playerPlaces := r.playerPlaces.insert player.id r.competition.players.length }
  modify fun r => { r with competition.players := r.competition.players ++ [player] }

/-- Appends an affiliation with a registered team to a player. -/
def addPlayerTeam (id : Ident) (a : Affiliation) : RosterChange Unit := do
  discard <| MonadExcept.ofExcept ((← get).getTeam a.team)
  let n ← MonadExcept.ofExcept ((← get).playerPlaces.place .player id)
  modify fun r => { r with competition.players := r.competition.players.modify n (·.append a) }

/-! ## Calls -/

/-- A call that registers something. -/
inductive Call
  | addClub (club : Club)
  | addTeam (team : Team)
  | setTeamClub (team : Ident) (club : Option Ident)
  | addPlayer (player : Player)
  | addPlayerTeam (player : Ident) (a : Affiliation)

namespace Call

def change : Call → RosterChange Unit
  | addClub club => Roster.addClub club
  | addTeam team => Roster.addTeam team
  | setTeamClub team club => Roster.setTeamClub team club
  | addPlayer player => Roster.addPlayer player
  | addPlayerTeam player a => Roster.addPlayerTeam player a

/-- Makes a call. Returns whether it succeeded, and the roster as it is then. -/
def perform (call : Call) (r : Roster) : Except Error Unit × Roster :=
  (ExceptT.run call.change).run r

end Call

/-- The roster after calls one after another, successful or failing. -/
def run (calls : List Call) (r : Roster) : Roster :=
  calls.foldl (fun r call => (call.perform r).2) r

end Roster

end Tourney
