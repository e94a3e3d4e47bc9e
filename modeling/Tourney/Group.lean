import Tourney.League.Table
import Tourney.Match

/-!
# Groups

A group is a list of matches and breaks with one scoring regime. Its kind says how it answers for
positions: a league by its table, a crossover by the winners and losers of its matches in turn, a
knockout by an explicit list of slots. `Group.source` says where the team that a target asks for is
to be found: in a slot of the group, or in a row of its table.
-/

namespace Tourney

/-- The plain kind of a group. -/
inductive GroupType
  | league
  | crossover
  | knockout
deriving DecidableEq

/-- The kind of a group with what belongs to it. -/
inductive GroupKind
  | league (config : LeagueConfig)
  | crossover
  /-- The slots hold the final positions, the first position first. -/
  | knockout (standing : List TeamSlot)
deriving DecidableEq

def GroupKind.type : GroupKind → GroupType
  | .league _ => .league
  | .crossover => .crossover
  | .knockout _ => .knockout

/-- An entry in the schedule of a group. -/
inductive Entry
  | fixture (m : Match)
  | pause (b : Break)
deriving DecidableEq

def Entry.match? : Entry → Option Match
  | .fixture m => some m
  | .pause _ => none

def Entry.id? (e : Entry) : Option Ident :=
  e.match?.map (·.id)

/-- A group of matches within a stage. -/
structure Group where
  id : Ident
  name : Option String
  notes : Option String
  kind : GroupKind
  entries : List Entry
  rules : SetRules
  form : MatchForm
  drawsAllowed : Bool
deriving DecidableEq

namespace Group

/-- An empty group with standard rules and without draws. -/
def new (id : Ident) (kind : GroupKind) (form : MatchForm) : Group where
  id := id
  name := none
  notes := none
  kind := kind
  entries := []
  rules := .standard
  form := form
  drawsAllowed := false

/-- What every score of the group is checked against. -/
def scoring (g : Group) : Scoring :=
  ⟨g.rules, g.form, g.drawsAllowed⟩

/-- Replaces the scoring rules. Recorded scores are not evaluated again. -/
def setRules (g : Group) (rules : SetRules) : Except Error Group := do
  rules.validate
  return { g with rules := rules }

/-- Allows or forbids draws. Only a league may allow them. -/
def setDrawsAllowed (g : Group) (allowed : Bool) : Except Error Group :=
  if allowed ∧ g.kind.type ≠ .league then .error (.invalid (.drawsOutsideLeague g.id.text))
  else .ok { g with drawsAllowed := allowed }

/-! ## Entries -/

/-- The matches in the order of the schedule. -/
def games (g : Group) : List Match :=
  g.entries.filterMap Entry.match?

/-- The match that has an identifier. The index of a group may have another one for it. -/
def findMatch? (g : Group) (id : Ident) : Option Match :=
  g.games.find? (·.id == id)

def hasMatch (g : Group) (id : Ident) : Bool :=
  (g.findMatch? id).isSome

def getMatch (g : Group) (id : Ident) : Except Error Match :=
  match g.findMatch? id with
  | some m => .ok m
  | none => .error (.unknownMatch g.id.text id.text)

/-- The place of a match among all entries, breaks included. -/
def entryIndex? (g : Group) (id : Ident) : Option Nat :=
  g.entries.findIdx? fun e => e.match?.any (·.id == id)

/-- Appends a match whose identifier is new. -/
def addMatch (g : Group) (m : Match) : Except Error Group :=
  if g.hasMatch m.id then .error (.invalid (.duplicate .fixture m.id.text .group))
  else .ok { g with entries := g.entries ++ [.fixture m] }

def addBreak (g : Group) (b : Break) : Group :=
  { g with entries := g.entries ++ [.pause b] }

def putMatch (g : Group) (m : Match) : Group :=
  { g with entries := putFirst Entry.id? (.fixture m) g.entries }

def updateMatch (g : Group) (id : Ident) (change : Match → Except Error Match) :
    Except Error Group := do
  let m ← change (← g.getMatch id)
  return g.putMatch m

/-- Records a complete score. -/
def record (g : Group) (id : Ident) (scores : List SetScore) : Except Error Group :=
  g.updateMatch id (·.record g.scoring scores)

/-- Records the score of a match still in progress. -/
def recordPartial (g : Group) (id : Ident) (scores : List SetScore) : Except Error Group :=
  g.updateMatch id (·.recordPartial g.scoring scores)

def isComplete (g : Group) : Bool :=
  g.games.all (·.isComplete)

/-! ## Slots -/

/-- The slots of the final positions of a knockout. -/
def standing (g : Group) : List TeamSlot :=
  match g.kind with
  | .knockout standing => standing
  | _ => []

/-- Every slot in the group: those of the matches in order, then the final positions. -/
def slots (g : Group) : List TeamSlot :=
  g.games.flatMap (·.slots) ++ g.standing

/-! ## League tables -/

/-- The matches that count for the table. -/
def leagueMatches (g : Group) : List Match :=
  g.games.filter (!·.friendly)

/-- The settings of a group that has to be a league. -/
def leagueConfig (g : Group) : Except Error LeagueConfig :=
  match g.kind with
  | .league config => .ok config
  | _ => .error (.invalid (.standingsOutsideLeague g.id.text))

end Group

/-- A match with the teams that stand in its slots. -/
structure Fixture where
  game : Match
  home : Ident
  away : Ident
deriving DecidableEq

namespace Fixture

def teams (f : Fixture) : List Ident :=
  [f.home, f.away]

/-- What a complete match contributes to a league. -/
def result? (f : Fixture) : Option LeagueResult :=
  f.game.evaluation?.map fun e => ⟨f.home, f.away, e, f.game.scores⟩

/-- The teams of a list of matches, in order of first appearance. -/
def allTeams (fixtures : List Fixture) : List Ident :=
  (fixtures.flatMap teams).eraseDups

end Fixture

namespace Group

/-- The table of a league over matches whose teams are known. -/
def tableOf (g : Group) (config : LeagueConfig) (fixtures : List Fixture) : List Row :=
  table (Fixture.allTeams fixtures) (fixtures.filterMap Fixture.result?) g.form config

/-! ## Positions -/

/-- Where the team that a target asks for is to be found. -/
inductive Source
  /-- Whoever stands in a slot of the group. -/
  | slot (s : TeamSlot)
  /-- The team in a row of the league table, numbered from one. -/
  | row (config : LeagueConfig) (n : Nat)
deriving DecidableEq

/-- The error for a position that the group does not have. -/
def noPosition (g : Group) (n : Nat) : Error :=
  .notFound (.position g.id.text) (toString n)

/-- The slot on the side that a match has decided on. The match has to be complete. -/
def decidedSlot (m : Match) (side : Match → Except Error Side) : Except Error Source := do
  let side ← side m
  return .slot (m.slot side)

/-- The source of a match's winner or loser, given how matches are found. -/
def matchSourceVia (getMatch : Ident → Except Error Match) (r : Reference) (id : Ident)
    (side : Match → Except Error Side) : Except Error Source := do
  let m ← getMatch id
  if m.isComplete then decidedSlot m side else throw (.undecided r.text)

/-- The source of a match's winner or loser. -/
def matchSource (g : Group) (r : Reference) (id : Ident) (side : Match → Except Error Side) :
    Except Error Source :=
  matchSourceVia g.getMatch r id side

/-- The source of a rank in a league, which has to be complete. -/
def leagueSource (g : Group) (r : Reference) (config : LeagueConfig) (n : Nat) :
    Except Error Source :=
  if g.isComplete then .ok (.row config n) else .error (.undecided r.text)

/-- The source of a position in a crossover: the winner and the loser of each match in turn. -/
def crossoverSource (g : Group) (r : Reference) (n : Nat) : Except Error Source :=
  match g.games[(n - 1) / 2]? with
  | none => .error (g.noPosition n)
  | some m =>
      if g.isComplete then
        decidedSlot m (if n % 2 = 1 then Match.winnerSide else Match.loserSide)
      else .error (.undecided r.text)

/-- The source of a final position in a knockout. -/
def knockoutSource (g : Group) (r : Reference) (standing : List TeamSlot) (n : Nat) :
    Except Error Source :=
  match standing[n - 1]? with
  | none => .error (g.noPosition n)
  | some s => if g.isComplete then .ok (.slot s) else .error (.undecided r.text)

/-- The source of what a reference asks of the group. Positions are numbered from one. -/
def source (g : Group) (r : Reference) : Except Error Source :=
  match r.target with
  | .winner id => g.matchSource r id Match.winnerSide
  | .loser id => g.matchSource r id Match.loserSide
  | .rank n =>
      if n = 0 then .error (g.noPosition 0)
      else match g.kind with
        | .league config => g.leagueSource r config n
        | _ => .error (.invalid (.rankOutsideLeague r.text g.id.text))
  | .position n =>
      if n = 0 then .error (g.noPosition 0)
      else match g.kind with
        | .league config => g.leagueSource r config n
        | .crossover => g.crossoverSource r n
        | .knockout standing => g.knockoutSource r standing n

/-- The team in a row of a table, numbered from one. -/
def teamInRow (g : Group) (rows : List Row) (n : Nat) : Except Error Ident :=
  match rows[n - 1]? with
  | some row => .ok row.team
  | none => .error (g.noPosition n)

end Group

end Tourney
