import Tourney.Competition.Structure
import Tourney.Dependency.Indexed

/-!
# Trees

A competition is a tree of stages, groups and entries, each list of which has an index. The checks
and all lookups read these indexes. A stage that is accessed may be changed to anything without a
check; `Tree.validate` makes the checks again.
-/

namespace Tourney

/-- A competition with an index of the places of its stages. -/
structure Tree where
  name : String
  notes : Option String
  clubs : List Club
  teams : List Team
  players : List Player
  stages : List IndexedStage
  places : Places

namespace Tree

/-- A competition with nothing but a name. -/
def new (name : String) : Tree :=
  ⟨name, none, [], [], [], [], .empty⟩

/-- A competition with clubs, teams and players, and without stages. -/
def enrolled (name : String) (notes : Option String) (clubs : List Club) (teams : List Team)
    (players : List Player) : Tree :=
  ⟨name, notes, clubs, teams, players, [], .empty⟩

/-- A competition with new indexes. -/
def of (c : Competition) : Tree where
  name := c.name
  notes := c.notes
  clubs := c.clubs
  teams := c.teams
  players := c.players
  stages := c.stages.map .of
  places id := c.stages.findIdx? (·.id == id)

/-- The competition without its indexes. -/
def competition (t : Tree) : Competition :=
  ⟨t.name, t.notes, t.clubs, t.teams, t.players, t.stages.map (·.stage)⟩

def hasStage (t : Tree) (id : Ident) : Bool :=
  (t.places id).isSome

def getStage (t : Tree) (id : Ident) : Except Error IndexedStage :=
  match t.places.find? t.stages id with
  | some s => .ok s
  | none => .error (.unknownStage id.text)

def getGroup (t : Tree) (stage group : Ident) : Except Error IndexedGroup := do
  (← t.getStage stage).getGroup group

def getMatch (t : Tree) (stage group fixture : Ident) : Except Error Match := do
  (← t.getGroup stage group).getMatch fixture

/-! ## Checks -/

/-- The dependencies in the competition, if references stand where they may and have no cycle. -/
def dependencyGraph (t : Tree) : Except Error DependencyGraph := do
  let graph ← DependencyGraph.buildIndexed t.stages
  graph.checkAcyclic
  return graph

/-- Checks the teams that the slots of a stage name. -/
def checkLiterals (t : Tree) (s : IndexedStage) : Except Error Unit :=
  t.competition.checkLiterals s.stage

/-- Checks the structure of the whole competition. -/
def validate (t : Tree) : Except Error Unit := do
  t.stages.forM t.checkLiterals
  discard t.dependencyGraph

/-- Checks the teams that the last stage names, and the references in all stages. -/
def check (t : Tree) : Except Error Unit := do
  match t.stages.getLast? with
  | none => pure ()
  | some s => t.checkLiterals s
  discard t.dependencyGraph

/-! ## Changes -/

/-- Puts a stage at the end, whether the structure holds with it or not. -/
def push (t : Tree) (s : IndexedStage) : Tree :=
  { t with
    places := t.places.insert s.id t.stages.length
    stages := t.stages ++ [s] }

def pop (t : Tree) : Tree :=
  match t.stages.getLast? with
  | none => t
  | some s => { t with stages := t.stages.dropLast, places := t.places.erase s.id }

/-- Appends a stage whose identifier is new and with which the structure holds. -/
def addStage (t : Tree) (s : IndexedStage) : Except Error Unit × Tree :=
  if t.hasStage s.id then
    (.error (.invalid (.duplicate .stage s.id.text .competition)), t)
  else
    match (t.push s).check with
    | .ok _ => (.ok (), t.push s)
    | .error e => (.error e, (t.push s).pop)

def access (t : Tree) (id : Ident) (change : IndexedStage → Except Error Unit × IndexedStage) :
    Except Error Unit × Tree :=
  let (result, stages) := t.places.amend t.stages id (.unknownStage id.text) change
  (result, { t with stages := stages })

def accessGroup (t : Tree) (stage group : Ident)
    (change : IndexedGroup → Except Error Unit × IndexedGroup) : Except Error Unit × Tree :=
  t.access stage fun s => s.access group change

def accessMatch (t : Tree) (stage group id : Ident) (change : Match → Match) :
    Except Error Unit × Tree :=
  t.accessGroup stage group fun g => g.access id change

def inStage (t : Tree) (id : Ident) (call : StageCall) : Except Error Unit × Tree :=
  t.access id call.perform

end Tree

/-- What is asked of a competition. -/
inductive TreeCall
  | addStage (s : IndexedStage) (built : s.Built)
  | inStage (id : Ident) (call : StageCall)
  /-- To have other clubs, teams and players registered. -/
  | enroll (clubs : List Club) (teams : List Team) (players : List Player)

/-- Makes a call. Returns whether it succeeded, and the competition as it is then. -/
def TreeCall.perform : TreeCall → Tree → Except Error Unit × Tree
  | addStage s _, t => t.addStage s
  | inStage id call, t => t.inStage id call
  | enroll clubs teams players, t =>
      (.ok (), { t with clubs := clubs, teams := teams, players := players })

end Tourney
