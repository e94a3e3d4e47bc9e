import Tourney.Registry.Club
import Tourney.Registry.Player
import Tourney.Registry.Team
import Tourney.Stage

/-!
# Competitions

A competition holds clubs, teams, players and stages, each in the order of their declaration and
found by identifier. This module has the way down to stages, groups and matches, each found by the
identifier that it has itself. A `Tree` finds them by indexes instead, and the two agree exactly
where the indexes are right (`Tree.indexed_iff`). Changes made on the way down are not checked
against the rest of the competition.
-/

namespace Tourney

structure Competition where
  name : String
  notes : Option String
  clubs : List Club
  teams : List Team
  players : List Player
  stages : List Stage
deriving DecidableEq

namespace Competition

/-- A competition with nothing but a name. -/
def new (name : String) : Competition :=
  ⟨name, none, [], [], [], []⟩

/-! ## Stages, groups and matches -/

/-- The stage that has an identifier. The index of a tree may have another one for it. -/
def findStage? (c : Competition) (id : Ident) : Option Stage :=
  c.stages.find? (·.id == id)

def hasStage (c : Competition) (id : Ident) : Bool :=
  (c.findStage? id).isSome

def getStage (c : Competition) (id : Ident) : Except Error Stage :=
  match c.findStage? id with
  | some s => .ok s
  | none => .error (.unknownStage id.text)

def getGroup (c : Competition) (stage group : Ident) : Except Error Group := do
  (← c.getStage stage).getGroup group

def getMatch (c : Competition) (stage group fixture : Ident) : Except Error Match := do
  (← c.getGroup stage group).getMatch fixture

def putStage (c : Competition) (s : Stage) : Competition :=
  { c with stages := putFirst (·.id) s c.stages }

def updateStage (c : Competition) (id : Ident) (change : Stage → Except Error Stage) :
    Except Error Competition := do
  let s ← change (← c.getStage id)
  return c.putStage s

def updateGroup (c : Competition) (stage group : Ident) (change : Group → Except Error Group) :
    Except Error Competition :=
  c.updateStage stage (·.updateGroup group change)

def updateMatch (c : Competition) (stage group fixture : Ident)
    (change : Match → Except Error Match) : Except Error Competition :=
  c.updateGroup stage group (·.updateMatch fixture change)

/-- Records a complete score under the rules of the match's group. -/
def record (c : Competition) (stage group fixture : Ident) (scores : List SetScore) :
    Except Error Competition :=
  c.updateGroup stage group (·.record fixture scores)

/-- Records the score of a match still in progress under the rules of its group. -/
def recordPartial (c : Competition) (stage group fixture : Ident) (scores : List SetScore) :
    Except Error Competition :=
  c.updateGroup stage group (·.recordPartial fixture scores)

def clear (c : Competition) (stage group fixture : Ident) : Except Error Competition :=
  c.updateMatch stage group fixture fun m => .ok m.clear

def isComplete (c : Competition) : Bool :=
  c.stages.all (·.isComplete)

def slots (c : Competition) : List TeamSlot :=
  c.stages.flatMap (·.slots)

def references (c : Competition) : List Reference :=
  c.slots.filterMap (·.reference?)

end Competition

end Tourney
