import Tourney.Group

/-!
# Stages

A stage is a list of groups, such as the pools or the finals. Later stages may refer to earlier
ones. Group identifiers are unique within a stage.
-/

namespace Tourney

structure Stage where
  id : Ident
  name : Option String
  notes : Option String
  groups : List Group
deriving DecidableEq

namespace Stage

def new (id : Ident) : Stage where
  id := id
  name := none
  notes := none
  groups := []

/-- The group that has an identifier. The index of a stage may have another one for it. -/
def findGroup? (s : Stage) (id : Ident) : Option Group :=
  s.groups.find? (·.id == id)

def hasGroup (s : Stage) (id : Ident) : Bool :=
  (s.findGroup? id).isSome

def getGroup (s : Stage) (id : Ident) : Except Error Group :=
  match s.findGroup? id with
  | some g => .ok g
  | none => .error (.unknownGroup s.id.text id.text)

/-- Appends a group whose identifier is new. -/
def addGroup (s : Stage) (g : Group) : Except Error Stage :=
  if s.hasGroup g.id then .error (.invalid (.duplicate .group g.id.text .stage))
  else .ok { s with groups := s.groups ++ [g] }

def putGroup (s : Stage) (g : Group) : Stage :=
  { s with groups := putFirst (·.id) g s.groups }

def updateGroup (s : Stage) (id : Ident) (change : Group → Except Error Group) :
    Except Error Stage := do
  let g ← change (← s.getGroup id)
  return s.putGroup g

def isComplete (s : Stage) : Bool :=
  s.groups.all (·.isComplete)

def slots (s : Stage) : List TeamSlot :=
  s.groups.flatMap (·.slots)

end Stage

end Tourney
