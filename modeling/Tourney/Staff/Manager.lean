import Tourney.Slot.Basic
import Tourney.Text.Blank

/-!
# Match managers

A match is managed by a team or by a named person, never by both. A person's name is not blank.
-/

namespace Tourney

inductive Manager
  | team (slot : TeamSlot)
  | person (name : String)
deriving DecidableEq

namespace Manager

def ofPerson (name : String) : Except Error Manager :=
  if Text.allBlank name then .error (.manager .blankName) else .ok (.person name)

/-- The manager that is given by a team or by a name; exactly one has to be present. -/
def ofParts : Option TeamSlot → Option String → Except Error Manager
  | some slot, none => .ok (.team slot)
  | none, some name => ofPerson name
  | some _, some _ => .error (.manager .teamAndPerson)
  | none, none => .error (.manager .nobody)

def team? : Manager → Option TeamSlot
  | .team slot => some slot
  | .person _ => none

def name? : Manager → Option String
  | .team _ => none
  | .person name => some name

/-- Hands the match to a team. -/
def setTeam (_ : Manager) (slot : TeamSlot) : Manager :=
  .team slot

/-- Hands the match to a person. -/
def setName (_ : Manager) (name : String) : Except Error Manager :=
  ofPerson name

end Manager

end Tourney
