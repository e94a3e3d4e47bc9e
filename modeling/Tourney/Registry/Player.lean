import Tourney.Calendar.Date
import Tourney.Ident

/-!
# Players and their affiliations

A player plays for teams over periods of time, which may be open at either end. Of the periods that
cover a day, the one appended last says for whom the player plays.
-/

namespace Tourney

/-- A period in which a player plays for a team. -/
structure Affiliation where
  team : Ident
  /-- The first day; none if unknown. -/
  since : Option Date
  /-- The last day; none if the period goes on. -/
  until? : Option Date
  notes : Option String
deriving DecidableEq

namespace Affiliation

/-- A period without ends. -/
def new (team : Ident) : Affiliation :=
  ⟨team, none, none, none⟩

/-- Sets the first day from its written form. -/
def setSince (a : Affiliation) (text : String) : Except Error Affiliation := do
  let date ← Date.parse text
  return { a with since := some date }

/-- Sets the last day from its written form. -/
def setUntil (a : Affiliation) (text : String) : Except Error Affiliation := do
  let date ← Date.parse text
  return { a with until? := some date }

/-- Leaves the end of the period open. -/
def clearUntil (a : Affiliation) : Affiliation :=
  { a with until? := none }

/-- Whether the period covers a day. -/
def isActiveOn (a : Affiliation) (day : Date) : Bool :=
  a.since.all (· ≤ day) && a.until?.all (day ≤ ·)

end Affiliation

structure Player where
  id : Ident
  name : String
  number : Option Nat
  notes : Option String
  /-- The periods in the order in which they were appended. -/
  teams : List Affiliation
deriving DecidableEq

namespace Player

def new (id : Ident) (name : String) : Player :=
  ⟨id, name, none, none, []⟩

def append (p : Player) (a : Affiliation) : Player :=
  { p with teams := p.teams ++ [a] }

/-- Changes the affiliation at an index; an index beyond the end changes nothing. -/
def updateAt (p : Player) (index : Nat) (change : Affiliation → Except Error Affiliation) :
    Except Error Player :=
  match p.teams[index]? with
  | none => .ok p
  | some a => do
      let a ← change a
      return { p with teams := p.teams.set index a }

/-- The team that the player plays for on a day. -/
def teamOn? (p : Player) (day : Date) : Option Ident :=
  (p.teams.reverse.find? (·.isActiveOn day)).map (·.team)

def hasPlayedFor (p : Player) (team : Ident) : Bool :=
  p.teams.any (·.team == team)

end Player

end Tourney
