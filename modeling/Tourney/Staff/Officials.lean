import Tourney.Slot.Basic
import Tourney.Text.Blank

/-!
# Match officials

A match is officiated by a team or by named people, never by both. Among people only the first
referee is needed. Naming a first referee turns a team into people; every other change to people
fails while a team officiates.
-/

namespace Tourney

/-- A role among the officials, other than the first referee, that one person holds. -/
inductive Role
  | second
  | challenge
  | assistantChallenge
  | reserve
  | scorer
  | assistantScorer
deriving DecidableEq

def Role.label : Role → String
  | .second => "second"
  | .challenge => "challenge"
  | .assistantChallenge => "assistant_challenge"
  | .reserve => "reserve"
  | .scorer => "scorer"
  | .assistantScorer => "assistant_scorer"

/-- The people who officiate a match. -/
structure OfficialPeople where
  first : String
  second : Option String
  challenge : Option String
  assistantChallenge : Option String
  reserve : Option String
  scorer : Option String
  assistantScorer : Option String
  linespersons : List String
  ballCrew : List String
deriving DecidableEq

namespace OfficialPeople

/-- A first referee and nobody else. -/
def only (first : String) : OfficialPeople :=
  ⟨first, none, none, none, none, none, none, [], []⟩

def holder? (p : OfficialPeople) : Role → Option String
  | .second => p.second
  | .challenge => p.challenge
  | .assistantChallenge => p.assistantChallenge
  | .reserve => p.reserve
  | .scorer => p.scorer
  | .assistantScorer => p.assistantScorer

def assign (p : OfficialPeople) (name : String) : Role → OfficialPeople
  | .second => { p with second := some name }
  | .challenge => { p with challenge := some name }
  | .assistantChallenge => { p with assistantChallenge := some name }
  | .reserve => { p with reserve := some name }
  | .scorer => { p with scorer := some name }
  | .assistantScorer => { p with assistantScorer := some name }

end OfficialPeople

/-- Who officiates a match. -/
inductive Officials
  | team (slot : TeamSlot)
  | people (p : OfficialPeople)
deriving DecidableEq

namespace Officials

/-- Accepts a name that is not blank. -/
def checkName (name : String) : Except Error Unit :=
  if Text.allBlank name then .error (.officials .blankName) else .ok ()

/-- A first referee and nobody else. -/
def ofFirst (name : String) : Except Error Officials := do
  checkName name
  return .people (.only name)

/-- The officials that are given by a team or by people; exactly one has to be present, and the
first referee has to have a name. -/
def ofParts : Option TeamSlot → Option OfficialPeople → Except Error Officials
  | some slot, none => .ok (.team slot)
  | none, some p => do
      checkName p.first
      return .people p
  | some _, some _ => .error (.officials .teamAndPeople)
  | none, none => .error (.officials .nobody)

def team? : Officials → Option TeamSlot
  | .team slot => some slot
  | .people _ => none

def people? : Officials → Option OfficialPeople
  | .team _ => none
  | .people p => some p

def first? (o : Officials) : Option String :=
  o.people?.map (·.first)

def holder? (o : Officials) (role : Role) : Option String :=
  o.people?.bind (·.holder? role)

def hasFirst (o : Officials) : Bool :=
  o.first?.isSome

def hasRole (o : Officials) (role : Role) : Bool :=
  (o.holder? role).isSome

/-- The linespersons; none while a team officiates. -/
def linespersons (o : Officials) : List String :=
  (o.people?.map (·.linespersons)).getD []

/-- The ball crew; nobody while a team officiates. -/
def ballCrew (o : Officials) : List String :=
  (o.people?.map (·.ballCrew)).getD []

/-- Hands the match to a team. -/
def setTeam (_ : Officials) (slot : TeamSlot) : Officials :=
  .team slot

/-- Names the first referee, in place of a team if one officiates. -/
def setFirst (o : Officials) (name : String) : Except Error Officials := do
  checkName name
  match o with
  | .team _ => return .people (.only name)
  | .people p => return .people { p with first := name }

def setRole (o : Officials) (role : Role) (name : String) : Except Error Officials := do
  checkName name
  match o with
  | .team _ => throw (.officials (.roleOfTeam role.label))
  | .people p => return .people (p.assign name role)

def setLinespersons : Officials → List String → Except Error Officials
  | .team _, _ => .error (.officials (.crewOfTeam "linespersons"))
  | .people p, names => .ok (.people { p with linespersons := names })

def setBallCrew : Officials → List String → Except Error Officials
  | .team _, _ => .error (.officials (.crewOfTeam "ball crew"))
  | .people p, names => .ok (.people { p with ballCrew := names })

end Officials

end Tourney
