import Tourney.Ident

/-!
# Teams and their contacts

A team may belong to a club and has contacts, each of whom holds at least one role. Contact
identifiers are unique within a team. Nothing here bears on resolution but the identifier.
-/

namespace Tourney

/-- A role that a contact holds for a team. -/
inductive ContactRole
  | secretary
  | treasurer
  | manager
  | captain
  | coach
  | assistantCoach
  | medic
deriving DecidableEq

/-- Every role, in the order in which roles are listed. -/
def ContactRole.all : List ContactRole :=
  [.secretary, .treasurer, .manager, .captain, .coach, .assistantCoach, .medic]

/-- Whom to ask about a team. -/
structure Contact where
  id : Ident
  name : Option String
  /-- The roles held, each once and in the order of `ContactRole.all`. -/
  roles : List ContactRole
  emails : List String
  phones : List String
deriving DecidableEq

namespace Contact

/-- The roles of a list, each once and in the order of all roles. -/
def arranged (roles : List ContactRole) : List ContactRole :=
  ContactRole.all.filter roles.contains

/-- A contact with at least one role. -/
def new (id : Ident) (roles : List ContactRole) : Except Error Contact :=
  if roles = [] then .error (.invalid (.contactWithoutRole id.text))
  else .ok ⟨id, none, arranged roles, [], []⟩

def hasRole (c : Contact) (role : ContactRole) : Bool :=
  c.roles.contains role

def addRole (c : Contact) (role : ContactRole) : Contact :=
  { c with roles := arranged (role :: c.roles) }

/-- Takes a role away, unless it is the only one. -/
def removeRole (c : Contact) (role : ContactRole) : Except Error Contact :=
  if c.roles = [role] then .error (.invalid (.lastRole c.id.text))
  else .ok { c with roles := c.roles.filter (· != role) }

end Contact

/-- A team entered in a competition. -/
structure Team where
  id : Ident
  name : String
  notes : Option String
  club : Option Ident
  contacts : List Contact
deriving DecidableEq

namespace Team

/-- A team without a club and without contacts. -/
def new (id : Ident) (name : String) : Team :=
  ⟨id, name, none, none, []⟩

def findContact? (t : Team) (id : Ident) : Option Contact :=
  t.contacts.find? (·.id == id)

def hasContact (t : Team) (id : Ident) : Bool :=
  (t.findContact? id).isSome

def getContact (t : Team) (id : Ident) : Except Error Contact :=
  match t.findContact? id with
  | some c => .ok c
  | none => .error (.notFound .contact id.text)

/-- Adds a contact whose identifier is new. -/
def addContact (t : Team) (c : Contact) : Except Error Team :=
  if t.hasContact c.id then .error (.invalid (.duplicate .contact c.id.text (.team t.id.text)))
  else .ok { t with contacts := t.contacts ++ [c] }

def putContact (t : Team) (c : Contact) : Team :=
  { t with contacts := putFirst (·.id) c t.contacts }

def updateContact (t : Team) (id : Ident) (change : Contact → Except Error Contact) :
    Except Error Team := do
  let c ← change (← t.getContact id)
  return t.putContact c

def contactsWithRole (t : Team) (role : ContactRole) : List Contact :=
  t.contacts.filter (·.hasRole role)

end Team

end Tourney
