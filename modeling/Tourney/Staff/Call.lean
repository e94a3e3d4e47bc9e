import Tourney.Call
import Tourney.Staff.Manager
import Tourney.Staff.Officials

/-!
# Calls on the staff of a match

The manager and the officials of a match are changed in place, by one call after another. What a
call writes depends on whether it finds a team or people, and a name is checked where the call comes
to need it.
-/

namespace Tourney

/-! ## The manager -/

/-- What is asked of the manager of a match. -/
inductive ManagerCall
  | setTeam (slot : TeamSlot)
  | setName (name : String)
deriving DecidableEq

namespace ManagerCall

def act : ManagerCall → Changing Manager Unit
  | setTeam slot => set (Manager.team slot)
  | setName name => do
      set (← MonadExcept.ofExcept (Manager.ofPerson name))

/-- Makes a call. Returns whether it succeeded, and the manager as it is then. -/
def perform (call : ManagerCall) (m : Manager) : Except Error Unit × Manager :=
  (ExceptT.run call.act).run m

end ManagerCall

/-! ## The officials -/

/-- What is asked of the officials of a match. -/
inductive OfficialsCall
  | setTeam (slot : TeamSlot)
  | setFirst (name : String)
  | setRole (role : Role) (name : String)
  | setLinespersons (names : List String)
  | setBallCrew (names : List String)
deriving DecidableEq

namespace OfficialsCall

def act : OfficialsCall → Changing Officials Unit
  | setTeam slot => set (Officials.team slot)
  | setFirst name => do
      match ← get with
      | .people p =>
          MonadExcept.ofExcept (Officials.checkName name)
          set (Officials.people { p with first := name })
      | .team _ => set (← MonadExcept.ofExcept (Officials.ofFirst name))
  | setRole role name => do
      MonadExcept.ofExcept (Officials.checkName name)
      match ← get with
      | .people p => set (Officials.people (p.assign name role))
      | .team _ => throw (.officials (.roleOfTeam role.label))
  | setLinespersons names => do
      match ← get with
      | .people p => set (Officials.people { p with linespersons := names })
      | .team _ => throw (.officials (.crewOfTeam "linespersons"))
  | setBallCrew names => do
      match ← get with
      | .people p => set (Officials.people { p with ballCrew := names })
      | .team _ => throw (.officials (.crewOfTeam "ball crew"))

/-- Makes a call. Returns whether it succeeded, and the officials as they are then. -/
def perform (call : OfficialsCall) (o : Officials) : Except Error Unit × Officials :=
  (ExceptT.run call.act).run o

end OfficialsCall

end Tourney
