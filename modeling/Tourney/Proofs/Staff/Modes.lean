import Tourney.Proofs.Call
import Tourney.Proofs.Traversal
import Tourney.Staff.Call

/-!
# Team or people

A match is managed by a team or by a person, and officiated by a team or by people. Whatever calls
are made, nothing of the one is left when the other takes over, and a call that fails has done
nothing (`modes_apart`).
-/

namespace Tourney

/-! ## The manager -/

namespace ManagerCall

variable {call : ManagerCall} {m : Manager} {name : String}

/-- What a call leads to, if it succeeds. -/
def attempt : ManagerCall → Manager → Except Error Manager
  | setTeam slot, m => .ok (m.setTeam slot)
  | setName name, m => m.setName name

/-- A call that a manager refuses: one that hands the match to a person without a name. -/
inductive Refused : ManagerCall → Prop
  | setName {name : String} (blank : Text.allBlank name = true) : Refused (setName name)

theorem performs : Calls.Performs perform attempt := by
  intro call m
  cases call with
  | setTeam slot => rfl
  | setName name =>
      simp only [perform, act, attempt, Manager.setName]
      cases Manager.ofPerson name <;> rfl

theorem attempt_refused : (∃ e, call.attempt m = .error e) ↔ call.Refused := by
  constructor
  · rintro ⟨e, failed⟩
    cases call with
    | setTeam slot => cases failed
    | setName name =>
        simp only [attempt, Manager.setName, Manager.ofPerson] at failed
        split at failed
        · next blank => exact .setName blank
        · cases failed
  · rintro ⟨blank⟩
    exact ⟨.manager .blankName, if_pos blank⟩

/-- A name that is accepted is that of the person who manages from then on. -/
theorem attempt_setName {m' : Manager} (accepted : (setName name).attempt m = .ok m') :
    m' = .person name := by
  simp only [attempt, Manager.setName, Manager.ofPerson] at accepted
  split at accepted
  · cases accepted
  · exact (Except.ok.inj accepted).symm

end ManagerCall

theorem Manager.team_or_person (m : Manager) : m.team?.isSome = !m.name?.isSome := by
  cases m <;> rfl

/-! ## The officials -/

namespace OfficialsCall

variable {call : OfficialsCall} {o : Officials}

/-- What a call leads to, if it succeeds. -/
def attempt : OfficialsCall → Officials → Except Error Officials
  | setTeam slot, o => .ok (o.setTeam slot)
  | setFirst name, o => o.setFirst name
  | setRole role name, o => o.setRole role name
  | setLinespersons names, o => o.setLinespersons names
  | setBallCrew names, o => o.setBallCrew names

/-- When officials refuse a call: when its name is blank, and when it is about a role or a crew
while a team officiates. -/
def Refused : OfficialsCall → Officials → Prop
  | setTeam _, _ => False
  | setFirst name, _ => Text.allBlank name = true
  | setRole _ name, o => Text.allBlank name = true ∨ o.team?.isSome
  | setLinespersons _, o | setBallCrew _, o => o.team?.isSome

theorem performs : Calls.Performs perform attempt := by
  intro call o
  cases call with
  | setTeam slot => rfl
  | setFirst name =>
      simp only [perform, act, attempt, Officials.setFirst, Officials.ofFirst]
      cases o <;> cases Officials.checkName name <;> rfl
  | setRole role name =>
      simp only [perform, act, attempt, Officials.setRole]
      cases Officials.checkName name <;> cases o <;> rfl
  | setLinespersons names => cases o <;> rfl
  | setBallCrew names => cases o <;> rfl

theorem exists_checkName_bind_eq_error {next : Unit → Except Error Officials} {name : String} :
    (∃ e, Officials.checkName name >>= next = .error e) ↔
      Text.allBlank name = true ∨ ∃ e, next () = .error e := by
  unfold Officials.checkName
  cases blank : Text.allBlank name <;> simp [bind, Except.bind]

theorem attempt_refused : (∃ e, call.attempt o = .error e) ↔ call.Refused o := by
  cases call with
  | setTeam slot => simp [attempt, Refused]
  | setFirst name =>
      refine exists_checkName_bind_eq_error.trans ?_
      cases o <;> simp [Refused, pure, Except.pure]
  | setRole role name =>
      refine exists_checkName_bind_eq_error.trans ?_
      cases o <;>
        simp [Refused, Officials.team?, pure, Except.pure, throw, throwThe, MonadExceptOf.throw]
  | setLinespersons names =>
      cases o <;> simp [attempt, Refused, Officials.setLinespersons, Officials.team?]
  | setBallCrew names =>
      cases o <;> simp [attempt, Refused, Officials.setBallCrew, Officials.team?]

theorem attempt_setFirst {name : String} {o' : Officials}
    (accepted : (setFirst name).attempt o = .ok o') :
    (∀ slot, o = .team slot → o' = .people (.only name)) ∧
      ∀ p, o = .people p → o' = .people { p with first := name } := by
  obtain ⟨⟨⟩, -, named⟩ := bind_eq_ok.mp accepted
  cases o with
  | team slot =>
      cases named
      exact ⟨fun _ _ => rfl, nofun⟩
  | people p =>
      cases named
      exact ⟨nofun, fun _ same => by cases same; rfl⟩

end OfficialsCall

namespace Officials

theorem team_or_people (o : Officials) : o.team?.isSome = !o.people?.isSome := by
  cases o <;> rfl

theorem nobody_of_team {o : Officials} (team : o.team?.isSome) :
    o.hasFirst = false ∧ (∀ role, o.hasRole role = false) ∧ o.linespersons = [] ∧
      o.ballCrew = [] := by
  cases o with
  | team slot => exact ⟨rfl, fun _ => rfl, rfl, rfl⟩
  | people p => cases team

end Officials

/-! ## Any calls -/

/-- After any calls, a match is officiated either by a team or by people, and where a team
officiates nobody holds a role or stands in a crew. A first referee who is named next is alone if a
team has officiated, and joins the others if people have. A call fails for a blank name and for a role
or a crew of a team, and changes nothing then; the calls that have succeeded come to the same
officials without the others. The same is true of the team or the person who manages a match. -/
theorem modes_apart :
    (∀ (start : Officials) (calls : List OfficialsCall),
      let o := Calls.run OfficialsCall.perform calls start
      o.team?.isSome = !o.people?.isSome ∧
        (o.team?.isSome → o.hasFirst = false ∧ (∀ role, o.hasRole role = false) ∧
          o.linespersons = [] ∧ o.ballCrew = []) ∧
        (∀ name o', OfficialsCall.perform (.setFirst name) o = (.ok (), o') →
          (∀ slot, o = .team slot → o' = .people (.only name)) ∧
            ∀ p, o = .people p → o' = .people { p with first := name }) ∧
        (∀ call : OfficialsCall, ((∃ e, (call.perform o).1 = .error e) ↔ call.Refused o) ∧
          ∀ e, (call.perform o).1 = .error e → (call.perform o).2 = o) ∧
        (Calls.successes OfficialsCall.perform calls start).foldlM
          (fun o call => call.attempt o) start = .ok o) ∧
    ∀ (start : Manager) (calls : List ManagerCall),
      let m := Calls.run ManagerCall.perform calls start
      m.team?.isSome = !m.name?.isSome ∧
        (∀ name m', ManagerCall.perform (.setName name) m = (.ok (), m') → m' = .person name) ∧
        (∀ call : ManagerCall, ((∃ e, (call.perform m).1 = .error e) ↔ call.Refused) ∧
          ∀ e, (call.perform m).1 = .error e → (call.perform m).2 = m) ∧
        (Calls.successes ManagerCall.perform calls start).foldlM
          (fun m call => call.attempt m) start = .ok m := by
  constructor
  · intro start calls o
    have calls' := OfficialsCall.performs
    refine ⟨o.team_or_people, Officials.nobody_of_team, ?_, fun call => ⟨?_, ?_⟩, ?_⟩
    · exact fun name o' named => OfficialsCall.attempt_setFirst (calls'.eq_ok.mp named)
    · simp only [calls'.fst_eq_error, OfficialsCall.attempt_refused]
    · exact fun e failed => calls'.unchanged failed
    · exact calls'.replay calls start
  · intro start calls m
    have calls' := ManagerCall.performs
    refine ⟨m.team_or_person, ?_, fun call => ⟨?_, ?_⟩, ?_⟩
    · exact fun name m' named => ManagerCall.attempt_setName (calls'.eq_ok.mp named)
    · simp only [calls'.fst_eq_error, ManagerCall.attempt_refused]
    · exact fun e failed => calls'.unchanged failed
    · exact calls'.replay calls start

namespace SmallCup

def referees : Officials :=
  .people { OfficialPeople.only "A First" with second := some "B Second", linespersons := ["C"] }

def hostsSlot : TeamSlot :=
  .literal ⟨"TM1", by decide, by decide, List.all_eq_true.mp rfl⟩

/-- The hosts take over from referees and cannot have a scorer. -/
def takeover : List OfficialsCall :=
  [.setTeam hostsSlot, .setRole .scorer "D Scorer"]

/-- When a first referee takes over from the hosts, none of the others is back. -/
theorem referees_replaced :
    let o := Calls.run OfficialsCall.perform takeover referees
    o = .team hostsSlot ∧ o.hasFirst = false ∧
      (OfficialsCall.perform (.setRole .scorer "D Scorer") o).2 = o ∧
      OfficialsCall.perform (.setFirst "E First") o = (.ok (), .people (.only "E First")) := by
  obtain ⟨-, nobody, first, calls, -⟩ := modes_apart.1 referees takeover
  refine ⟨rfl, (nobody rfl).1, ?_, ?_⟩
  · exact (calls (.setRole .scorer "D Scorer")).2 _ rfl
  · have named := (first "E First" _ rfl).1 hostsSlot rfl
    exact Prod.ext rfl named

end SmallCup

end Tourney
