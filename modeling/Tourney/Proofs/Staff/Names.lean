import Tourney.Document.Building
import Tourney.Proofs.Staff.Modes

/-!
# Names of officials

A call that names an official is refused a blank name, and the first referee has a name wherever
officials come from. The people that officials are made of are otherwise taken as they are given: a
blank name in one of the other roles stays there until a call fills that role or hands the match to
a team, and in no other way does a role come to have a blank name (`nameless_iff_of_given`).
-/

namespace Tourney

variable {o o' start : Officials} {p : OfficialPeople} {given : Option OfficialPeople} {role : Role}
  {call : OfficialsCall} {calls : List OfficialsCall} {name : String}

/-- A role that somebody holds under a blank name. -/
def OfficialPeople.Nameless (p : OfficialPeople) (role : Role) : Prop :=
  ∃ name, p.holder? role = some name ∧ Text.allBlank name = true

theorem OfficialPeople.first_assign (p : OfficialPeople) (name : String) (r : Role) :
    (p.assign name r).first = p.first := by
  cases r <;> rfl

theorem OfficialPeople.holder?_assign (p : OfficialPeople) (name : String) (r role : Role) :
    (p.assign name r).holder? role = if role = r then some name else p.holder? role := by
  cases r <;> cases role <;> rfl

namespace Officials

/-- A role that somebody holds under a blank name. -/
def Nameless (o : Officials) (role : Role) : Prop :=
  ∃ name, o.holder? role = some name ∧ Text.allBlank name = true

/-- The first referee, if there is one, has a name. -/
def FirstNamed (o : Officials) : Prop :=
  ∀ name, o.first? = some name → Text.allBlank name = false

/-- How officials come about, and the people they are given by. -/
inductive Given : Officials → Option OfficialPeople → Prop
  | parts {slot : Option TeamSlot} {people : Option OfficialPeople} {o : Officials} :
      ofParts slot people = .ok o → Given o people
  | first {name : String} {o : Officials} : ofFirst name = .ok o → Given o (some (.only name))
  | team (slot : TeamSlot) : Given (.team slot) none
  | sheet {context : String} {s : OfficialsSheet} {o : Officials} :
      s.build context = .ok o → Given o s.people?

theorem checkName_eq_ok : checkName name = .ok () ↔ Text.allBlank name = false := by
  unfold checkName
  cases Text.allBlank name <;> simp

theorem not_nameless_team (slot : TeamSlot) : ¬ (team slot).Nameless role := by
  rintro ⟨name, held, -⟩
  cases held

/-- Officials are the people that they are given by, and the first referee among them is named. -/
theorem of_ofParts {slot : Option TeamSlot} (accepted : ofParts slot given = .ok o) :
    o.FirstNamed ∧ ∀ role, o.Nameless role ↔ ∃ p, given = some p ∧ p.Nameless role := by
  unfold ofParts at accepted
  split at accepted
  · next slot =>
      cases accepted
      exact ⟨nofun, fun role => ⟨fun h => absurd h (not_nameless_team slot), nofun⟩⟩
  · next p =>
      obtain ⟨⟨⟩, checked, ⟨⟩⟩ := bind_eq_ok.mp accepted
      refine ⟨?_, fun role => ⟨fun h => ⟨p, rfl, h⟩, ?_⟩⟩
      · rintro _ ⟨⟩
        exact checkName_eq_ok.mp checked
      · rintro ⟨_, ⟨⟩, h⟩
        exact h
  · cases accepted
  · cases accepted

theorem of_given (h : o.Given given) :
    o.FirstNamed ∧ ∀ role, o.Nameless role ↔ ∃ p, given = some p ∧ p.Nameless role := by
  cases h with
  | parts accepted => exact of_ofParts accepted
  | @first name _ accepted =>
      have parts : ofParts none (some (.only name)) = .ok o := accepted
      exact of_ofParts parts
  | team slot =>
      have parts : ofParts (some slot) none = .ok (.team slot) := rfl
      exact of_ofParts parts
  | sheet accepted =>
      obtain ⟨slot, -, built⟩ := bind_eq_ok.mp accepted
      exact of_ofParts built

end Officials

namespace OfficialsCall

/-- A call after which a role has another holder, or none. -/
def Replaces : OfficialsCall → Role → Prop
  | setTeam _, _ => True
  | setRole r _, role => role = r
  | setFirst _, _ | setLinespersons _, _ | setBallCrew _, _ => False

theorem firstNamed_of_attempt (named : o.FirstNamed) (accepted : call.attempt o = .ok o') :
    o'.FirstNamed := by
  cases call with
  | setTeam slot =>
      cases accepted
      exact nofun
  | setFirst name =>
      obtain ⟨⟨⟩, checked, rest⟩ := bind_eq_ok.mp accepted
      have first : o'.first? = some name := by
        cases o <;> cases rest <;> rfl
      rintro _ holds
      cases first.symm.trans holds
      exact Officials.checkName_eq_ok.mp checked
  | setRole r name =>
      obtain ⟨⟨⟩, -, rest⟩ := bind_eq_ok.mp accepted
      cases o with
      | team slot => cases rest
      | people p =>
          cases rest
          have same : (Officials.people (p.assign name r)).first? = (Officials.people p).first? :=
            congrArg some (p.first_assign name r)
          exact fun holder held => named holder (same.symm.trans held)
  | setLinespersons names | setBallCrew names =>
      cases o with
      | team slot => cases accepted
      | people p =>
          cases accepted
          exact named

/-- A call keeps the holder of a role that it does not replace. -/
theorem holder?_of_attempt (kept : ¬ call.Replaces role) (accepted : call.attempt o = .ok o') :
    o'.holder? role = o.holder? role := by
  cases call with
  | setTeam slot => exact absurd trivial kept
  | setFirst name =>
      obtain ⟨⟨⟩, -, rest⟩ := bind_eq_ok.mp accepted
      cases o <;> cases rest <;> cases role <;> rfl
  | setRole r name =>
      obtain ⟨⟨⟩, -, rest⟩ := bind_eq_ok.mp accepted
      cases o with
      | team slot => cases rest
      | people p =>
          cases rest
          exact (p.holder?_assign name r role).trans (if_neg kept)
  | setLinespersons names | setBallCrew names =>
      cases o with
      | team slot => cases accepted
      | people p =>
          cases accepted
          cases role <;> rfl

/-- A role that a call replaces has no blank name then. -/
theorem named_of_replaces (replaced : call.Replaces role) (accepted : call.attempt o = .ok o') :
    ¬ o'.Nameless role := by
  cases call with
  | setTeam slot =>
      cases accepted
      exact Officials.not_nameless_team slot
  | setRole r name =>
      obtain ⟨⟨⟩, checked, rest⟩ := bind_eq_ok.mp accepted
      cases o with
      | team slot => cases rest
      | people p =>
          cases rest
          rintro ⟨holder, held, blank⟩
          have : holder = name := by
            have filled := (p.holder?_assign name r role).trans (if_pos replaced)
            exact Option.some.inj (held.symm.trans filled)
          subst this
          rw [Officials.checkName_eq_ok.mp checked] at blank
          cases blank
  | setFirst name | setLinespersons names | setBallCrew names => cases replaced

theorem nameless_of_attempt (accepted : call.attempt o = .ok o') :
    o'.Nameless role ↔ o.Nameless role ∧ ¬ call.Replaces role := by
  by_cases replaced : call.Replaces role
  · simp [replaced, named_of_replaces replaced accepted]
  · simp [replaced, Officials.Nameless, holder?_of_attempt replaced accepted]

/-- After calls that all succeed, the blank names are those that have been there before, but for the
roles that a call has replaced. -/
theorem nameless_of_foldlM
    (accepted : calls.foldlM (fun o call => call.attempt o) start = .ok o) :
    o.Nameless role ↔ start.Nameless role ∧ ∀ call ∈ calls, ¬ call.Replaces role := by
  induction calls generalizing start with
  | nil =>
      cases accepted
      simp
  | cons call calls ih =>
      obtain ⟨o₁, first, rest⟩ := foldlM_cons_eq_ok.mp accepted
      rw [ih rest, nameless_of_attempt first, List.forall_mem_cons, and_assoc]

end OfficialsCall

/-- Whatever officials are given by and whatever calls are made, the first referee has a name, and a
role has a blank name exactly if it has been given one and no successful call has replaced it. -/
theorem nameless_iff_of_given (h : start.Given given) (calls : List OfficialsCall) :
    let o := Calls.run OfficialsCall.perform calls start
    (∀ name, o.first? = some name → Text.allBlank name = false) ∧
      ∀ role, (∃ name, o.holder? role = some name ∧ Text.allBlank name = true) ↔
        (∃ p, given = some p ∧ p.Nameless role) ∧
          ∀ call ∈ Calls.successes OfficialsCall.perform calls start, ¬ call.Replaces role := by
  obtain ⟨named, nameless⟩ := Officials.of_given h
  have replayed := OfficialsCall.performs.replay calls start
  constructor
  · exact foldlM_keeps (fun _ _ _ => OfficialsCall.firstNamed_of_attempt) named replayed
  · intro role
    exact (OfficialsCall.nameless_of_foldlM replayed).trans (and_congr_left fun _ => nameless role)

namespace SmallCup

/-- Referees of whom the second and the scorer have blank names. -/
def partlyNamed : OfficialPeople :=
  { OfficialPeople.only "A First" with second := some " ", scorer := some "" }

theorem partlyNamed_given : (Officials.people partlyNamed).Given (some partlyNamed) := by
  have parts : Officials.ofParts none (some partlyNamed) = .ok (.people partlyNamed) := rfl
  exact .parts parts

/-- A name for the second referee leaves the scorer without one. -/
theorem scorer_still_nameless :
    let calls : List OfficialsCall := [.setRole .second "B Second", .setRole .scorer "  "]
    let o := Calls.run OfficialsCall.perform calls (.people partlyNamed)
    (Officials.people partlyNamed).Given (some partlyNamed) ∧
      o.holder? .second = some "B Second" ∧ o.holder? .scorer = some "" ∧
      ∃ name, o.holder? .scorer = some name ∧ Text.allBlank name = true := by
  obtain ⟨-, roles⟩ := nameless_iff_of_given partlyNamed_given
    [.setRole .second "B Second", .setRole .scorer "  "]
  refine ⟨partlyNamed_given, rfl, rfl, (roles .scorer).mpr ⟨⟨partlyNamed, rfl, "", rfl, rfl⟩, ?_⟩⟩
  have only : Calls.successes OfficialsCall.perform
      [.setRole .second "B Second", .setRole .scorer "  "] (.people partlyNamed) =
        [.setRole .second "B Second"] := rfl
  rw [only, List.forall_mem_singleton]
  exact nofun

/-- Officials are made of people whose second referee has a blank name. -/
theorem nameless_second_accepted :
    ∃ o, Officials.ofParts none (some partlyNamed) = .ok o ∧ o.hasRole .second = true ∧
      o.holder? .second = some " " ∧ Text.allBlank " " = true :=
  ⟨.people partlyNamed, rfl, rfl, rfl, rfl⟩

end SmallCup

end Tourney
