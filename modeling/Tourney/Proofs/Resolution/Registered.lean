import Tourney.Proofs.Competition.Structure
import Tourney.Proofs.League.Ranking
import Tourney.Proofs.Resolution.Progress

/-!
# Answers are registered teams

A slot that names a team is answered only if the team is registered, a reference only with the team
of another slot or of a row of a table, and a table has no team that no slot of its league led to.
So every answer is a registered team, whatever the competition looks like and however long and
tangled its references are.
-/

namespace Tourney

namespace Competition

variable {c : Competition} {g : Group} {r : Reference} {path : List Reference} {t : Ident}
  {source : Group.Source} {lookup : TeamSlot → Except Error Ident} {fixtures : List Fixture}

theorem registered_eq_ok {id : Ident} :
    c.registered id = .ok t ↔ c.hasTeam id = true ∧ id = t := by
  unfold registered
  split <;> simp_all

/-- The teams of matches are those that their slots lead to. -/
theorem holds_of_fixtures (holds : Ident → Prop) {ms : List Match}
    (each : ∀ m ∈ ms, ∀ side t, lookup (m.slot side) = .ok t → holds t)
    (found : ms.mapM (fixtureVia lookup) = .ok fixtures) :
    ∀ t ∈ Fixture.allTeams fixtures, holds t := by
  intro t mem
  obtain ⟨f, hf, which⟩ := Fixture.mem_allTeams.mp mem
  obtain ⟨m, hm, teams⟩ := exists_of_mapM_eq_ok found hf
  obtain ⟨home, hh, away, ha, rfl⟩ := fixtureVia_eq_ok.mp teams
  rcases which with rfl | rfl
  · exact each m hm .home _ hh
  · exact each m hm .away _ ha

/-- A table has no team that no slot of its matches leads to. -/
theorem holds_of_row (holds : Ident → Prop) {ms : List Match} {config : LeagueConfig} {row : Row}
    (each : ∀ m ∈ ms, ∀ side t, lookup (m.slot side) = .ok t → holds t)
    (found : ms.mapM (fixtureVia lookup) = .ok fixtures) (mem : row ∈ g.tableOf config fixtures) :
    holds row.team :=
  holds_of_fixtures holds each found _
    (Fixture.mem_allTeams.mpr (Group.exists_fixture_of_mem_tableOf mem))

theorem holds_of_answerVia (holds : Ident → Prop) (pointed : g.source r = .ok source)
    (each : ∀ s, g.Reads r.target s → ∀ t, lookup s = .ok t → holds t)
    (h : answerVia g lookup source = .ok t) : holds t := by
  cases source with
  | slot s => exact each s (Group.reads_of_source pointed) t h
  | row config n =>
      obtain ⟨fixtures, found, row⟩ := answerVia_row_eq_ok.mp h
      unfold Group.teamInRow at row
      split at row
      · next held =>
          cases row
          refine holds_of_row holds (fun m counted side => ?_) found (List.mem_of_getElem? held)
          exact each _ (Group.reads_of_row pointed counted side)
      · cases row

theorem hasTeam_of_lookupVia {follow : Reference → Except Error Ident} {s : TeamSlot}
    (each : ∀ r, s = .reference r → ∀ t, follow r = .ok t → c.hasTeam t = true)
    (h : c.lookupVia follow s = .ok t) : c.hasTeam t = true := by
  cases s with
  | literal id =>
      rw [lookupVia_literal] at h
      obtain ⟨registered, rfl⟩ := registered_eq_ok.mp h
      exact registered
  | reference r => exact each r rfl t h

theorem hasTeam_of_follow (h : c.follow path r = .ok t) : c.hasTeam t = true := by
  induction path, r using follow_induct (c := c) generalizing t with
  | step path r ih =>
      obtain ⟨fresh, g, found, source, pointed, answer⟩ := follow_eq_ok.mp h
      refine holds_of_answerVia (c.hasTeam · = true) pointed (fun s reads t ht => ?_) answer
      refine hasTeam_of_lookupVia (fun next held t ht => ?_) ht
      exact ih g next fresh found (held ▸ reads) ht

theorem hasTeam_of_resolve {s : TeamSlot} (h : c.resolve s = .ok t) : c.hasTeam t = true :=
  hasTeam_of_lookupVia (fun _ _ _ => hasTeam_of_follow) h

theorem exists_team_of_hasTeam (h : c.hasTeam t = true) :
    ∃ team ∈ c.teams, team.id = t ∧ c.getTeam t = .ok team := by
  obtain ⟨team, found⟩ := Option.isSome_iff_exists.mp h
  refine ⟨team, List.mem_of_find?_eq_some found, key_of_find? found, ?_⟩
  rw [getTeam, found]

theorem hasTeam_of_teamId {expression : String} (h : c.teamId expression = .ok t) :
    c.hasTeam t = true := by
  obtain ⟨s, -, found⟩ := bind_eq_ok.mp h
  exact hasTeam_of_resolve found

theorem hasTeam_of_standings {rows : List Row} {row : Row} (h : c.standings g = .ok rows)
    (mem : row ∈ rows) : c.hasTeam row.team = true := by
  obtain ⟨config, -, h⟩ := bind_eq_ok.mp h
  obtain ⟨fixtures, found, heq⟩ := bind_eq_ok.mp h
  cases heq
  exact holds_of_row (c.hasTeam · = true) (fun _ _ _ _ => hasTeam_of_resolve) found mem

theorem hasTeam_of_groupTeams {ts : List Ident} (h : c.groupTeams g = .ok ts) (mem : t ∈ ts) :
    c.hasTeam t = true := by
  obtain ⟨fixtures, found, heq⟩ := bind_eq_ok.mp h
  cases heq
  exact holds_of_fixtures (c.hasTeam · = true) (fun _ _ _ _ => hasTeam_of_resolve) found t mem

/-- Whatever the competition, an expression that stands for an identifier stands for the registered
team with it, and the teams of a group and of its table are registered. -/
theorem answers_registered (c : Competition) :
    (∀ expression t, c.teamId expression = .ok t →
      ∃ team ∈ c.teams, team.id = t ∧ c.team expression = .ok team) ∧
      (∀ g rows, c.standings g = .ok rows →
        ∀ row ∈ rows, ∃ team ∈ c.teams, team.id = row.team) ∧
      ∀ g ts, c.groupTeams g = .ok ts → ∀ t ∈ ts, ∃ team ∈ c.teams, team.id = t := by
  refine ⟨fun expression t h => ?_, fun g rows h row mem => ?_, fun g ts h t mem => ?_⟩
  · obtain ⟨team, mem, id, get⟩ := exists_team_of_hasTeam (hasTeam_of_teamId h)
    exact ⟨team, mem, id, bind_eq_ok.mpr ⟨t, h, get⟩⟩
  · exact hasTeam_iff.mp (hasTeam_of_standings h mem)
  · exact hasTeam_iff.mp (hasTeam_of_groupTeams h mem)

end Competition

namespace SmallCup

/-- Both teams of the cup play in its league, and the winner of the opener is one of them. -/
theorem registered_answers :
    cup.teamId openerExpression = .ok teamA ∧
      (∃ team ∈ cup.teams, team.id = teamA ∧ cup.team openerExpression = .ok team) ∧
      (∃ rows, cup.standings league = .ok rows ∧
        ∀ row ∈ rows, ∃ team ∈ cup.teams, team.id = row.team) ∧
      cup.groupTeams league = .ok [teamA, teamB] ∧
      ∀ t ∈ [teamA, teamB], ∃ team ∈ cup.teams, team.id = t := by
  obtain ⟨expressions, tables, groups⟩ := Competition.answers_registered cup
  have table := Competition.standings_of_fixtures (c := cup) (g := league) rfl rfl
  have teams : cup.groupTeams league = .ok [teamA, teamB] := rfl
  refine ⟨teamId_openerExpression, ?_, ⟨_, table, tables league _ table⟩, teams, ?_⟩
  · exact expressions openerExpression teamA teamId_openerExpression
  · exact groups league _ teams

end SmallCup

end Tourney
