import Mathlib.Data.List.Perm.Basic
import Mathlib.Data.List.SplitBy
import Tourney.Group

/-!
# Ranking keeps the rows

Each criterion values, sorts and splits a block without dropping or adding a row, so a table has one
row for each team that it is made for.
-/

namespace Tourney

namespace Table

variable {results : List LeagueResult} {block : List Row}

theorem map_headToHead (teams : List Ident) (block : List Row) :
    (headToHead results teams block).map (·.2) = block := by
  induction block with
  | nil => rfl
  | cons row rest ih => simp only [headToHead, List.map_cons, ih]

theorem map_valued (key : RankKey) (block : List Row) :
    (valued results key block).map (·.2) = block := by
  unfold valued
  split
  · exact map_headToHead _ block
  · rw [List.map_map]
    exact List.map_id block

theorem flatten_runs_perm (rows : List (RankValue × Row)) :
    (runs rows).flatten.Perm (rows.map (·.2)) := by
  rw [runs, ← List.map_flatten, List.flatten_splitBy]
  exact (List.mergeSort_perm rows _).map _

theorem rank_perm (results : List LeagueResult) (keys : List RankKey) (block : List Row) :
    (rank results keys block).Perm block := by
  induction keys generalizing block with
  | nil => rw [rank]
  | cons key keys ih =>
      rw [rank]
      calc ((runs (valued results key block)).flatMap (rank results keys)).Perm
            ((runs (valued results key block)).flatMap id) := .flatMap_left _ fun run _ => ih run
        _ = (runs (valued results key block)).flatten := List.flatMap_id
        List.Perm _ ((valued results key block).map (·.2)) := flatten_runs_perm _
        _ = block := map_valued key block

end Table

theorem map_team_rowsOf (record : Ident → Record) (teams : List Ident) :
    (rowsOf record teams).map (·.team) = teams := by
  induction teams with
  | nil => rfl
  | cons team rest ih => simp only [rowsOf, List.map_cons, ih]

/-- A table has one row for each of its teams. -/
theorem map_team_table_perm (teams : List Ident) (results : List LeagueResult) (form : MatchForm)
    (config : LeagueConfig) : ((table teams results form config).map (·.team)).Perm teams := by
  have ranked := Table.rank_perm results config.ordering (tally teams results form config.points)
  have teams := ranked.map (·.team)
  rwa [tally, map_team_rowsOf] at teams

theorem Fixture.mem_allTeams {fixtures : List Fixture} {t : Ident} :
    t ∈ allTeams fixtures ↔ ∃ f ∈ fixtures, t = f.home ∨ t = f.away := by
  simp [allTeams, teams]

/-- Every row of a league's table is the row of a team that plays in one of its matches. -/
theorem Group.exists_fixture_of_mem_tableOf {g : Group} {config : LeagueConfig}
    {fixtures : List Fixture} {row : Row} (mem : row ∈ g.tableOf config fixtures) :
    ∃ f ∈ fixtures, row.team = f.home ∨ row.team = f.away := by
  have team : row.team ∈ Fixture.allTeams fixtures :=
    (map_team_table_perm _ _ _ _).mem_iff.mp (List.mem_map_of_mem mem)
  exact Fixture.mem_allTeams.mp team

end Tourney
