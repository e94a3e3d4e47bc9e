import Mathlib.Data.List.Nodup
import Tourney.Proofs.League.Rows

/-!
# Totals over the rows of a table

What a match adds to a table it adds to the rows of its two teams, once for each side. So whatever is
gathered by addition comes to the same sum over all teams as over all matches and their two sides
(`sum_gathered`), and the same over the rows of the table if these have room for it (`sum_table`).
-/

namespace Tourney

variable {teams : List Ident} {results : List LeagueResult} {form : MatchForm}
  {award : PointsAward} {config : LeagueConfig} {row : Row}

namespace Record

/-- Every match is won, lost or drawn. -/
def Balanced (r : Record) : Prop :=
  r.played = r.wins + r.losses + r.draws

theorem Balanced.total {records : List Record} (h : ∀ r ∈ records, r.Balanced) :
    (Record.total records).Balanced := by
  have played : Additive played := ⟨rfl, fun _ _ => rfl⟩
  have results : Additive fun r => r.wins + r.losses + r.draws := by
    refine ⟨rfl, fun a b => ?_⟩
    change a.wins + b.wins + (a.losses + b.losses) + (a.draws + b.draws) = _
    omega
  rw [Balanced, played.total, List.map_congr_left h]
  exact (results.total records).symm

end Record

namespace LeagueResult

variable {r : LeagueResult} {M : Type} [AddCommMonoid M] {f : Record → M}

theorem balanced_line (r : LeagueResult) (form : MatchForm) (award : PointsAward) (side : Side) :
    (r.line form award side).Balanced := by
  unfold Record.Balanced line
  cases r.evaluation.outcome with
  | draw => simp
  | wonBy winner => cases winner <;> cases side <;> simp [Side.opposite]

theorem balanced_of_mem_lines {team : Ident} {line : Record} (mem : line ∈ r.lines form award team) :
    line.Balanced := by
  simp only [lines, List.mem_append, List.mem_ite_nil_right, List.mem_singleton] at mem
  rcases mem with ⟨-, rfl⟩ | ⟨-, rfl⟩
  · exact r.balanced_line form award .home
  · exact r.balanced_line form award .away

theorem sum_lines (r : LeagueResult) (team : Ident) :
    ((r.lines form award team).map f).sum =
      (if r.home = team then f (r.line form award .home) else 0) +
        if r.away = team then f (r.line form award .away) else 0 := by
  unfold lines
  by_cases home : r.home = team <;> by_cases away : r.away = team <;> simp [home, away]

/-- Each side of a match is counted for one of the teams. -/
theorem sum_lines_over_teams (distinct : teams.Nodup) (among : r.isAmong teams = true) :
    (teams.map fun team => ((r.lines form award team).map f).sum).sum =
      f (r.line form award .home) + f (r.line form award .away) := by
  have once {side : Ident} (mem : side ∈ teams) (x : M) :
      (teams.map fun team => if side = team then x else 0).sum = x := by
    rw [List.sum_map_eq_nsmul_single side, List.count_eq_one_of_mem distinct mem]
    · rw [if_pos rfl, one_nsmul]
    · intro team differ _
      simp [differ.symm]
  have sides : r.home ∈ teams ∧ r.away ∈ teams := by simpa [isAmong] using among
  simp only [sum_lines, List.sum_map_add, once sides.1, once sides.2]

end LeagueResult

/-! ## Sums over teams -/

/-- Where all matches are between the listed teams, none is left out. -/
theorem gathered_eq_total (among : ∀ r ∈ results, r.isAmong teams = true) (team : Ident) :
    gathered teams results form award team =
      .total (results.flatMap (·.lines form award team)) := by
  rw [gathered, List.filter_eq_self.mpr among]

theorem balanced_gathered (team : Ident) : (gathered teams results form award team).Balanced := by
  apply Record.Balanced.total
  intro line hl
  obtain ⟨r, -, hl⟩ := List.mem_flatMap.mp hl
  exact r.balanced_of_mem_lines hl

/-- The sum over the teams is the sum over both sides of all matches. -/
theorem sum_gathered {M : Type} [AddCommMonoid M] {f : Record → M} (additive : Record.Additive f)
    (distinct : teams.Nodup) (among : ∀ r ∈ results, r.isAmong teams = true) :
    (teams.map fun team => f (gathered teams results form award team)).sum =
      (results.map fun r =>
        f (r.line form award .home) + f (r.line form award .away)).sum := by
  simp only [gathered_eq_total among, additive.total]
  clear additive
  induction results with
  | nil => simp
  | cons r rest ih =>
      obtain ⟨first, among⟩ := List.forall_mem_cons.mp among
      simp only [List.flatMap_cons, List.map_append, List.sum_append, List.sum_map_add,
        LeagueResult.sum_lines_over_teams distinct first, List.map_cons, List.sum_cons]
      rw [ih among, List.sum_map_add]

/-! ## Sums over rows -/

/-- A row that has room for all that its team has gathered has lost nothing of it. -/
theorem record_eq_of_fits (distinct : teams.Nodup) (mem : row ∈ table teams results form config)
    (fits : (gathered teams results form config.points row.team).Fits) :
    row.record = gathered teams results form config.points row.team :=
  (record_of_mem_table distinct mem).2.trans (Record.wrap_eq_self fits)

theorem sum_table {M : Type} [AddCommMonoid M] {f : Record → M} (additive : Record.Additive f)
    (distinct : teams.Nodup) (among : ∀ r ∈ results, r.isAmong teams = true)
    (fits : ∀ row ∈ table teams results form config,
      (gathered teams results form config.points row.team).Fits) :
    ((table teams results form config).map fun row => f row.record).sum =
      (results.map fun r =>
        f (r.line form config.points .home) + f (r.line form config.points .away)).sum := by
  have listed := map_team_table_perm teams results form config
  calc ((table teams results form config).map fun row => f row.record).sum
      = (((table teams results form config).map (·.team)).map fun team =>
          f (gathered teams results form config.points team)).sum := by
        rw [List.map_map]
        refine congrArg List.sum (List.map_congr_left fun row mem => ?_)
        exact congrArg f (record_eq_of_fits distinct mem (fits row mem))
    _ = (teams.map fun team => f (gathered teams results form config.points team)).sum :=
        (listed.map _).sum_eq
    _ = _ := sum_gathered additive distinct among

end Tourney
