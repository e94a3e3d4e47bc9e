import Tourney.Proofs.League.Order
import Tourney.Proofs.League.Rounding
import Tourney.Proofs.League.Totals

/-!
# How exactly league points rank

League points are whole numbers of 64 bits, and they are compared as ranking values. So two rows with
different league points are level when both numbers of points round to the same value, and then the
next criterion may put the row with fewer of them above the other one. In all other cases more league
points rank higher (`standsAbove_iff`).
-/

namespace Tourney

/-- All numbers of league points that are awarded. -/
def PointsAward.values (a : PointsAward) : List Int :=
  [a.played, a.perSet, a.win, a.lose, a.draw] ++ a.winByOne.toList ++ a.loseByOne.toList

/-- In some table that ranks by league points first, a row with `p` of them stands above one with
`q`. -/
def StandsAbove (p q : Int) : Prop :=
  ∃ (teams : List Ident) (results : List LeagueResult) (form : MatchForm) (config : LeagueConfig),
    teams.Nodup ∧ (∀ r ∈ results, r.NonNegative) ∧ (∃ keys, config.ordering = .points :: keys) ∧
      (∀ n ∈ config.points.values, Within64 n) ∧
      let exact (team : Ident) := (gathered teams results form config.points team).leaguePoints
      let rows := table teams results form config
      (∀ team ∈ teams, Within64 (exact team)) ∧
        ∃ (i j : Nat) (hi : i < rows.length) (hj : j < rows.length), i < j ∧
          exact rows[i].team = p ∧ exact rows[j].team = q

variable {teams : List Ident} {results : List LeagueResult} {form : MatchForm}
  {config : LeagueConfig} {p q : Int}

/-! ## More points rank higher -/

/-- Points that fit are exact in a row. -/
theorem leaguePoints_of_mem_table {row : Row} (distinct : teams.Nodup)
    (range : ∀ team ∈ teams,
      Within64 (gathered teams results form config.points team).leaguePoints)
    (mem : row ∈ table teams results form config) :
    row.record.leaguePoints =
      (gathered teams results form config.points row.team).leaguePoints := by
  obtain ⟨listed, record⟩ := record_of_mem_table distinct mem
  rw [record]
  exact wrap64_eq_self (range row.team listed)

/-- Where league points rank first, their ranking values fall from row to row. -/
theorem points_falling {keys : List RankKey} (distinct : teams.Nodup)
    (first : config.ordering = .points :: keys) :
    (table teams results form config).Pairwise fun r s =>
      (RankValue.ofInt s.record.leaguePoints).place ≤
        (RankValue.ofInt r.record.leaguePoints).place := by
  have rows : ((tally teams results form config.points).map (·.team)).Nodup := by
    rwa [map_team_tally]
  have apart : RankKey.points ≠ .pointRatio := by decide
  rw [table, first]
  exact Table.rank_falling rows fun ratio => absurd ratio apart

theorem level_of_standsAbove (fewer : p < q) (h : StandsAbove p q) :
    RankValue.ofInt p = .ofInt q := by
  obtain ⟨teams, results, form, config, distinct, -, ⟨keys, first⟩, -, range, i, j, hi, hj, lt,
    rfl, rfl⟩ := h
  have rows : (table teams results form config).Pairwise _ := points_falling distinct first
  have falling := List.pairwise_iff_getElem.mp rows i j hi hj lt
  rw [leaguePoints_of_mem_table distinct range (List.getElem_mem hi),
    leaguePoints_of_mem_table distinct range (List.getElem_mem hj)] at falling
  exact RankValue.place_inj.mp (Int.le_antisymm (RankValue.place_ofInt_mono fewer.le) falling)

/-! ## Level points -/

namespace Derby

/-- A win brings `p` league points and a defeat `q`, and level teams are ranked by their wins. -/
def awarding (p q : Int) : LeagueConfig where
  ordering := [.points, .wins]
  points := ⟨0, 0, p, none, q, none, 0⟩

def loser (p q : Int) : Row := ⟨host, upset.line .sets (awarding p q).points .home⟩
def victor (p q : Int) : Row := ⟨guest, upset.line .sets (awarding p q).points .away⟩

theorem leaguePoints_victor (p q : Int) : (victor p q).record.leaguePoints = p := by
  simp [victor, LeagueResult.line, LeagueResult.award, LeagueResult.byOne, awarding, upset]

theorem leaguePoints_loser (p q : Int) : (loser p q).record.leaguePoints = q := by
  simp [loser, LeagueResult.line, LeagueResult.award, LeagueResult.byOne, awarding, upset]

theorem nonNegative_upset : upset.NonNegative := by
  refine List.forall_mem_singleton.mpr fun side => ?_
  cases side <;> decide

theorem gathered_host (p q : Int) :
    gathered [host, guest] [upset] .sets (awarding p q).points host = (loser p q).record :=
  Record.total_singleton _

theorem gathered_guest (p q : Int) :
    gathered [host, guest] [upset] .sets (awarding p q).points guest = (victor p q).record :=
  Record.total_singleton _

theorem fits_loser (p : Int) {q : Int} (hq : Within64 q) : (loser p q).record.Fits := by
  have counters : (Within32 1 ∧ Within32 0 ∧ Within32 1 ∧ Within32 0) ∧ Within32 0 ∧ Within32 1 := by
    decide
  have points : Within64 20 ∧ Within64 25 := by decide
  exact ⟨counters.1, counters.2, points.1, points.2, (leaguePoints_loser p q).symm ▸ hq⟩

theorem fits_victor {p : Int} (q : Int) (hp : Within64 p) : (victor p q).record.Fits := by
  have counters : (Within32 1 ∧ Within32 1 ∧ Within32 0 ∧ Within32 0) ∧ Within32 1 ∧ Within32 0 := by
    decide
  have points : Within64 25 ∧ Within64 20 := by decide
  exact ⟨counters.1, counters.2, points.1, points.2, (leaguePoints_victor p q).symm ▸ hp⟩

theorem tally_awarding {p q : Int} (hp : Within64 p) (hq : Within64 q) :
    tally [host, guest] [upset] .sets (awarding p q).points = [loser p q, victor p q] := by
  rw [tally_eq_map (by decide), List.map_cons, List.map_singleton, gathered_host, gathered_guest,
    Record.wrap_eq_self (fits_loser p hq), Record.wrap_eq_self (fits_victor q hp)]
  rfl

/-- Where their points are level, their win puts the guests before the hosts. -/
theorem victor_before_loser {p q : Int} (level : RankValue.ofInt p = .ofInt q) :
    Table.Before [upset] [host, guest] (awarding p q).ordering [loser p q, victor p q]
      (victor p q) (loser p q) := by
  have points : Table.figure [upset] .points [loser p q, victor p q] (victor p q) =
      Table.figure [upset] .points [loser p q, victor p q] (loser p q) := by
    simpa only [Table.figure, RankKey.value, leaguePoints_victor, leaguePoints_loser] using level
  rw [awarding, Table.Before, if_pos points]
  refine Table.Before.of_directed_lt ?_
  change (RankValue.ofNat 0).place < (RankValue.ofNat 1).place
  exact RankValue.place_ofNat_pos Nat.one_pos

/-- The guests stand first. -/
theorem table_awarding {p q : Int} (hp : Within64 p) (hq : Within64 q)
    (level : RankValue.ofInt p = .ofInt q) :
    table [host, guest] [upset] .sets (awarding p q) = [victor p q, loser p q] := by
  have ordered : (table [host, guest] [upset] .sets (awarding p q)).Pairwise
      (Table.Before [upset] [host, guest] (awarding p q).ordering
        (tally [host, guest] [upset] .sets (awarding p q).points)) :=
    table_pairwise (by decide) (List.forall_mem_singleton.mpr nonNegative_upset) nofun
  rw [tally_awarding hp hq] at ordered
  have ranked : (table [host, guest] [upset] .sets (awarding p q)).Perm [victor p q, loser p q] := by
    refine (Table.rank_perm _ _ _).trans ?_
    rw [tally_awarding hp hq]
    exact .swap _ _ _
  exact ranked.eq_of_pairwise (fun _ _ _ _ before after => absurd after before.asymm) ordered
    (List.pairwise_pair.mpr (victor_before_loser level))

theorem standsAbove_of_level (hp : Within64 p) (hq : Within64 q)
    (level : RankValue.ofInt p = .ofInt q) : StandsAbove p q := by
  have zero : Within64 0 := by decide
  refine ⟨[host, guest], [upset], .sets, awarding p q, by decide,
    List.forall_mem_singleton.mpr nonNegative_upset, ⟨[.wins], rfl⟩, ?_, ?_⟩
  · simp [PointsAward.values, awarding, hp, hq, zero]
  · rw [table_awarding hp hq level]
    have host : (gathered [host, guest] [upset] .sets (awarding p q).points host).leaguePoints = q :=
      (congrArg _ (gathered_host p q)).trans (leaguePoints_loser p q)
    have guest : (gathered [Derby.host, guest] [upset] .sets (awarding p q).points
        guest).leaguePoints = p :=
      (congrArg _ (gathered_guest p q)).trans (leaguePoints_victor p q)
    refine ⟨List.forall_mem_cons.mpr ⟨?_, List.forall_mem_singleton.mpr ?_⟩, ?_⟩
    · simpa only [host] using hq
    · simpa only [guest] using hp
    · exact ⟨0, 1, Nat.two_pos, Nat.one_lt_two, Nat.one_pos, guest, host⟩

end Derby

/-- A row with fewer league points can stand above one with more of them exactly if both numbers of
points are level as ranking values, and for that both must have more than 53 bits and the same
sign. -/
theorem standsAbove_iff (hp : Within64 p) (hq : Within64 q) (fewer : p < q) :
    (StandsAbove p q ↔ RankValue.ofInt p = .ofInt q) ∧
      (StandsAbove p q → 9007199254740992 ≤ p ∨ q ≤ -9007199254740992) := by
  refine ⟨⟨level_of_standsAbove fewer, Derby.standsAbove_of_level hp hq⟩, fun above => ?_⟩
  have level := level_of_standsAbove fewer above
  by_contra small
  have apart := RankValue.place_ofInt_lt fewer (by omega) (by omega)
  rw [level] at apart
  exact Int.lt_irrefl _ apart

namespace Derby

theorem level_at_limit : RankValue.ofInt 9007199254740992 = .ofInt 9007199254740993 := by
  decide +kernel

/-- The hosts have one point more than the guests and stand below them. -/
theorem fewer_points_above :
    let config := awarding 9007199254740992 9007199254740993
    [host, guest].Nodup ∧ (∀ r ∈ [upset], r.NonNegative) ∧ config.ordering = [.points, .wins] ∧
      (∀ n ∈ config.points.values, Within64 n) ∧
      (table [host, guest] [upset] .sets config).map
          (fun row => (row.team, row.record.leaguePoints)) =
        [(guest, 9007199254740992), (host, 9007199254740993)] := by
  refine ⟨by decide, List.forall_mem_singleton.mpr nonNegative_upset, rfl, ?_, ?_⟩
  · decide
  · rw [table_awarding (by decide) (by decide) level_at_limit]
    simp only [List.map_cons, List.map_nil, leaguePoints_victor, leaguePoints_loser]
    rfl

/-- The next smaller numbers of points are told apart. -/
theorem not_above_below_limit :
    Within64 9007199254740991 ∧ Within64 9007199254740992 ∧
      (9007199254740991 : Int) < 9007199254740992 ∧
      ¬ StandsAbove 9007199254740991 9007199254740992 := by
  have hp : Within64 9007199254740991 := by decide
  have hq : Within64 9007199254740992 := by decide
  obtain ⟨-, large⟩ := standsAbove_iff hp hq (by decide)
  refine ⟨hp, hq, by decide, fun above => ?_⟩
  have := large above
  omega

end Derby

end Tourney
