import Tourney.Proofs.League.Points
import Tourney.Proofs.League.Runs

/-!
# The order of a table

Two rows of a table stand in the order of the first criterion that separates them, where the wins of
head to head are counted among the rows that were level with both on every criterion before; rows
that no criterion separates stand in the order in which their teams are listed (`Table.Before`).
Ranking block by block yields this order. The ratio of points needs points that are not negative: a
row without points for it whose points against it have wrapped around would have negative zero.
-/

namespace Tourney

/-- Whether fewer rank first. -/
def RankKey.fewerFirst : RankKey → Bool
  | .losses | .pointsAgainst | .setsAgainst => true
  | _ => false

namespace Table

variable {results : List LeagueResult} {teams : List Ident} {block : List Row} {key : RankKey}
  {keys : List RankKey} {r s : Row}

/-! ## The rule -/

/-- What a criterion looks at in a row of a block. -/
def figure (results : List LeagueResult) (key : RankKey) (block : List Row) (row : Row) :
    RankValue :=
  match key with
  | .losses => .ofNat row.record.losses
  | .pointsAgainst => .ofInt row.record.pointsAgainst
  | .setsAgainst => .ofNat row.record.setsAgainst
  | .headToHead => .ofNat (winsAmong results (block.map (·.team)) row.team)
  | key => key.value row.record

/-- Whether a row comes before another one of the same block. If the first criterion does not
separate them, the remaining ones see the rows of the block that are level with both. -/
def Before (results : List LeagueResult) (teams : List Ident) :
    List RankKey → List Row → Row → Row → Prop
  | [], _, r, s => teams.idxOf r.team < teams.idxOf s.team
  | key :: keys, block, r, s =>
      let figure := figure results key block
      if figure r = figure s then
        Before results teams keys (block.filter (figure · = figure r)) r s
      else if key.fewerFirst then (figure r).place < (figure s).place
      else (figure s).place < (figure r).place

theorem Before.asymm (h : Before results teams keys block r s) :
    ¬ Before results teams keys block s r := by
  induction keys generalizing block with
  | nil => exact Nat.lt_asymm h
  | cons key keys ih =>
      rw [Before] at h ⊢
      by_cases level : figure results key block r = figure results key block s
      · rw [if_pos level] at h
        rw [if_pos level.symm, ← level]
        exact ih h
      · rw [if_neg level] at h
        rw [if_neg (Ne.symm level)]
        split <;> simp_all <;> omega

/-! ## Values -/

/-- The value by which rows are sorted, the largest first. -/
def directed (key : RankKey) (v : RankValue) : RankValue :=
  if key.fewerFirst then v.neg else v

theorem headToHead_eq_map (distinct : (block.map (·.team)).Nodup) (among : List Ident) :
    headToHead results among block =
      block.map fun row => (.ofNat (winsAmong results among row.team), row) := by
  induction block with
  | nil => rfl
  | cons row rest ih =>
      obtain ⟨fresh, distinct⟩ := List.nodup_cons.mp distinct
      rw [headToHead, List.map_cons, if_neg fresh, ih distinct]

/-- Rows are valued by what the criterion looks at, turned round where fewer rank first. -/
theorem valued_eq_map (distinct : (block.map (·.team)).Nodup) :
    valued results key block =
      block.map fun row => (directed key (figure results key block row), row) := by
  cases key with
  | headToHead =>
      simpa only [valued, directed, figure, RankKey.fewerFirst, Bool.false_eq_true, ↓reduceIte]
        using headToHead_eq_map distinct _
  | _ =>
      simp only [valued, directed, figure, RankKey.fewerFirst, RankKey.value, Bool.false_eq_true,
        ↓reduceIte]

theorem unsigned_figure (sound : key = .pointRatio → r.record.Sound) :
    (figure results key block r).Unsigned := by
  cases key with
  | wins | losses | headToHead | setsFor | setsAgainst => exact RankValue.unsigned_ofNat _
  | points | pointsFor | pointsAgainst | pointsDifference | setsDifference =>
      exact RankValue.unsigned_ofInt _
  | setRatio => exact RankValue.unsigned_ratio (Int.natCast_nonneg _) (Int.natCast_nonneg _)
  | pointRatio => exact RankValue.unsigned_ratio (sound rfl).1 (sound rfl).2

theorem directed_inj {v w : RankValue} : directed key v = directed key w ↔ v = w := by
  unfold directed
  split
  · exact RankValue.neg_inj
  · exact Iff.rfl

theorem directed_level_iff {v w : RankValue} (hv : v.Unsigned) (hw : w.Unsigned) :
    (directed key v).level (directed key w) = true ↔ v = w := by
  unfold directed
  split
  · exact RankValue.neg_level_neg_iff hv hw
  · exact RankValue.level_iff hv hw

theorem plain_directed (sound : key = .pointRatio → ∀ row ∈ block, row.record.Sound) :
    Plain (block.map fun row => (directed key (figure results key block row), row)) := by
  intro a ha b hb level
  obtain ⟨r, hr, rfl⟩ := List.mem_map.mp ha
  obtain ⟨s, hs, rfl⟩ := List.mem_map.mp hb
  have unsigned : ∀ row ∈ block, (figure results key block row).Unsigned := fun row h =>
    unsigned_figure fun ratio => sound ratio row h
  exact directed_inj.mpr ((directed_level_iff (unsigned r hr) (unsigned s hs)).mp level)

/-! ## Ranking -/

/-- Where the first criterion separates two rows, the one with the larger directed value is first. -/
theorem Before.of_directed_lt
    (h : (directed key (figure results key block s)).place
      < (directed key (figure results key block r)).place) :
    Before results teams (key :: keys) block r s := by
  have differ : figure results key block r ≠ figure results key block s := by
    intro level
    rw [level] at h
    exact Int.lt_irrefl _ h
  rw [Before, if_neg differ]
  unfold directed at h
  split at h
  · rw [if_pos ‹_›]
    simp only [RankValue.neg] at h
    omega
  · rwa [if_neg ‹_›]

/-- Ranking puts the rows of a block in order. Within a run the remaining criteria decide, and they
see that run; between two runs the first criterion has decided. -/
theorem rank_pairwise (distinct : (block.map (·.team)).Nodup)
    (sound : .pointRatio ∈ keys → ∀ row ∈ block, row.record.Sound)
    (listed : block.Pairwise fun r s => teams.idxOf r.team < teams.idxOf s.team) :
    (rank results keys block).Pairwise (Before results teams keys block) := by
  induction keys generalizing block with
  | nil => simpa only [rank, Before] using listed
  | cons key keys ih =>
      have plain : Plain (block.map fun row => (directed key (figure results key block row), row)) :=
        plain_directed fun ratio => sound (ratio ▸ List.mem_cons_self)
      rw [rank, valued_eq_map distinct, List.pairwise_flatMap]
      constructor
      · intro run mem
        obtain ⟨first, -, whole⟩ := exists_of_mem_runs plain mem
        simp only [directed_inj] at whole
        have part : run.Sublist block := whole ▸ List.filter_sublist
        have ranked := ih (distinct.sublist (part.map _))
          (fun ratio row h => sound (List.mem_cons_of_mem _ ratio) row (part.subset h))
          (listed.sublist part)
        refine ranked.imp_of_mem fun {r s} hr hs before => ?_
        have level {row : Row} (h : row ∈ rank results keys run) :
            figure results key block row = figure results key block first := by
          have h := whole ▸ (rank_perm results keys run).mem_iff.mp h
          simpa using (List.mem_filter.mp h).2
        rw [Before, if_pos ((level hr).trans (level hs).symm), level hr, ← whole]
        exact before
      · refine (runs_falling plain).imp fun {run later} falling r hr s hs => ?_
        exact .of_directed_lt (falling r ((rank_perm results keys run).mem_iff.mp hr) s
          ((rank_perm results keys later).mem_iff.mp hs))

/-- Ranking sorts a block by its first criterion, whatever the remaining ones are. -/
theorem rank_falling (distinct : (block.map (·.team)).Nodup)
    (sound : key = .pointRatio → ∀ row ∈ block, row.record.Sound) :
    (rank results (key :: keys) block).Pairwise fun r s =>
      (directed key (figure results key block s)).place ≤
        (directed key (figure results key block r)).place := by
  have plain : Plain (block.map fun row => (directed key (figure results key block row), row)) :=
    plain_directed sound
  rw [rank, valued_eq_map distinct, List.pairwise_flatMap]
  constructor
  · intro run mem
    obtain ⟨first, -, whole⟩ := exists_of_mem_runs plain mem
    refine List.pairwise_of_forall_mem_list fun r hr s hs => ?_
    have same {row : Row} (h : row ∈ rank results keys run) :
        directed key (figure results key block row) =
          directed key (figure results key block first) := by
      have h := whole ▸ (rank_perm results keys run).mem_iff.mp h
      simpa using (List.mem_filter.mp h).2
    rw [same hr, same hs]
  · refine (runs_falling plain).imp fun {run later} falling r hr s hs => ?_
    exact (falling r ((rank_perm results keys run).mem_iff.mp hr) s
      ((rank_perm results keys later).mem_iff.mp hs)).le

end Table

theorem table_pairwise {form : MatchForm} {config : LeagueConfig} {teams : List Ident}
    {results : List LeagueResult} (distinct : teams.Nodup) (scores : ∀ r ∈ results, r.NonNegative)
    (range : .pointRatio ∈ config.ordering → Within64 (totalPoints results)) :
    (table teams results form config).Pairwise
      (Table.Before results teams config.ordering (tally teams results form config.points)) :=
  Table.rank_pairwise (by rwa [map_team_tally])
    (fun ratio _ => sound_of_mem_tally distinct scores (range ratio)) (pairwise_idxOf_tally distinct)

/-- A table lists each team once, and one row stands above another exactly if it comes before it
under the block rule. League points, counters and differences may wrap around; only where the ratio
of points ranks, the points of all matches together have to fit into 64 bits. -/
theorem table_ordered (teams : List Ident) (results : List LeagueResult) (form : MatchForm)
    (config : LeagueConfig) (distinct : teams.Nodup) (scores : ∀ r ∈ results, r.NonNegative)
    (range : .pointRatio ∈ config.ordering → Within64 (totalPoints results)) :
    let rows := table teams results form config
    let block := tally teams results form config.points
    (rows.map (·.team)).Perm teams ∧ rows.Perm block ∧
      ∀ (i j : Nat) (hi : i < rows.length) (hj : j < rows.length),
        Table.Before results teams config.ordering block rows[i] rows[j] ↔ i < j := by
  intro rows block
  have ordered : rows.Pairwise (Table.Before results teams config.ordering block) :=
    table_pairwise distinct scores range
  have forward := List.pairwise_iff_getElem.mp ordered
  refine ⟨map_team_table_perm teams results form config, Table.rank_perm _ _ _, ?_⟩
  intro i j hi hj
  refine ⟨fun before => ?_, forward i j hi hj⟩
  rcases Nat.lt_trichotomy i j with lt | rfl | gt
  · exact lt
  · exact absurd before before.asymm
  · exact absurd before (forward j i hj hi gt).asymm

namespace Derby

def host : Ident := ⟨"H", by decide, by decide, List.all_eq_true.mp rfl⟩
def guest : Ident := ⟨"G", by decide, by decide, List.all_eq_true.mp rfl⟩

/-- The guests win the only match. -/
def upset : LeagueResult where
  home := host
  away := guest
  evaluation := ⟨.wonBy .away, ⟨0, 1⟩⟩
  scores := [⟨20, 25⟩]

def beaten : Row := ⟨host, upset.line .sets .standard .home⟩
def winning : Row := ⟨guest, upset.line .sets .standard .away⟩

theorem tally_upset : tally [host, guest] [upset] .sets .standard = [beaten, winning] := by
  decide

theorem winning_before_beaten : Table.Before [upset] [host, guest] LeagueConfig.standard.ordering
    [beaten, winning] winning beaten := by
  have separated : Table.figure [upset] .points [beaten, winning] winning
      ≠ Table.figure [upset] .points [beaten, winning] beaten := by decide +kernel
  rw [LeagueConfig.standard, Table.Before, if_neg separated]
  decide +kernel

/-- The winners stand first although they are listed last. -/
theorem winning_above_beaten :
    let rows := table [host, guest] [upset] .sets .standard
    [host, guest].Nodup ∧ (∀ r ∈ [upset], r.NonNegative) ∧ Within64 (totalPoints [upset]) ∧
      ∀ (i j : Nat) (hi : i < rows.length) (hj : j < rows.length),
        rows[i] = winning → rows[j] = beaten → i < j := by
  intro rows
  have distinct : [host, guest].Nodup := by decide
  have scores : ∀ r ∈ [upset], r.NonNegative := by
    refine List.forall_mem_singleton.mpr (List.forall_mem_singleton.mpr fun side => ?_)
    cases side <;> decide
  have range : Within64 (totalPoints [upset]) := by decide
  refine ⟨distinct, scores, range, fun i j hi hj first second => ?_⟩
  obtain ⟨-, -, order⟩ :=
    table_ordered [host, guest] [upset] .sets .standard distinct scores fun _ => range
  refine (order i j hi hj).mp ?_
  rw [first, second]
  exact tally_upset ▸ winning_before_beaten

end Derby

end Tourney
