import Mathlib.Algebra.Order.Ring.Int
import Tourney.Proofs.League.Totals

/-!
# Points that stay within range

If no points of a match are negative, a team has gathered no more points than were scored in all
matches together. As long as these fit into 64 bits, no points in a row are negative
(`sound_of_mem_tally`). They fit unless there are more than two thousand million sets
(`within64_totalPoints`).
-/

namespace Tourney

/-- No points are negative. -/
def Record.Sound (r : Record) : Prop :=
  0 ≤ r.pointsFor ∧ 0 ≤ r.pointsAgainst

/-- No side has negative points in a set of the match. -/
def LeagueResult.NonNegative (r : LeagueResult) : Prop :=
  ∀ s ∈ r.scores, ∀ side, 0 ≤ s.points side

/-- The points of both sides in all matches. -/
def totalPoints (results : List LeagueResult) : Int :=
  (results.map fun r => r.points .home + r.points .away).sum

variable {teams : List Ident} {results : List LeagueResult} {form : MatchForm}
  {award : PointsAward} {row : Row}

theorem LeagueResult.NonNegative.points_nonneg {r : LeagueResult} (h : r.NonNegative)
    (side : Side) : 0 ≤ r.points side := by
  obtain ⟨home, away, evaluation, scores⟩ := r
  induction scores with
  | nil => exact Int.le_refl 0
  | cons s rest ih =>
      obtain ⟨first, rest⟩ := List.forall_mem_cons.mp h
      exact Int.add_nonneg (first side) (ih rest)

/-- What is gathered by addition and never negative is not more for one team than for both sides of
all matches. -/
theorem gathered_bounds {f : Record → Int} (additive : Record.Additive f)
    (nonneg : ∀ r ∈ results, ∀ side, 0 ≤ f (r.line form award side)) (team : Ident) :
    0 ≤ f (gathered teams results form award team) ∧
      f (gathered teams results form award team) ≤
        (results.map fun r =>
          f (r.line form award .home) + f (r.line form award .away)).sum := by
  rw [gathered, additive.total]
  clear additive
  induction results with
  | nil => simp
  | cons r rest ih =>
      obtain ⟨first, nonneg⟩ := List.forall_mem_cons.mp nonneg
      obtain ⟨low, high⟩ := ih nonneg
      have home := first .home
      have away := first .away
      rw [List.filter_cons, List.map_cons, List.sum_cons]
      split
      · rw [List.flatMap_cons, List.map_append, List.sum_append, LeagueResult.sum_lines]
        split <;> split <;> omega
      · omega

theorem sound_of_mem_tally (distinct : teams.Nodup) (scores : ∀ r ∈ results, r.NonNegative)
    (range : Within64 (totalPoints results)) (mem : row ∈ tally teams results form award) :
    row.record.Sound := by
  have within {f : Record → Int} (additive : Record.Additive f)
      (nonneg : ∀ r ∈ results, ∀ side, 0 ≤ f (r.line form award side))
      (both : ∀ r : LeagueResult, f (r.line form award .home) + f (r.line form award .away) =
        r.points .home + r.points .away) :
      0 ≤ wrap64 (f (gathered teams results form award row.team)) := by
    have bounds : 0 ≤ f (gathered teams results form award row.team) ∧
        f (gathered teams results form award row.team) ≤ _ :=
      gathered_bounds additive nonneg row.team
    obtain ⟨low, high⟩ := bounds
    simp only [both] at high
    rw [wrap64_eq_self]
    · exact low
    · unfold Within64 at range ⊢
      unfold totalPoints at range
      omega
  rw [Record.Sound, (record_of_mem_tally distinct mem).2]
  constructor
  · exact within (f := Record.pointsFor) ⟨rfl, fun _ _ => rfl⟩
      (fun r hr side => (scores r hr).points_nonneg side) fun _ => rfl
  · exact within (f := Record.pointsAgainst) ⟨rfl, fun _ _ => rfl⟩
      (fun r hr side => (scores r hr).points_nonneg side.opposite) fun r => Int.add_comm _ _

/-! ## How many sets fit -/

/-- In every set of the match, both sides have points of 32 bits. -/
def LeagueResult.Small (r : LeagueResult) : Prop :=
  ∀ s ∈ r.scores, ∀ side, s.points side < 2147483648

theorem LeagueResult.Small.points_le {r : LeagueResult} (h : r.Small) (side : Side) :
    r.points side ≤ 2147483647 * r.scores.length := by
  obtain ⟨home, away, evaluation, scores⟩ := r
  induction scores with
  | nil => exact Int.le_refl 0
  | cons s rest ih =>
      obtain ⟨first, rest⟩ := List.forall_mem_cons.mp h
      have one := first side
      have more := ih rest
      simp only [points, List.foldr_cons, List.length_cons] at more ⊢
      omega

/-- Points of 32 bits fit into 64 bits if they come from at most two thousand million sets. -/
theorem within64_totalPoints (scores : ∀ r ∈ results, r.NonNegative) (small : ∀ r ∈ results, r.Small)
    (few : (results.map (·.scores.length)).sum ≤ 2147483648) : Within64 (totalPoints results) := by
  have all : 0 ≤ totalPoints results ∧
      totalPoints results ≤ 4294967294 * ((results.map (·.scores.length)).sum : Nat) := by
    clear few
    induction results with
    | nil => exact ⟨Int.le_refl 0, Int.le_refl 0⟩
    | cons r rest ih =>
        obtain ⟨low, scores⟩ := List.forall_mem_cons.mp scores
        obtain ⟨high, small⟩ := List.forall_mem_cons.mp small
        have home := low.points_nonneg .home
        have away := low.points_nonneg .away
        have homeHigh := high.points_le .home
        have awayHigh := high.points_le .away
        have more := ih scores small
        simp only [totalPoints, List.map_cons, List.sum_cons] at more ⊢
        omega
  unfold Within64
  omega

end Tourney
