import Tourney.Proofs.Scoring.Sets

/-!
# Set scores that can be played

A set is played point by point until a score decides it (`Threshold.Reachable`). Where a set is won
by a lead of two points or more, every set score that evaluation accepts is the end of such a play.
Where a lead of one point is enough, evaluation also accepts a lead of one point beyond the target,
although the first side to get there has won; these are the only scores that it accepts and that
cannot be played.
-/

namespace Tourney

/-- The score after one more point. -/
def SetScore.addPoint (s : SetScore) : Side → SetScore
  | .home => ⟨s.home + 1, s.away⟩
  | .away => ⟨s.home, s.away + 1⟩

namespace Threshold

/-- A score decides the set for a side that has the cap, or the target with the lead. -/
def Decides (t : Threshold) (lead : Nat) (s : SetScore) : Prop :=
  ∃ side, t.cap ≤ s.points side ∨
    t.target ≤ s.points side ∧ lead ≤ s.points side - s.points side.opposite

/-- The scores on the way of a set: from nothing, point by point while no score decides it. -/
inductive Reachable (t : Threshold) (lead : Nat) : SetScore → Prop
  | start : Reachable t lead ⟨0, 0⟩
  | point {s : SetScore} (side : Side) :
      Reachable t lead s → ¬ t.Decides lead s → Reachable t lead (s.addPoint side)

variable {t : Threshold} {lead : Nat} {s : SetScore}

/-! ## Both sides alike -/

theorem decides_iff {home away : Int} :
    t.Decides lead ⟨home, away⟩ ↔
      (t.cap ≤ home ∨ t.target ≤ home ∧ lead ≤ home - away) ∨
        t.cap ≤ away ∨ t.target ≤ away ∧ lead ≤ away - home := by
  constructor
  · rintro ⟨_ | _, decided⟩
    · exact .inl decided
    · exact .inr decided
  · rintro (decided | decided)
    · exact ⟨.home, decided⟩
    · exact ⟨.away, decided⟩

theorem Reachable.swap (h : t.Reachable lead s) : t.Reachable lead s.swap := by
  induction h with
  | start => exact .start
  | @point s side _ undecided ih =>
      have mirrored : ¬ t.Decides lead s.swap := by
        rw [SetScore.swap, decides_iff]
        exact fun decided => undecided (decides_iff.mpr decided.symm)
      cases side
      · exact ih.point .away mirrored
      · exact ih.point .home mirrored

/-! ## Scores that are reached -/

theorem reachable_level (n : Nat)
    (undecided : ∀ k : Nat, k < n → ¬ t.Decides lead ⟨k, k⟩ ∧ ¬ t.Decides lead ⟨k + 1, k⟩) :
    t.Reachable lead ⟨n, n⟩ := by
  induction n with
  | zero => exact .start
  | succ n ih =>
      obtain ⟨level, ahead⟩ := undecided n n.lt_succ_self
      have before := ih fun k hk => undecided k (Nat.lt_succ_of_lt hk)
      exact (before.point .home level).point .away ahead

theorem reachable_ahead {away : Nat} (level : t.Reachable lead ⟨away, away⟩) (n : Nat)
    (undecided : ∀ k : Nat, k < n → ¬ t.Decides lead ⟨away + k, away⟩) :
    t.Reachable lead ⟨away + n, away⟩ := by
  induction n with
  | zero => simpa using level
  | succ n ih =>
      have before := ih fun k hk => undecided k (Nat.lt_succ_of_lt hk)
      have after := before.point .home (undecided n n.lt_succ_self)
      rwa [SetScore.addPoint, Int.add_assoc] at after

/-- Where a lead of one point is enough, the sides do not both get to the target: a side that has it
first has won, unless the target is nothing. -/
theorem Reachable.lt_target (h : t.Reachable 1 s) : min s.home s.away < max 1 t.target := by
  induction h with
  | start => simp only; omega
  | @point s side _ undecided ih =>
      rw [decides_iff] at undecided
      cases side <;> simp only [SetScore.addPoint] <;> omega

end Threshold

/-! ## Legal sets -/

namespace SetRules

variable {rules : SetRules} {set : Nat} {s : SetScore}

theorem validate_eq_ok :
    rules.validate = .ok () ↔
      0 < rules.maxSets ∧ (0 < rules.setsToWin ∧ rules.setsToWin ≤ rules.maxSets) ∧
        0 < rules.clearPoints ∧ rules.pointsToWin ≤ rules.maxPoints ∧
        rules.lastSetPointsToWin ≤ rules.lastSetMaxPoints := by
  have faultless : rules.validate = .ok () ↔ rules.fault? = none := by
    unfold validate
    cases rules.fault? <;> simp
  rw [faultless, fault?]
  split_ifs <;> simp only [false_iff, true_iff] <;> omega

theorem clearPoints_pos (valid : rules.validate = .ok ()) : 0 < rules.clearPoints :=
  (validate_eq_ok.mp valid).2.2.1

theorem target_le_cap (valid : rules.validate = .ok ()) (set : Nat) :
    (rules.threshold set).target ≤ (rules.threshold set).cap := by
  obtain ⟨-, -, -, ordinary, last⟩ := validate_eq_ok.mp valid
  unfold threshold
  split
  · exact last
  · exact ordinary

theorem LegalSet.swap (legal : rules.LegalSet set s) : rules.LegalSet set s.swap where
  inRange := fun side => by cases side; exacts [legal.inRange .away, legal.inRange .home]
  unequal := legal.unequal.symm
  minimum := Int.max_comm _ _ ▸ legal.minimum
  finished := Int.max_comm s.home s.away ▸ Int.min_comm s.home s.away ▸ legal.finished
  inTime := Int.max_comm s.home s.away ▸ Int.min_comm s.home s.away ▸ legal.inTime

/-- A legal set that the home side has won is reached by way of the level score of the points that
the away side has. -/
theorem LegalSet.reachable_of_lt (legal : rules.LegalSet set s) (lead : 0 < rules.clearPoints)
    (home : s.away < s.home)
    (below : rules.clearPoints = 1 → min s.home s.away < max 1 (rules.threshold set).target) :
    (rules.threshold set).Reachable rules.clearPoints s := by
  obtain ⟨inRange, -, -, -, inTime⟩ := legal
  have atMost := (inRange .home).2
  obtain ⟨a, ha⟩ := Int.eq_ofNat_of_zero_le (inRange .away).1
  obtain ⟨n, hn⟩ := Int.eq_ofNat_of_zero_le (Int.sub_nonneg_of_le (Int.le_of_lt home))
  have score : s = ⟨a + n, a⟩ := by
    obtain ⟨h, w⟩ := s
    simp only [SetScore.points] at ha hn
    simp only [SetScore.mk.injEq]
    omega
  subst score
  simp only [SetScore.points] at atMost home below inTime
  refine Threshold.reachable_ahead (Threshold.reachable_level a fun k hk => ⟨?_, ?_⟩) n ?_
  · rw [Threshold.decides_iff]
    omega
  · rw [Threshold.decides_iff]
    omega
  · intro k hk
    rw [Threshold.decides_iff]
    omega

theorem LegalSet.reachable_iff (legal : rules.LegalSet set s) (lead : 0 < rules.clearPoints) :
    (rules.threshold set).Reachable rules.clearPoints s ↔
      (rules.clearPoints = 1 → min s.home s.away < max 1 (rules.threshold set).target) := by
  constructor
  · intro reachable one
    exact (one ▸ reachable).lt_target
  · intro below
    rcases Int.lt_or_gt_of_ne legal.unequal with away | home
    · have mirrored := legal.swap.reachable_of_lt lead away (Int.min_comm _ _ ▸ below)
      exact mirrored.swap
    · exact legal.reachable_of_lt lead home below

end SetRules

/-- Under valid rules, a set of an accepted list can be played point by point, unless a lead of one
point is enough and the losing side has the target. -/
theorem Scoring.reachable_iff_of_evaluate {rules : SetRules} (valid : rules.validate = .ok ())
    {drawsAllowed : Bool} {scores : List SetScore} {e : Evaluation}
    (accepted : Scoring.evaluate ⟨rules, .sets, drawsAllowed⟩ scores = .ok e)
    {played rest : List SetScore} {s : SetScore} (split : scores = played ++ s :: rest) :
    (rules.threshold (played.length + 1)).Reachable rules.clearPoints s ↔
      (rules.clearPoints = 1 →
        min s.home s.away < max 1 (rules.threshold (played.length + 1)).target) := by
  have legal := ((SetRules.completes_of_evaluate accepted).playable played s rest split).2
  exact legal.reachable_iff (SetRules.clearPoints_pos valid)

namespace Scoring

theorem reachable_of_extended_set :
    SetRules.standard.validate = .ok () ∧
      Scoring.evaluate ⟨.standard, .sets, false⟩ [⟨27, 25⟩, ⟨25, 23⟩, ⟨25, 20⟩] =
        .ok ⟨.wonBy .home, ⟨3, 0⟩⟩ ∧
      (SetRules.standard.threshold 1).Reachable 2 ⟨27, 25⟩ := by
  have accepted : Scoring.evaluate ⟨.standard, .sets, false⟩ [⟨27, 25⟩, ⟨25, 23⟩, ⟨25, 20⟩] =
      .ok ⟨.wonBy .home, ⟨3, 0⟩⟩ := by decide
  have first : [⟨27, 25⟩, ⟨25, 23⟩, ⟨25, 20⟩] =
      [] ++ (⟨27, 25⟩ : SetScore) :: [⟨25, 23⟩, ⟨25, 20⟩] := rfl
  have play := reachable_iff_of_evaluate rfl accepted first
  exact ⟨rfl, accepted, play.mpr nofun⟩

/-- One set to 15 that is won by a lead of one point. -/
def oneSet : SetRules :=
  { SetRules.standard with maxSets := 1, setsToWin := 1, clearPoints := 1 }

/-- At 15 points for the first side the set was over, so that 31:30 cannot be played. -/
theorem accepted_and_not_reachable :
    oneSet.validate = .ok () ∧
      Scoring.evaluate ⟨oneSet, .sets, false⟩ [⟨31, 30⟩] = .ok ⟨.wonBy .home, ⟨1, 0⟩⟩ ∧
      ¬ (oneSet.threshold 1).Reachable oneSet.clearPoints ⟨31, 30⟩ := by
  refine ⟨rfl, by decide, fun reachable => ?_⟩
  exact absurd (Threshold.Reachable.lt_target reachable) (by decide)

end Scoring

end Tourney
