import Tourney.Proofs.Scoring.Play

/-!
# Matches played point by point

A match is a course of points (`Play.Course`). Each set ends with the first score that decides it,
the match with the first set after which a side has the sets that win it, or no set is left. Where
no set is decided before its first point and no target lies below the least winning score
(`SetRules.Regular`), every set that ends in this way is legal. So evaluation accepts the finished
sets of a match that has ended, unless its counts are neither decisive nor level, and the winner
that it reports is the side that took the last point.
-/

namespace Tourney

namespace Threshold

/-- A score decides the set for a side that has the cap, or the target with the lead. -/
def DecidesFor (t : Threshold) (lead : Nat) (s : SetScore) (side : Side) : Prop :=
  t.cap ≤ s.points side ∨ t.target ≤ s.points side ∧ lead ≤ s.points side - s.points side.opposite

instance (t : Threshold) (lead : Nat) (s : SetScore) (side : Side) :
    Decidable (t.DecidesFor lead s side) :=
  inferInstanceAs (Decidable (_ ∨ _ ∧ _))

/-- The side for which a score decides the set, if there is one. -/
def winner? (t : Threshold) (lead : Nat) (s : SetScore) : Option Side :=
  if t.DecidesFor lead s .home then some .home
  else if t.DecidesFor lead s .away then some .away
  else none

variable {t : Threshold} {lead : Nat} {s : SetScore} {side : Side}

theorem not_decides_iff : ¬ t.Decides lead s ↔ ∀ side, ¬ t.DecidesFor lead s side :=
  not_exists

theorem winner?_eq_none : t.winner? lead s = none ↔ ¬ t.Decides lead s := by
  rw [not_decides_iff]
  unfold winner?
  constructor
  · intro undecided
    split_ifs at undecided with home away
    intro side
    cases side
    · exact home
    · exact away
  · intro undecided
    rw [if_neg (undecided .home), if_neg (undecided .away)]

theorem Reachable.nonneg (h : t.Reachable lead s) (side : Side) : 0 ≤ s.points side := by
  induction h with
  | start => cases side <;> exact Int.le_refl 0
  | point scorer _ _ ih =>
      cases scorer <;> cases side <;> simp only [SetScore.addPoint, SetScore.points] at ih ⊢ <;>
        omega

theorem winner?_addPoint (undecided : ¬ t.Decides lead s) (side : Side) :
    t.winner? lead (s.addPoint side) =
      if t.DecidesFor lead (s.addPoint side) side then some side else none := by
  -- The other side keeps its points and can only lose of its lead.
  have other : ¬ t.DecidesFor lead (s.addPoint side) side.opposite := by
    have before := not_decides_iff.mp undecided side.opposite
    unfold DecidesFor at before ⊢
    cases side <;> simp only [SetScore.addPoint, SetScore.points, Side.opposite] at before ⊢ <;>
      omega
  unfold winner?
  cases side with
  | home => rw [if_neg (show ¬ t.DecidesFor lead _ .away from other)]
  | away => rw [if_neg (show ¬ t.DecidesFor lead _ .home from other)]

end Threshold

/-! ## The course of a match -/

/-- A match while it is played: its finished sets, how many of them each side has won, and the
points of the set that is being played. -/
structure Play where
  finished : List SetScore
  won : SetCount
  running : SetScore

namespace Play

/-- The match before its first point. -/
def opening : Play := ⟨[], .zero, ⟨0, 0⟩⟩

/-- A side has the sets that win the match, or no set is left. -/
def Over (rules : SetRules) (p : Play) : Prop :=
  rules.decided p.won ∨ rules.maxSets ≤ p.finished.length

instance (rules : SetRules) (p : Play) : Decidable (p.Over rules) :=
  inferInstanceAs (Decidable (_ ∨ _))

/-- Target and cap of the set that is being played. -/
def threshold (rules : SetRules) (p : Play) : Threshold :=
  rules.threshold (p.finished.length + 1)

/-- The match after one more point. The set ends if the point decides it. -/
def point (rules : SetRules) (p : Play) (side : Side) : Play :=
  let s := p.running.addPoint side
  match (p.threshold rules).winner? rules.clearPoints s with
  | none => { p with running := s }
  | some winner => ⟨p.finished ++ [s], p.won.add winner, ⟨0, 0⟩⟩

/-- The points of a match in their order, each by the side that scored it, and the match after them.
No point is scored after the end of the match. -/
inductive Course (rules : SetRules) : List Side → Play → Prop
  | start : Course rules [] opening
  | point {points : List Side} {p : Play} (side : Side) :
      Course rules points p → ¬ p.Over rules → Course rules (points ++ [side]) (p.point rules side)

end Play

/-! ## Legal ends of sets -/

namespace SetRules

/-- Every set takes at least one point to win, can be won at its target, and is then high enough. -/
structure Regular (rules : SetRules) : Prop where
  lead_pos : 0 < rules.clearPoints
  target_pos : ∀ set, 0 < (rules.threshold set).target
  minimum : ∀ set, rules.minPoints ≤ (rules.threshold set).target
  target_le : ∀ set, (rules.threshold set).target ≤ (rules.threshold set).cap

variable {rules : SetRules} {set : Nat} {s : SetScore} {side : Side}

theorem regular_of_validate (valid : rules.validate = .ok ())
    (ordinary : 1 ≤ rules.pointsToWin ∧ rules.minPoints ≤ rules.pointsToWin)
    (last : 1 ≤ rules.lastSetPointsToWin ∧ rules.minPoints ≤ rules.lastSetPointsToWin) :
    rules.Regular := by
  have targets (set : Nat) : 1 ≤ (rules.threshold set).target ∧
      rules.minPoints ≤ (rules.threshold set).target := by
    unfold threshold
    split
    · exact last
    · exact ordinary
  exact ⟨clearPoints_pos valid, fun set => (targets set).1, fun set => (targets set).2,
    target_le_cap valid⟩

theorem Regular.undecided_zero (regular : rules.Regular) :
    ¬ (rules.threshold set).Decides rules.clearPoints ⟨0, 0⟩ := by
  have target := regular.target_pos set
  have cap := regular.target_le set
  rw [Threshold.not_decides_iff]
  intro side
  unfold Threshold.DecidesFor
  cases side <;> simp only [SetScore.points] <;> omega

/-- The point that decides a set makes it a legal one, which the side that scored it has won. -/
theorem Regular.legalSet_addPoint (regular : rules.Regular) (nonneg : ∀ side, 0 ≤ s.points side)
    (undecided : ¬ (rules.threshold set).Decides rules.clearPoints s)
    (decided : (rules.threshold set).DecidesFor rules.clearPoints (s.addPoint side) side) :
    rules.LegalSet set (s.addPoint side) ∧ (s.addPoint side).leader = side := by
  have own : (s.addPoint side).points side = s.points side + 1 := by cases side <;> rfl
  have other : (s.addPoint side).points side.opposite = s.points side.opposite := by
    cases side <;> rfl
  have lead := regular.lead_pos
  have minimum := regular.minimum set
  have target := regular.target_le set
  have before := Threshold.not_decides_iff.mp undecided side
  have otherBefore := Threshold.not_decides_iff.mp undecided side.opposite
  unfold Threshold.DecidesFor at before otherBefore decided
  rw [own, other] at decided
  rw [legalSet_iff_finalScore, own, other]
  have winner := nonneg side
  have loser := nonneg side.opposite
  -- One point before, neither side had the cap, nor the winner the target with the lead.
  exact ⟨loser, by omega, by omega, by omega, by omega, by omega⟩

end SetRules

theorem SetCount.ext_of {c d : SetCount} (same : ∀ side, c.of side = d.of side) : c = d := by
  obtain ⟨home, away⟩ := c
  exact congrArg₂ SetCount.mk (same .home) (same .away)

namespace Play

variable {rules : SetRules} {p : Play} {points : List Side}

/-! ## One point -/

/-- What holds of a match at every moment. -/
structure Sound (rules : SetRules) (p : Play) : Prop where
  reachable : (p.threshold rules).Reachable rules.clearPoints p.running
  undecided : ¬ (p.threshold rules).Decides rules.clearPoints p.running
  inLimit : p.finished.length ≤ rules.maxSets
  playable : rules.Playable p.finished
  won : p.won = SetCount.zero.after p.finished

theorem point_cases (undecided : ¬ (p.threshold rules).Decides rules.clearPoints p.running)
    (side : Side) :
    (¬ (p.threshold rules).Decides rules.clearPoints (p.running.addPoint side) ∧
      p.point rules side = { p with running := p.running.addPoint side }) ∨
    ((p.threshold rules).DecidesFor rules.clearPoints (p.running.addPoint side) side ∧
      p.point rules side =
        ⟨p.finished ++ [p.running.addPoint side], p.won.add side, ⟨0, 0⟩⟩) := by
  have winner := Threshold.winner?_addPoint undecided side
  by_cases decided :
      (p.threshold rules).DecidesFor rules.clearPoints (p.running.addPoint side) side
  · rw [if_pos decided] at winner
    exact .inr ⟨decided, by simp only [point, winner]⟩
  · rw [if_neg decided] at winner
    exact .inl ⟨Threshold.winner?_eq_none.mp winner, by simp only [point, winner]⟩

theorem sound_opening (regular : rules.Regular) : opening.Sound rules where
  reachable := .start
  undecided := regular.undecided_zero
  inLimit := Nat.zero_le _
  playable := forall_split_nil
  won := rfl

theorem Sound.point (sound : p.Sound rules) (regular : rules.Regular) (playing : ¬ p.Over rules)
    (side : Side) : (p.point rules side).Sound rules := by
  obtain ⟨undecidedMatch, left⟩ := not_or.mp playing
  rcases point_cases sound.undecided side with ⟨undecided, eq⟩ | ⟨decided, eq⟩
  · rw [eq]
    have further := sound.reachable.point side sound.undecided
    exact ⟨further, undecided, sound.inLimit, sound.playable, sound.won⟩
  · obtain ⟨legal, leader⟩ :=
      regular.legalSet_addPoint sound.reachable.nonneg sound.undecided decided
    have below (any : Side) : setsWon p.finished any < rules.setsToWin := by
      rw [← SetCount.of_zero_after, ← sound.won]
      exact SetRules.not_decided_iff.mp undecidedMatch any
    rw [eq]
    refine ⟨.start, regular.undecided_zero, ?_, ?_, ?_⟩
    · rw [List.length_append, List.length_singleton]
      exact Nat.succ_le_of_lt (Nat.not_le.mp left)
    · exact SetRules.playable_concat.mpr ⟨sound.playable, below, legal⟩
    · rw [SetCount.after_concat legal.unequal, ← sound.won, leader]

/-! ## The whole match -/

theorem Course.sound (course : Course rules points p) (regular : rules.Regular) :
    p.Sound rules := by
  induction course with
  | start => exact sound_opening regular
  | point side _ playing ih => exact ih.point regular playing side

theorem opening_not_over (valid : rules.validate = .ok ()) : ¬ opening.Over rules := by
  obtain ⟨sets, ⟨toWin, -⟩, -⟩ := SetRules.validate_eq_ok.mp valid
  simp only [Over, SetRules.decided, opening, SetCount.zero, List.length_nil]
  omega

theorem Course.getLast?_eq_of_won (course : Course rules points p) (regular : rules.Regular)
    (valid : rules.validate = .ok ()) {winner : Side}
    (won : rules.setsToWin ≤ p.won.of winner) : points.getLast? = some winner := by
  cases course with
  | start =>
      refine absurd (.inl ?_) (opening_not_over valid)
      cases winner
      · exact .inl won
      · exact .inr won
  | @point points q side course playing =>
      -- Before its last point no side had won, and that point adds sets to its own side only.
      have below := SetRules.not_decided_iff.mp (not_or.mp playing).1 winner
      rw [List.getLast?_concat]
      rcases point_cases (course.sound regular).undecided side with ⟨-, eq⟩ | ⟨-, eq⟩
      · rw [eq] at won
        exact absurd won (Nat.not_le.mpr below)
      · rw [eq] at won
        cases side <;> cases winner <;> simp only [SetCount.add, SetCount.of] at won below ⊢ <;>
          omega

theorem Sound.exists_evaluate_iff (sound : p.Sound rules) (valid : rules.validate = .ok ())
    (isOver : p.Over rules) :
    (∃ e, Scoring.evaluate ⟨rules, .sets, true⟩ p.finished = .ok e) ↔
      (∃ side, p.won.of side = rules.setsToWin) ∨ p.won.home = p.won.away := by
  have won (side : Side) : p.won.of side = setsWon p.finished side := by
    rw [sound.won, SetCount.of_zero_after]
  have nonempty : p.finished ≠ [] := by
    intro none
    refine opening_not_over valid ?_
    rw [Over, sound.won, none] at isOver
    exact isOver
  have decisive : (∃ side, rules.setsToWin ≤ setsWon p.finished side) ∨
      rules.maxSets ≤ p.finished.length := by
    refine isOver.imp_left fun decided => ?_
    rcases decided with home | away
    · exact ⟨.home, won .home ▸ home⟩
    · exact ⟨.away, won .away ▸ away⟩
  have level : p.won.home = p.won.away ↔ setsWon p.finished .home = setsWon p.finished .away := by
    rw [← won, ← won]
    rfl
  simp only [won, level]
  exact sound.playable.exists_evaluate_iff nonempty sound.inLimit decisive

end Play

/-- Where the targets are at least one point and not below the least winning score, evaluation
accepts a match that was played point by point, if a side has the sets that win it or the counts
are level. It reports the sets that the sides have won, and as winner the side that took the last
point. -/
theorem Scoring.evaluate_of_course {rules : SetRules} (valid : rules.validate = .ok ())
    (ordinary : 1 ≤ rules.pointsToWin ∧ rules.minPoints ≤ rules.pointsToWin)
    (last : 1 ≤ rules.lastSetPointsToWin ∧ rules.minPoints ≤ rules.lastSetPointsToWin)
    {points : List Side} {p : Play} (course : Play.Course rules points p) (isOver : p.Over rules) :
    ((∃ o, Scoring.evaluate ⟨rules, .sets, true⟩ p.finished = .ok ⟨o, p.won⟩) ↔
      (∃ side, p.won.of side = rules.setsToWin) ∨ p.won.home = p.won.away) ∧
    ∀ e, Scoring.evaluate ⟨rules, .sets, true⟩ p.finished = .ok e →
      e.sets = p.won ∧ (e.outcome = .draw ↔ p.won.home = p.won.away) ∧
        ∀ side, e.outcome = .wonBy side → points.getLast? = some side := by
  have regular := SetRules.regular_of_validate valid ordinary last
  have sound := course.sound regular
  have sets {e : Evaluation}
      (h : Scoring.evaluate ⟨rules, .sets, true⟩ p.finished = .ok e) : e.sets = p.won := by
    refine SetCount.ext_of fun side => ?_
    rw [(SetRules.shows_of_evaluate h).sets, sound.won, SetCount.of_zero_after]
  refine ⟨⟨?_, ?_⟩, fun e h => ⟨sets h, ⟨?_, ?_⟩, ?_⟩⟩
  · rintro ⟨o, h⟩
    exact (sound.exists_evaluate_iff valid isOver).mp ⟨_, h⟩
  · intro ended
    obtain ⟨e, h⟩ := (sound.exists_evaluate_iff valid isOver).mpr ended
    exact ⟨e.outcome, sets h ▸ h⟩
  · intro draw
    exact sets h ▸ ((SetRules.shows_of_evaluate h).draw.mp draw).1
  · intro level
    cases outcome : e.outcome with
    | draw => rfl
    | wonBy side =>
        obtain ⟨won, other⟩ := ((SetRules.shows_of_evaluate h).winner side).mp outcome
        rw [sets h] at won other
        cases side <;> simp only [SetCount.of, Side.opposite] at won other <;> omega
  · intro side outcome
    obtain ⟨won, -⟩ := ((SetRules.shows_of_evaluate h).winner side).mp outcome
    exact course.getLast?_eq_of_won regular valid (sets h ▸ Nat.le_of_eq won.symm)

namespace Scoring

/-- Best of three, sets to 2 with a lead of two or to 3; the last to 1 with the lead or to 2. -/
def shortSets : SetRules where
  maxSets := 3
  setsToWin := 2
  clearPoints := 2
  minPoints := 1
  pointsToWin := 2
  lastSetPointsToWin := 1
  maxPoints := 3
  lastSetMaxPoints := 2

/-- The points of three sets: 2:0, 2:3 at the cap, and 2:1 at the cap of the last set. -/
def shortPoints : List Side :=
  [.home, .home, .away, .home, .away, .home, .away, .home, .away, .home]

theorem course_of_shortPoints :
    Play.Course shortSets shortPoints ⟨[⟨2, 0⟩, ⟨2, 3⟩, ⟨2, 1⟩], ⟨2, 1⟩, ⟨0, 0⟩⟩ := by
  have opened : Play.Course shortSets [] .opening := .start
  have first := (opened.point .home (by decide)).point .home (by decide)
  have level := ((first.point .away (by decide)).point .home (by decide)).point .away (by decide)
  have second := (level.point .home (by decide)).point .away (by decide)
  exact ((second.point .home (by decide)).point .away (by decide)).point .home (by decide)

theorem evaluate_shortPoints :
    shortSets.validate = .ok () ∧
      (1 ≤ shortSets.pointsToWin ∧ shortSets.minPoints ≤ shortSets.pointsToWin) ∧
      (1 ≤ shortSets.lastSetPointsToWin ∧ shortSets.minPoints ≤ shortSets.lastSetPointsToWin) ∧
      (Play.mk [⟨2, 0⟩, ⟨2, 3⟩, ⟨2, 1⟩] ⟨2, 1⟩ ⟨0, 0⟩).Over shortSets ∧
      Scoring.evaluate ⟨shortSets, .sets, true⟩ [⟨2, 0⟩, ⟨2, 3⟩, ⟨2, 1⟩] =
        .ok ⟨.wonBy .home, ⟨2, 1⟩⟩ ∧
      shortPoints.getLast? = some .home := by
  have accepted : Scoring.evaluate ⟨shortSets, .sets, true⟩ [⟨2, 0⟩, ⟨2, 3⟩, ⟨2, 1⟩] =
      .ok ⟨.wonBy .home, ⟨2, 1⟩⟩ := by decide
  have played := evaluate_of_course rfl (by decide) (by decide) course_of_shortPoints (by decide)
  obtain ⟨-, -, winner⟩ := played.2 _ accepted
  exact ⟨rfl, by decide, by decide, by decide, accepted, winner .home rfl⟩

end Scoring

end Tourney
