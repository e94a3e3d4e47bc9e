import Tourney.Proofs.Scoring.Sets

/-!
# Scores of a match in progress

Scores are possible while a match is in progress if there are not too many of them and each is in
the range of its set. This holds of the beginnings of a possible list, and of every list that
evaluation accepts for a match in sets. It does not always hold of a running score: when it is
complete its cap is that of the ordinary sets, and before that it is the cap of the first set, which
in a match of one set is the last set as well.
-/

namespace Tourney

/-- The points of both sides are in the range of a set. -/
def SetScore.Within (s : SetScore) (cap : Nat) : Prop :=
  ∀ side, 0 ≤ s.points side ∧ s.points side ≤ cap

namespace SetRules

/-- Every score is in the range of its set, the first of them being number `set`. -/
def InRange (rules : SetRules) (set : Nat) (scores : List SetScore) : Prop :=
  ∀ played s rest, scores = played ++ s :: rest →
    s.Within (rules.threshold (set + played.length)).cap

variable {rules : SetRules} {set : Nat} {scores initial : List SetScore} {s : SetScore}
  {e : Evaluation}

theorem inRange_nil : rules.InRange set [] :=
  forall_split_nil

theorem inRange_cons :
    rules.InRange set (s :: scores) ↔
      s.Within (rules.threshold set).cap ∧ rules.InRange (set + 1) scores := by
  unfold InRange
  rw [forall_split_cons]
  simp only [List.length_nil, List.length_cons, Nat.add_zero, Nat.add_assoc, Nat.add_comm 1]

theorem InRange.of_initial (inRange : rules.InRange set scores) (part : initial <+: scores) :
    rules.InRange set initial := by
  obtain ⟨later, rfl⟩ := part
  rintro played s rest rfl
  refine inRange played s (rest ++ later) ?_
  rw [List.append_assoc, List.cons_append]

theorem checkRanges_eq_ok :
    Scoring.checkRanges rules set scores = .ok () ↔ rules.InRange set scores := by
  induction scores generalizing set with
  | nil => exact iff_of_true rfl inRange_nil
  | cons s rest ih =>
      unfold Scoring.checkRanges
      rw [inRange_cons, bind_eq_ok, ← ih]
      constructor
      · rintro ⟨⟨⟩, first, later⟩
        exact ⟨SetScore.checkRange_eq_ok.mp first, later⟩
      · rintro ⟨first, later⟩
        exact ⟨(), SetScore.checkRange_eq_ok.mpr first, later⟩

/-- A match in sets is played with scores in their ranges. -/
theorem Playable.inRange (playable : rules.Playable scores) : rules.InRange 1 scores := by
  intro played s rest split
  rw [Nat.add_comm]
  exact (playable played s rest split).2.inRange

/-! ## Running scores -/

theorem evaluateContinuous_eq_ok :
    rules.evaluateContinuous [s] = .ok e ↔
      s.Within rules.maxPoints ∧
        (s.home = s.away ∧ e = ⟨.draw, .zero⟩ ∨
          s.home ≠ s.away ∧ rules.minPoints ≤ max s.home s.away ∧
            e = ⟨.wonBy s.leader, SetCount.zero.add s.leader⟩) := by
  unfold evaluateContinuous
  rw [bind_eq_ok]
  constructor
  · rintro ⟨⟨⟩, within, evaluated⟩
    refine ⟨SetScore.checkRange_eq_ok.mp within, ?_⟩
    by_cases level : s.home = s.away
    · rw [if_pos level] at evaluated
      exact .inl ⟨level, (Except.ok.inj evaluated).symm⟩
    · rw [if_neg level, refuse_bind_eq_ok, s.high_eq_max] at evaluated
      exact .inr ⟨level, Int.not_lt.mp evaluated.1, (Except.ok.inj evaluated.2).symm⟩
  · rintro ⟨within, ⟨level, rfl⟩ | ⟨unequal, minimum, rfl⟩⟩
    · exact ⟨(), SetScore.checkRange_eq_ok.mpr within, if_pos level⟩
    · refine ⟨(), SetScore.checkRange_eq_ok.mpr within, ?_⟩
      rw [if_neg unequal, refuse_bind_eq_ok, s.high_eq_max]
      exact ⟨Int.not_lt.mpr minimum, rfl⟩

theorem exists_singleton_of_evaluateContinuous (h : rules.evaluateContinuous scores = .ok e) :
    ∃ s, scores = [s] := by
  match scores with
  | [s] => exact ⟨s, rfl⟩
  | [] => cases h
  | _ :: _ :: _ => cases h

theorem cap_threshold_one :
    (rules.threshold 1).cap =
      if rules.maxSets = 1 then rules.lastSetMaxPoints else rules.maxPoints := by
  unfold threshold
  simp only [eq_comm]
  split <;> rfl

end SetRules

/-! ## Possible scores -/

namespace Scoring

variable {rules : SetRules} {drawsAllowed : Bool} {scoring : Scoring}
  {scores initial : List SetScore} {e : Evaluation}

theorem checkPartial_eq_ok :
    scoring.checkPartial scores = .ok () ↔
      scores.length ≤ scoring.maxScores ∧ scoring.rules.InRange 1 scores := by
  unfold checkPartial
  rw [refuse_bind_eq_ok, Nat.not_lt, SetRules.checkRanges_eq_ok]

theorem checkPartial_of_initial (possible : scoring.checkPartial scores = .ok ())
    (part : initial <+: scores) : scoring.checkPartial initial = .ok () := by
  rw [checkPartial_eq_ok] at possible ⊢
  exact ⟨Nat.le_trans part.length_le possible.1, possible.2.of_initial part⟩

theorem checkPartial_of_evaluate_sets
    (accepted : Scoring.evaluate ⟨rules, .sets, drawsAllowed⟩ scores = .ok e) :
    Scoring.checkPartial ⟨rules, .sets, drawsAllowed⟩ scores = .ok () := by
  have complete := SetRules.completes_of_evaluate accepted
  exact checkPartial_eq_ok.mpr ⟨complete.inLimit, complete.playable.inRange⟩

theorem checkPartial_iff_of_evaluate_continuous {s : SetScore}
    (within : s.Within rules.maxPoints) :
    Scoring.checkPartial ⟨rules, .continuous, drawsAllowed⟩ [s] = .ok () ↔
      (rules.maxSets = 1 → ∀ side, s.points side ≤ rules.lastSetMaxPoints) := by
  have one : [s].length ≤ Scoring.maxScores ⟨rules, .continuous, drawsAllowed⟩ := Nat.le_refl 1
  rw [checkPartial_eq_ok, and_iff_right one, SetRules.inRange_cons,
    and_iff_left SetRules.inRange_nil, SetRules.cap_threshold_one]
  split
  · next single =>
      constructor
      · exact fun last _ side => (last side).2
      · exact fun below side => ⟨(within side).1, below single side⟩
  · next several => exact iff_of_true within fun single => absurd single several

end Scoring

/-- Scores that evaluation accepts, and all their beginnings, are possible while the match is in
progress, unless it is a continuous match by the rules of one set, whose score is above the cap of
the last set. -/
theorem Scoring.checkPartial_iff_of_evaluate {scoring : Scoring} {scores initial : List SetScore}
    {e : Evaluation} (accepted : scoring.evaluate scores = .ok e) (part : initial <+: scores) :
    scoring.checkPartial initial = .ok () ↔
      (scoring.form = .continuous → scoring.rules.maxSets = 1 →
        ∀ s ∈ initial, ∀ side, s.points side ≤ scoring.rules.lastSetMaxPoints) := by
  obtain ⟨rules, form, drawsAllowed⟩ := scoring
  cases form with
  | sets =>
      have possible := checkPartial_of_evaluate_sets accepted
      exact iff_of_true (checkPartial_of_initial possible part) nofun
  | continuous =>
      obtain ⟨-, evaluated, -⟩ := evaluate_continuous_eq_ok.mp accepted
      obtain ⟨s, rfl⟩ := SetRules.exists_singleton_of_evaluateContinuous evaluated
      have within := (SetRules.evaluateContinuous_eq_ok.mp evaluated).1
      rcases List.prefix_cons_iff.mp part with rfl | ⟨later, rfl, none⟩
      · refine iff_of_true (checkPartial_eq_ok.mpr ⟨Nat.zero_le _, SetRules.inRange_nil⟩) ?_
        exact fun _ _ s mem => absurd mem List.not_mem_nil
      · rw [List.prefix_nil.mp none, checkPartial_iff_of_evaluate_continuous within]
        simp only [forall_const, List.mem_singleton, forall_eq]

namespace Scoring

/-- The first sets of a match that went to the last one. -/
theorem checkPartial_first_sets :
    Scoring.evaluate ⟨.standard, .sets, false⟩
        [⟨25, 20⟩, ⟨22, 25⟩, ⟨32, 30⟩, ⟨12, 25⟩, ⟨13, 15⟩] = .ok ⟨.wonBy .away, ⟨2, 3⟩⟩ ∧
      [⟨25, 20⟩, ⟨22, 25⟩, ⟨32, 30⟩] <+:
        [⟨25, 20⟩, ⟨22, 25⟩, ⟨32, 30⟩, ⟨12, 25⟩, (⟨13, 15⟩ : SetScore)] ∧
      Scoring.checkPartial ⟨.standard, .sets, false⟩ [⟨25, 20⟩, ⟨22, 25⟩, ⟨32, 30⟩] = .ok () := by
  have accepted : Scoring.evaluate ⟨.standard, .sets, false⟩
      [⟨25, 20⟩, ⟨22, 25⟩, ⟨32, 30⟩, ⟨12, 25⟩, ⟨13, 15⟩] = .ok ⟨.wonBy .away, ⟨2, 3⟩⟩ := by decide
  have part := List.prefix_append [⟨25, 20⟩, ⟨22, 25⟩, (⟨32, 30⟩ : SetScore)] [⟨12, 25⟩, ⟨13, 15⟩]
  exact ⟨accepted, part, (checkPartial_iff_of_evaluate accepted part).mpr nofun⟩

/-- One set, which has a lower cap as the last set than an ordinary one. -/
def lowLastCap : SetRules :=
  { SetRules.standard with maxSets := 1, setsToWin := 1, lastSetMaxPoints := 20 }

/-- A running score of 25:10 completes the match, but is refused while the match is in progress. -/
theorem complete_and_not_possible :
    lowLastCap.validate = .ok () ∧
      Scoring.evaluate ⟨lowLastCap, .continuous, false⟩ [⟨25, 10⟩] =
        .ok ⟨.wonBy .home, ⟨1, 0⟩⟩ ∧
      Scoring.checkPartial ⟨lowLastCap, .continuous, false⟩ [⟨25, 10⟩] =
        .error (.aboveCap 1 25 10 20) :=
  ⟨rfl, by decide, by decide⟩

end Scoring

end Tourney
