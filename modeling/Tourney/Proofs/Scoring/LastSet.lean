import Tourney.Proofs.Scoring.Finish

/-!
# The last possible set

A match need not end with its last possible set. It does as long as the sets that win it are at most
one above half of all sets, since then the counts are decisive or level. With more of them, a side
can be ahead at the end and not have enough (`SetRules.DeadEnd`).
-/

namespace Tourney

namespace SetRules

variable {rules : SetRules} {scores : List SetScore}

/-- All sets are played, but evaluation does not accept them. -/
structure DeadEnd (rules : SetRules) (scores : List SetScore) : Prop where
  playable : rules.Playable scores
  all : scores.length = rules.maxSets
  refused : ∀ e, Scoring.evaluate ⟨rules, .sets, true⟩ scores ≠ .ok e

theorem nonempty_of_all (valid : rules.validate = .ok ()) (all : scores.length = rules.maxSets) :
    scores ≠ [] := by
  rintro rfl
  exact absurd all (Nat.ne_of_lt (validate_eq_ok.mp valid).1)

theorem Playable.exists_evaluate_iff_of_all (playable : rules.Playable scores)
    (valid : rules.validate = .ok ()) (all : scores.length = rules.maxSets) :
    (∃ e, Scoring.evaluate ⟨rules, .sets, true⟩ scores = .ok e) ↔
      (∃ side, setsWon scores side = rules.setsToWin) ∨
        setsWon scores .home = setsWon scores .away :=
  playable.exists_evaluate_iff (nonempty_of_all valid all) (Nat.le_of_eq all)
    (.inr (Nat.le_of_eq all.symm))

theorem deadEnd_iff (valid : rules.validate = .ok ()) :
    rules.DeadEnd scores ↔
      rules.Playable scores ∧ scores.length = rules.maxSets ∧
        (∀ side, setsWon scores side ≠ rules.setsToWin) ∧
          setsWon scores .home ≠ setsWon scores .away := by
  constructor
  · rintro ⟨playable, all, refused⟩
    have accepted := playable.exists_evaluate_iff_of_all valid all
    obtain ⟨short, unequal⟩ := not_or.mp (mt accepted.mpr (not_exists.mpr refused))
    exact ⟨playable, all, not_exists.mp short, unequal⟩
  · rintro ⟨playable, all, short, unequal⟩
    refine ⟨playable, all, fun e accepted => ?_⟩
    rcases (playable.exists_evaluate_iff_of_all valid all).mp ⟨e, accepted⟩ with ⟨side, won⟩ | level
    · exact short side won
    · exact unequal level

/-! ## Few sets to win -/

theorem not_deadEnd (valid : rules.validate = .ok ())
    (few : rules.setsToWin ≤ rules.maxSets / 2 + 1) : ¬ rules.DeadEnd scores := by
  rw [deadEnd_iff valid]
  rintro ⟨playable, all, short, unequal⟩
  have total := setsWon_add playable.unequal
  have below (side : Side) : setsWon scores side < rules.setsToWin :=
    Nat.lt_of_le_of_ne (playable.setsWon_le (nonempty_of_all valid all) side).1 (short side)
  have home := below .home
  have away := below .away
  -- Neither side has more than half of all sets, and with unequal counts that is not all of them.
  omega

/-! ## Many sets to win -/

theorem Legal.playable (legal : rules.Legal scores)
    (below : ∀ side, setsWon scores side < rules.setsToWin) : rules.Playable scores := by
  intro played s rest split
  refine ⟨fun side => ?_, legal played s rest split⟩
  have all := below side
  rw [split, setsWon_append] at all
  exact Nat.lt_of_le_of_lt (Nat.le_add_right _ _) all

/-- Sets that can be won are shared between the sides in any numbers. -/
theorem exists_shared {n home away : Nat} (valid : rules.validate = .ok ())
    (winnable : ∀ set, 1 ≤ set → set ≤ n → rules.Winnable set) (total : home + away = n) :
    ∃ scores, (∀ s ∈ scores, s.Recordable) ∧ rules.Legal scores ∧
      scores.length = n ∧ setsWon scores .home = home ∧ setsWon scores .away = away := by
  let sides := List.replicate home Side.home ++ List.replicate away Side.away
  have length : sides.length = n := by
    rw [List.length_append, List.length_replicate, List.length_replicate, total]
  obtain ⟨scores, leaders, recordable, legal⟩ :=
    exists_legal valid winnable sides (Nat.le_of_eq length)
  have won (side : Side) : setsWon scores side = sides.count side := by
    rw [setsWon_eq_count legal.unequal, leaders]
  refine ⟨scores, recordable, legal, ?_, ?_, ?_⟩
  · rw [← length, ← leaders, List.length_map]
  · simp [won, sides, List.count_replicate]
  · simp [won, sides, List.count_replicate]

theorem exists_deadEnd (valid : rules.validate = .ok ())
    (winnable : ∀ set, 1 ≤ set → set ≤ rules.maxSets → rules.Winnable set)
    (many : rules.maxSets / 2 + 1 < rules.setsToWin) :
    ∃ scores, (∀ s ∈ scores, s.Recordable) ∧ rules.DeadEnd scores := by
  have sets := (validate_eq_ok.mp valid).1
  -- The smallest majority is not enough, and leaves fewer sets to the other side.
  obtain ⟨rest, total⟩ : ∃ rest, rules.maxSets / 2 + 1 + rest = rules.maxSets :=
    ⟨rules.maxSets - (rules.maxSets / 2 + 1), by omega⟩
  obtain ⟨scores, recordable, legal, all, home, away⟩ :=
    exists_shared valid winnable total
  have below (side : Side) : setsWon scores side < rules.setsToWin := by
    cases side <;> omega
  refine ⟨scores, recordable, (deadEnd_iff valid).mpr ⟨legal.playable below, all, ?_, ?_⟩⟩
  · exact fun side => Nat.ne_of_lt (below side)
  · omega

end SetRules

/-- After the last possible set of a match, evaluation accepts the scores if a side has the sets
that win it or the counts are level. This is always so, unless the sets that win the match are more
than one above half of all sets; then there is a match that ends otherwise, if its sets can be won
at all. -/
theorem Scoring.last_set_ends_match {rules : SetRules} (valid : rules.validate = .ok ()) :
    (∀ scores, rules.Playable scores → scores.length = rules.maxSets →
      ((∃ e, Scoring.evaluate ⟨rules, .sets, true⟩ scores = .ok e) ↔
        (∃ side, setsWon scores side = rules.setsToWin) ∨
          setsWon scores .home = setsWon scores .away)) ∧
    (rules.setsToWin ≤ rules.maxSets / 2 + 1 → ∀ scores, ¬ rules.DeadEnd scores) ∧
    ((∀ set, 1 ≤ set → set ≤ rules.maxSets → rules.Winnable set) →
      rules.maxSets / 2 + 1 < rules.setsToWin →
      ∃ scores, (∀ s ∈ scores, s.Recordable) ∧ rules.DeadEnd scores) := by
  refine ⟨fun scores playable all => ?_, fun few scores => SetRules.not_deadEnd valid few, ?_⟩
  · exact playable.exists_evaluate_iff_of_all valid all
  · exact fun winnable many => SetRules.exists_deadEnd valid winnable many

namespace Scoring

/-- Four sets, of which three win the match. -/
def fourSets : SetRules :=
  { SetRules.standard with maxSets := 4 }

theorem playable_level :
    fourSets.Playable [⟨25, 20⟩, ⟨25, 23⟩, ⟨20, 25⟩, ⟨13, 15⟩] :=
  (SetRules.countSets_one_eq_ok.mp
    (show fourSets.countSets 1 .zero _ = .ok ⟨2, 2⟩ by decide)).1

theorem last_set_draws :
    fourSets.validate = .ok () ∧ fourSets.Playable [⟨25, 20⟩, ⟨25, 23⟩, ⟨20, 25⟩, ⟨13, 15⟩] ∧
      ∃ e, Scoring.evaluate ⟨fourSets, .sets, true⟩
        [⟨25, 20⟩, ⟨25, 23⟩, ⟨20, 25⟩, ⟨13, 15⟩] = .ok e :=
  ⟨rfl, playable_level, ((last_set_ends_match rfl).1 _ playable_level rfl).mpr (.inr rfl)⟩

/-- Three sets, which all have to be won. -/
def allOfThree : SetRules :=
  { SetRules.standard with maxSets := 3 }

/-- After 2:1 in sets no set is left, and the match is neither won nor drawn. -/
theorem last_set_refused :
    allOfThree.validate = .ok () ∧
      allOfThree.Playable [⟨25, 20⟩, ⟨20, 25⟩, ⟨15, 10⟩] ∧
      [⟨25, 20⟩, ⟨20, 25⟩, (⟨15, 10⟩ : SetScore)].length = allOfThree.maxSets ∧
      Scoring.evaluate ⟨allOfThree, .sets, true⟩ [⟨25, 20⟩, ⟨20, 25⟩, ⟨15, 10⟩] =
        .error (.unfinishedMatch 2 1) := by
  have counted : allOfThree.countSets 1 .zero [⟨25, 20⟩, ⟨20, 25⟩, ⟨15, 10⟩] = .ok ⟨2, 1⟩ := by
    decide
  exact ⟨rfl, (SetRules.countSets_one_eq_ok.mp counted).1, rfl, by decide⟩

end Scoring

end Tourney
