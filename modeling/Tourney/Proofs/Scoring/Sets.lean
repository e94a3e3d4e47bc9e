import Tourney.Proofs.Traversal
import Tourney.Scoring.Evaluation

/-!
# Which scores complete a match in sets

A list of set scores completes a match if every set is finished and was not finished a point
before, no set follows once a side has the sets that win the match, and at the end a side has them
or, where draws are allowed, all sets are played and the counts are level (`SetRules.Completes`).
Evaluation accepts these lists and no others, and reports what they show (`SetRules.Shows`).
-/

namespace Tourney

/-! ## One set -/

/-- A set is finished, and the point before the last had not finished it: the points of both sides
are in the range of the set and differ, and the higher ones are at the cap, or at the target with
the lead. -/
structure SetRules.LegalSet (rules : SetRules) (set : Nat) (s : SetScore) : Prop where
  inRange : ∀ side, 0 ≤ s.points side ∧ s.points side ≤ (rules.threshold set).cap
  unequal : s.home ≠ s.away
  minimum : rules.minPoints ≤ max s.home s.away
  finished : max s.home s.away = (rules.threshold set).cap ∨
    (rules.threshold set).target ≤ max s.home s.away ∧
      rules.clearPoints ≤ max s.home s.away - min s.home s.away
  inTime : ¬ ((rules.threshold set).target ≤ max s.home s.away - 1 ∧
    rules.clearPoints ≤ max s.home s.away - 1 - min s.home s.away)

namespace SetScore

theorem high_eq_max (s : SetScore) : s.high = max s.home s.away := by
  unfold high leader
  split <;> simp only [points] <;> omega

theorem low_eq_min (s : SetScore) : s.low = min s.home s.away := by
  unfold low leader
  split <;> simp only [points, Side.opposite] <;> omega

theorem checkRange_eq_ok {set cap : Nat} {s : SetScore} :
    s.checkRange set cap = .ok () ↔ ∀ side, 0 ≤ s.points side ∧ s.points side ≤ cap := by
  have sides : (∀ side, 0 ≤ s.points side ∧ s.points side ≤ cap) ↔
      (0 ≤ s.home ∧ s.home ≤ cap) ∧ 0 ≤ s.away ∧ s.away ≤ cap :=
    ⟨fun all => ⟨all .home, all .away⟩, fun both side => by cases side; exacts [both.1, both.2]⟩
  rw [sides, checkRange]
  split
  · simp only [reduceCtorEq, false_iff]
    omega
  · split
    · simp only [reduceCtorEq, false_iff]
      omega
    · simp only [true_iff]
      omega

/-- In a set that is not level, one side leads. -/
theorem points_opposite_lt_iff {s : SetScore} (unequal : s.home ≠ s.away) {side : Side} :
    s.points side.opposite < s.points side ↔ s.leader = side := by
  unfold leader
  cases side <;> split <;> simp only [points, Side.opposite, reduceCtorEq, iff_true, iff_false] <;>
    omega

theorem max_eq_points {s : SetScore} {side : Side}
    (ahead : s.points side.opposite < s.points side) : max s.home s.away = s.points side := by
  cases side <;> simp only [points, Side.opposite] at ahead ⊢ <;> omega

theorem min_eq_points {s : SetScore} {side : Side}
    (ahead : s.points side.opposite < s.points side) : min s.home s.away = s.points side.opposite := by
  cases side <;> simp only [points, Side.opposite] at ahead ⊢ <;> omega

end SetScore

namespace SetRules

/-- A set that was finished in time, by the points of its winner and those of its loser. -/
structure FinalScore (rules : SetRules) (set : Nat) (high low : Int) : Prop where
  nonneg : 0 ≤ low
  ahead : low < high
  inCap : high ≤ (rules.threshold set).cap
  minimum : rules.minPoints ≤ high
  finished : high = (rules.threshold set).cap ∨
    (rules.threshold set).target ≤ high ∧ rules.clearPoints ≤ high - low
  inTime : ¬ ((rules.threshold set).target ≤ high - 1 ∧ rules.clearPoints ≤ high - 1 - low)

theorem legalSet_iff_finalScore {rules : SetRules} {set : Nat} {s : SetScore} {side : Side} :
    rules.LegalSet set s ∧ s.leader = side ↔
      rules.FinalScore set (s.points side) (s.points side.opposite) := by
  constructor
  · rintro ⟨⟨inRange, unequal, minimum, finished, inTime⟩, leads⟩
    have ahead := (SetScore.points_opposite_lt_iff unequal).mpr leads
    rw [SetScore.max_eq_points ahead] at minimum
    rw [SetScore.max_eq_points ahead, SetScore.min_eq_points ahead] at finished inTime
    exact ⟨(inRange _).1, ahead, (inRange _).2, minimum, finished, inTime⟩
  · rintro ⟨nonneg, ahead, inCap, minimum, finished, inTime⟩
    have high := SetScore.max_eq_points ahead
    have low := SetScore.min_eq_points ahead
    have unequal : s.home ≠ s.away := by omega
    have inRange (any : Side) :
        0 ≤ s.points any ∧ s.points any ≤ (rules.threshold set).cap := by
      cases side <;> cases any <;> simp only [SetScore.points, Side.opposite] at * <;> omega
    refine ⟨⟨inRange, unequal, high ▸ minimum, ?_, ?_⟩,
      (SetScore.points_opposite_lt_iff unequal).mp ahead⟩
    · rwa [high, low]
    · rwa [high, low]

end SetRules

theorem SetRules.setWinner_eq_ok {rules : SetRules} {set : Nat} {s : SetScore} {side : Side} :
    rules.setWinner set s = .ok side ↔ rules.LegalSet set s ∧ s.leader = side := by
  unfold setWinner
  simp only [bind_eq_ok, refuse_bind_eq_ok, s.high_eq_max, s.low_eq_min, Threshold.wins,
    Threshold.cleared, Classical.not_not]
  constructor
  · rintro ⟨⟨⟩, range, unequal, minimum, finished, inTime, winner⟩
    exact ⟨⟨SetScore.checkRange_eq_ok.mp range, unequal, Int.not_lt.mp minimum, finished, inTime⟩,
      Except.ok.inj winner⟩
  · rintro ⟨legal, rfl⟩
    exact ⟨(), SetScore.checkRange_eq_ok.mpr legal.inRange, legal.unequal,
      Int.not_lt.mpr legal.minimum, legal.finished, legal.inTime, rfl⟩

/-! ## The sets of each side -/

/-- How many sets a side has won. -/
def setsWon (scores : List SetScore) (side : Side) : Nat :=
  scores.countP fun s => s.points side.opposite < s.points side

theorem setsWon_append (played rest : List SetScore) (side : Side) :
    setsWon (played ++ rest) side = setsWon played side + setsWon rest side :=
  List.countP_append

theorem setsWon_cons {s : SetScore} (unequal : s.home ≠ s.away) (rest : List SetScore)
    (side : Side) :
    setsWon (s :: rest) side = setsWon rest side + if s.leader = side then 1 else 0 := by
  simp only [setsWon, List.countP_cons, SetScore.points_opposite_lt_iff unequal, decide_eq_true_eq]

/-- Where no set is level, each has been won by one side. -/
theorem setsWon_add {scores : List SetScore} (unequal : ∀ s ∈ scores, s.home ≠ s.away) :
    setsWon scores .home + setsWon scores .away = scores.length := by
  induction scores with
  | nil => rfl
  | cons s rest ih =>
      have first := unequal s List.mem_cons_self
      have others := ih fun t ht => unequal t (List.mem_cons_of_mem _ ht)
      rw [setsWon_cons first, setsWon_cons first, List.length_cons]
      cases s.leader <;> simp only [reduceCtorEq, ↓reduceIte] <;> omega

namespace SetCount

/-- The count after a list of sets. -/
def after (count : SetCount) (scores : List SetScore) : SetCount :=
  ⟨count.home + setsWon scores .home, count.away + setsWon scores .away⟩

theorem after_cons {count : SetCount} {s : SetScore} (unequal : s.home ≠ s.away)
    (rest : List SetScore) : count.after (s :: rest) = (count.add s.leader).after rest := by
  rw [after, setsWon_cons unequal, setsWon_cons unequal]
  cases s.leader <;> simp [after, add] <;> omega

theorem after_concat {count : SetCount} {s : SetScore} (unequal : s.home ≠ s.away)
    (played : List SetScore) : count.after (played ++ [s]) = (count.after played).add s.leader := by
  simp only [after, setsWon_append, setsWon_cons unequal]
  cases s.leader <;> simp [setsWon, add] <;> omega

theorem of_zero_after (scores : List SetScore) (side : Side) :
    (zero.after scores).of side = setsWon scores side := by
  cases side <;> simp [after, of, zero]

end SetCount

/-! ## Counting sets -/

/-- What holds of every element of a list together with those before it. -/
theorem forall_split_cons {α : Type} {P : List α → α → Prop} {x : α} {xs : List α} :
    (∀ before y after, x :: xs = before ++ y :: after → P before y) ↔
      P [] x ∧ ∀ before y after, xs = before ++ y :: after → P (x :: before) y := by
  constructor
  · intro all
    exact ⟨all [] x xs rfl, fun before y after split => all (x :: before) y after (split ▸ rfl)⟩
  · rintro ⟨first, rest⟩ before y after split
    cases before with
    | nil =>
        obtain ⟨rfl, rfl⟩ := List.cons.inj split
        exact first
    | cons z before =>
        obtain ⟨rfl, tail⟩ := List.cons.inj split
        exact rest before y after tail

theorem forall_split_nil {α : Type} {P : List α → α → Prop} :
    ∀ before y after, ([] : List α) = before ++ y :: after → P before y := by
  intro before y after split
  cases before <;> cases split

theorem forall_split_concat {α : Type} {P : List α → α → Prop} {x : α} {xs : List α} :
    (∀ before y after, xs ++ [x] = before ++ y :: after → P before y) ↔
      (∀ before y after, xs = before ++ y :: after → P before y) ∧ P xs x := by
  constructor
  · intro all
    refine ⟨fun before y after split => all before y (after ++ [x]) ?_, all xs x [] rfl⟩
    rw [split, List.append_assoc, List.cons_append]
  · rintro ⟨earlier, last⟩ before y after split
    rcases List.eq_nil_or_concat' after with rfl | ⟨after, z, rfl⟩
    · obtain ⟨rfl, tail⟩ := List.append_inj' split rfl
      cases tail
      exact last
    · rw [← List.cons_append, ← List.append_assoc] at split
      exact earlier before y after (List.append_inj' split rfl).1

namespace SetRules

variable {rules : SetRules} {scores : List SetScore} {count total : SetCount}

theorem not_decided_iff : ¬ rules.decided count ↔ ∀ side, count.of side < rules.setsToWin := by
  unfold decided
  constructor
  · intro undecided side
    cases side <;> simp only [SetCount.of] <;> omega
  · intro below
    have home := below .home
    have away := below .away
    simp only [SetCount.of] at home away
    omega

/-- Counting sets goes through exactly if every set is legal and none follows the deciding one. -/
theorem countSets_eq_ok {set : Nat} :
    rules.countSets set count scores = .ok total ↔
      (∀ played s rest, scores = played ++ s :: rest →
        ¬ rules.decided (count.after played) ∧ rules.LegalSet (set + played.length) s) ∧
      count.after scores = total := by
  induction scores generalizing set count with
  | nil => simp [countSets, SetCount.after, setsWon]
  | cons s rest ih =>
      unfold countSets
      rw [forall_split_cons]
      simp only [refuse_bind_eq_ok, bind_eq_ok, setWinner_eq_ok, ih]
      constructor
      · rintro ⟨undecided, side, ⟨legal, rfl⟩, later, rfl⟩
        refine ⟨⟨⟨by simpa [SetCount.after, setsWon] using undecided, legal⟩, ?_⟩, ?_⟩
        · intro played t tail split
          have := later played t tail split
          rwa [← SetCount.after_cons legal.unequal, Nat.add_right_comm] at this
        · exact SetCount.after_cons legal.unequal rest
      · rintro ⟨⟨⟨undecided, legal⟩, later⟩, rfl⟩
        refine ⟨by simpa [SetCount.after, setsWon] using undecided, s.leader, ⟨legal, rfl⟩, ?_, ?_⟩
        · intro played t tail split
          have := later played t tail split
          rwa [SetCount.after_cons legal.unequal, List.length_cons, ← Nat.add_assoc,
            Nat.add_right_comm] at this
        · exact (SetCount.after_cons legal.unequal rest).symm

/-! ## The whole match -/

/-- Every set is legal for its number. -/
def Legal (rules : SetRules) (scores : List SetScore) : Prop :=
  ∀ played s rest, scores = played ++ s :: rest → rules.LegalSet (played.length + 1) s

/-- Every set is legal for its number, and no side had the sets that win the match before it. -/
def Playable (rules : SetRules) (scores : List SetScore) : Prop :=
  ∀ played s rest, scores = played ++ s :: rest →
    (∀ side, setsWon played side < rules.setsToWin) ∧ rules.LegalSet (played.length + 1) s

/-- The scores of a complete match: after the last set a side has the sets that win the match, or
the counts are level, where draws are allowed and all sets are played. -/
structure Completes (rules : SetRules) (drawsAllowed : Bool) (scores : List SetScore) : Prop where
  nonempty : scores ≠ []
  inLimit : scores.length ≤ rules.maxSets
  playable : rules.Playable scores
  ended : (∃ side, setsWon scores side = rules.setsToWin) ∨
    setsWon scores .home = setsWon scores .away ∧ scores.length = rules.maxSets ∧
      drawsAllowed = true

/-- An evaluation says what the scores show: the sets of each side, which are all the sets, and the
side that alone has the sets that win the match, or a draw if no side has them and the counts are
level after all sets. -/
structure Shows (rules : SetRules) (scores : List SetScore) (e : Evaluation) : Prop where
  sets : ∀ side, e.sets.of side = setsWon scores side
  all : e.sets.home + e.sets.away = scores.length
  winner : ∀ side, e.outcome = .wonBy side ↔
    e.sets.of side = rules.setsToWin ∧ e.sets.of side.opposite < rules.setsToWin
  draw : e.outcome = .draw ↔ e.sets.home = e.sets.away ∧ e.sets.home < rules.setsToWin ∧
    scores.length = rules.maxSets

theorem playable_concat {s : SetScore} :
    rules.Playable (scores ++ [s]) ↔
      rules.Playable scores ∧ (∀ side, setsWon scores side < rules.setsToWin) ∧
        rules.LegalSet (scores.length + 1) s :=
  forall_split_concat

theorem Legal.unequal (legal : rules.Legal scores) : ∀ s ∈ scores, s.home ≠ s.away := by
  intro s mem
  obtain ⟨played, rest, split⟩ := List.append_of_mem mem
  exact (legal played s rest split).unequal

theorem Playable.legal (playable : rules.Playable scores) : rules.Legal scores :=
  fun played s rest split => (playable played s rest split).2

theorem Playable.unequal (playable : rules.Playable scores) : ∀ s ∈ scores, s.home ≠ s.away :=
  playable.legal.unequal

/-- The last set decides the match for one side at most. -/
theorem Playable.setsWon_le (playable : rules.Playable scores) (nonempty : scores ≠ [])
    (side : Side) :
    setsWon scores side ≤ rules.setsToWin ∧
      (setsWon scores side = rules.setsToWin → setsWon scores side.opposite < rules.setsToWin) := by
  obtain ⟨played, last, rfl⟩ := (List.eq_nil_or_concat' scores).resolve_left nonempty
  obtain ⟨before, legal⟩ := playable played last [] rfl
  have own := before side
  have other := before side.opposite
  rw [setsWon_append, setsWon_append, setsWon_cons legal.unequal, setsWon_cons legal.unequal]
  cases side <;> cases last.leader <;> simp [setsWon, Side.opposite] at * <;> omega

theorem countSets_one_eq_ok :
    rules.countSets 1 .zero scores = .ok total ↔
      rules.Playable scores ∧ SetCount.zero.after scores = total := by
  simp only [countSets_eq_ok, not_decided_iff, SetCount.of_zero_after, Nat.add_comm 1, Playable]

theorem outcome_eq_ok {played : Nat} {o : Outcome} :
    rules.outcome played count = .ok o ↔
      match o with
      | .wonBy .home => rules.setsToWin ≤ count.home
      | .wonBy .away => count.home < rules.setsToWin ∧ rules.setsToWin ≤ count.away
      | .draw => count.home < rules.setsToWin ∧ count.away < rules.setsToWin ∧
          count.home = count.away ∧ played = rules.maxSets := by
  unfold outcome
  split_ifs with home away level <;> rcases o with (_ | _) | _ <;> simp <;> omega

/-- What evaluation makes of a list of set scores. -/
theorem evaluateSets_eq_ok {e : Evaluation} :
    rules.evaluateSets scores = .ok e ↔
      scores.length ≤ rules.maxSets ∧ rules.Playable scores ∧
        SetCount.zero.after scores = e.sets ∧
          rules.outcome scores.length e.sets = .ok e.outcome := by
  obtain ⟨o, sets⟩ := e
  simp only [evaluateSets, refuse_bind_eq_ok, bind_eq_ok, pure, Except.pure, Nat.not_lt,
    countSets_one_eq_ok]
  constructor
  · rintro ⟨inLimit, _, ⟨playable, rfl⟩, _, ended, ⟨⟩⟩
    exact ⟨inLimit, playable, rfl, ended⟩
  · rintro ⟨inLimit, playable, rfl, ended⟩
    exact ⟨inLimit, _, ⟨playable, rfl⟩, _, ended, rfl⟩

end SetRules

theorem Scoring.evaluate_eq_ok {scoring : Scoring} {scores : List SetScore} {e : Evaluation} :
    scoring.evaluate scores = .ok e ↔
      scores ≠ [] ∧
        (match scoring.form with
          | .continuous => scoring.rules.evaluateContinuous scores
          | .sets => scoring.rules.evaluateSets scores) = .ok e ∧
        (e.outcome = .draw → scoring.drawsAllowed = true) := by
  unfold Scoring.evaluate
  cases scoring.form <;>
    simp only [refuse_bind_eq_ok, bind_eq_ok, pure, Except.pure, Except.ok.injEq, not_and,
      Bool.not_eq_false]
  all_goals
    refine and_congr_right fun _ => ?_
    constructor
    · rintro ⟨_, evaluated, allowed, rfl⟩
      exact ⟨evaluated, allowed⟩
    · rintro ⟨evaluated, allowed⟩
      exact ⟨e, evaluated, allowed, rfl⟩

theorem Scoring.evaluate_sets_eq_ok {rules : SetRules} {drawsAllowed : Bool}
    {scores : List SetScore} {e : Evaluation} :
    Scoring.evaluate ⟨rules, .sets, drawsAllowed⟩ scores = .ok e ↔
      scores ≠ [] ∧ rules.evaluateSets scores = .ok e ∧
        (e.outcome = .draw → drawsAllowed = true) :=
  Scoring.evaluate_eq_ok

theorem Scoring.evaluate_continuous_eq_ok {rules : SetRules} {drawsAllowed : Bool}
    {scores : List SetScore} {e : Evaluation} :
    Scoring.evaluate ⟨rules, .continuous, drawsAllowed⟩ scores = .ok e ↔
      scores ≠ [] ∧ rules.evaluateContinuous scores = .ok e ∧
        (e.outcome = .draw → drawsAllowed = true) :=
  Scoring.evaluate_eq_ok

namespace SetRules

variable {rules : SetRules} {drawsAllowed : Bool} {scores : List SetScore} {e : Evaluation}

theorem completes_of_evaluate
    (h : Scoring.evaluate ⟨rules, .sets, drawsAllowed⟩ scores = .ok e) :
    rules.Completes drawsAllowed scores := by
  obtain ⟨nonempty, evaluated, allowed⟩ := Scoring.evaluate_sets_eq_ok.mp h
  obtain ⟨inLimit, playable, counted, ended⟩ := evaluateSets_eq_ok.mp evaluated
  have home : e.sets.home = setsWon scores .home := counted ▸ SetCount.of_zero_after scores .home
  have away : e.sets.away = setsWon scores .away := counted ▸ SetCount.of_zero_after scores .away
  refine ⟨nonempty, inLimit, playable, ?_⟩
  rw [outcome_eq_ok, home, away] at ended
  split at ended
  · exact .inl ⟨.home, Nat.le_antisymm (playable.setsWon_le nonempty .home).1 ended⟩
  · exact .inl ⟨.away, Nat.le_antisymm (playable.setsWon_le nonempty .away).1 ended.2⟩
  · next draw =>
      obtain ⟨-, -, level, all⟩ := ended
      exact .inr ⟨level, all, allowed draw⟩

theorem Completes.exists_evaluate (complete : rules.Completes drawsAllowed scores) :
    ∃ e, Scoring.evaluate ⟨rules, .sets, drawsAllowed⟩ scores = .ok e := by
  have one := complete.playable.setsWon_le complete.nonempty
  have home := SetCount.of_zero_after scores .home
  have away := SetCount.of_zero_after scores .away
  simp only [SetCount.of] at home away
  have evaluated (o : Outcome) (ended : rules.outcome scores.length (.after .zero scores) = .ok o)
      (allowed : o = .draw → drawsAllowed = true) :
      ∃ e, Scoring.evaluate ⟨rules, .sets, drawsAllowed⟩ scores = .ok e :=
    ⟨⟨o, .after .zero scores⟩, Scoring.evaluate_sets_eq_ok.mpr ⟨complete.nonempty,
      evaluateSets_eq_ok.mpr ⟨complete.inLimit, complete.playable, rfl, ended⟩, allowed⟩⟩
  rcases complete.ended with ⟨side, won⟩ | ⟨level, all, allowed⟩
  · refine evaluated (.wonBy side) (outcome_eq_ok.mpr ?_) nofun
    have other := (one side).2 won
    cases side
    · exact home ▸ Nat.le_of_eq won.symm
    · exact ⟨home ▸ other, away ▸ Nat.le_of_eq won.symm⟩
  · refine evaluated .draw (outcome_eq_ok.mpr ?_) fun _ => allowed
    have below := (one .home).1
    have other := (one .home).2
    simp only [home, away, Side.opposite] at other ⊢
    omega

/-- After the last set, a match is complete if a side has the sets that win it or the counts are
level. -/
theorem Playable.exists_evaluate_iff (playable : rules.Playable scores) (nonempty : scores ≠ [])
    (inLimit : scores.length ≤ rules.maxSets)
    (isOver : (∃ side, rules.setsToWin ≤ setsWon scores side) ∨ rules.maxSets ≤ scores.length) :
    (∃ e, Scoring.evaluate ⟨rules, .sets, true⟩ scores = .ok e) ↔
      (∃ side, setsWon scores side = rules.setsToWin) ∨
        setsWon scores .home = setsWon scores .away := by
  constructor
  · rintro ⟨e, accepted⟩
    exact (completes_of_evaluate accepted).ended.imp_right And.left
  · intro ended
    refine Completes.exists_evaluate ⟨nonempty, inLimit, playable, ?_⟩
    rcases isOver with ⟨side, reached⟩ | all
    · exact .inl ⟨side, Nat.le_antisymm (playable.setsWon_le nonempty side).1 reached⟩
    · exact ended.imp_right fun level => ⟨level, Nat.le_antisymm inLimit all, rfl⟩

theorem shows_of_evaluate (h : Scoring.evaluate ⟨rules, .sets, drawsAllowed⟩ scores = .ok e) :
    rules.Shows scores e := by
  obtain ⟨nonempty, evaluated, -⟩ := Scoring.evaluate_sets_eq_ok.mp h
  obtain ⟨inLimit, playable, counted, ended⟩ := evaluateSets_eq_ok.mp evaluated
  have sets (side : Side) : e.sets.of side = setsWon scores side :=
    counted ▸ SetCount.of_zero_after scores side
  have home := playable.setsWon_le nonempty .home
  have away := playable.setsWon_le nonempty .away
  rw [outcome_eq_ok] at ended
  simp only [← sets, SetCount.of, Side.opposite] at home away
  refine ⟨sets, ?_, fun side => ?_, ?_⟩
  · exact counted ▸ by simpa [SetCount.after, SetCount.zero] using setsWon_add playable.unequal
  · split at ended <;> cases side <;> simp [*, SetCount.of, Side.opposite] <;> omega
  · split at ended
    · next won =>
        simp only [won, reduceCtorEq, false_iff]
        omega
    · next won =>
        simp only [won, reduceCtorEq, false_iff]
        omega
    · next draw => simp only [draw, ended, and_self]

end SetRules

/-- Evaluation accepts exactly the scores of a complete match, and says what they show. -/
theorem Scoring.evaluate_sets_iff_completes (rules : SetRules) (drawsAllowed : Bool)
    (scores : List SetScore) :
    ((∃ e, Scoring.evaluate ⟨rules, .sets, drawsAllowed⟩ scores = .ok e) ↔
      rules.Completes drawsAllowed scores) ∧
    ∀ e, Scoring.evaluate ⟨rules, .sets, drawsAllowed⟩ scores = .ok e → rules.Shows scores e := by
  refine ⟨⟨?_, fun complete => complete.exists_evaluate⟩, fun e h => SetRules.shows_of_evaluate h⟩
  rintro ⟨e, h⟩
  exact SetRules.completes_of_evaluate h

end Tourney
