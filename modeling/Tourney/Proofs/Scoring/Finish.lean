import Mathlib.Data.List.Induction
import Tourney.Proofs.Scoring.Limits
import Tourney.Proofs.Scoring.Play

/-!
# Matches that can be finished

Valid rules do not ensure that a match can be won. A set has a winning score exactly if its cap is
positive and not below the least winning score, and if the points fit in a signed 32-bit number
(`SetRules.Winnable`). A side can win a match in sets exactly if each set of a win in straight sets
has such a score (`SetRules.Finishable`).
-/

namespace Tourney

namespace SetScore

/-- Points are recorded as signed 32-bit numbers. -/
def Recordable (s : SetScore) : Prop :=
  ∀ side, -2147483648 ≤ s.points side ∧ s.points side ≤ 2147483647

/-- The score at which one side has `high` points and the other has `low`. -/
def ofSide : Side → Int → Int → SetScore
  | .home, high, low => ⟨high, low⟩
  | .away, high, low => ⟨low, high⟩

@[simp]
theorem points_ofSide (side : Side) (high low : Int) :
    (ofSide side high low).points side = high := by
  cases side <;> rfl

@[simp]
theorem points_opposite_ofSide (side : Side) (high low : Int) :
    (ofSide side high low).points side.opposite = low := by
  cases side <;> rfl

variable {side : Side} {high low : Int}

theorem max_ofSide (ahead : low < high) :
    max (ofSide side high low).home (ofSide side high low).away = high := by
  cases side <;> simp only [ofSide] <;> omega

theorem ofSide_unequal (ahead : low < high) :
    (ofSide side high low).home ≠ (ofSide side high low).away := by
  cases side <;> simp only [ofSide] <;> omega

theorem leader_ofSide (ahead : low < high) : (ofSide side high low).leader = side := by
  rw [← points_opposite_lt_iff (ofSide_unequal ahead), points_ofSide, points_opposite_ofSide]
  exact ahead

theorem within_ofSide {cap : Nat} (nonneg : 0 ≤ low) (ahead : low < high) (inCap : high ≤ cap) :
    (ofSide side high low).Within cap := by
  intro any
  cases side <;> cases any <;> simp only [ofSide, points] <;> omega

theorem recordable_ofSide (nonneg : 0 ≤ low) (ahead : low < high) (most : high ≤ 2147483647) :
    (ofSide side high low).Recordable := by
  intro any
  cases side <;> cases any <;> simp only [ofSide, points] <;> omega

end SetScore

namespace SetRules

variable {rules : SetRules} {set : Nat} {scores : List SetScore} {side : Side}

/-! ## One set -/

/-- A set can be won with points that can be recorded: at its cap, or below it with a score that is
high enough for the target, the lead and the least winning score. -/
structure Winnable (rules : SetRules) (set : Nat) : Prop where
  cap_pos : 0 < (rules.threshold set).cap
  minimum : rules.minPoints ≤ (rules.threshold set).cap
  recordable : (rules.threshold set).cap ≤ 2147483647 ∨
    (rules.threshold set).target ≤ 2147483647 ∧ rules.minPoints ≤ 2147483647 ∧
      rules.clearPoints ≤ 2147483647

theorem winnable_of_legalSet {s : SetScore} (legal : rules.LegalSet set s)
    (recordable : s.Recordable) : rules.Winnable set := by
  obtain ⟨nonneg, ahead, inCap, minimum, finished, -⟩ := legalSet_iff_finalScore.mp ⟨legal, rfl⟩
  have most := (recordable s.leader).2
  refine ⟨by omega, by omega, ?_⟩
  rcases finished with cap | ⟨target, lead⟩
  · exact .inl (by omega)
  · exact .inr (by omega)

theorem Winnable.exists_finalScore (winnable : rules.Winnable set)
    (valid : rules.validate = .ok ()) :
    ∃ high low, rules.FinalScore set high low ∧ high ≤ 2147483647 := by
  obtain ⟨cap, minimum, recordable⟩ := winnable
  have lead := clearPoints_pos valid
  have target := target_le_cap valid set
  by_cases low : (rules.threshold set).cap ≤ 2147483647
  · -- At the cap a lead of one point is enough.
    let high : Int := (rules.threshold set).cap
    refine ⟨high, high - 1, ⟨?_, ?_, ?_, ?_, ?_, ?_⟩, ?_⟩ <;> omega
  · -- Below it the lead is needed, and leaves no point too many.
    obtain ⟨target, minimum, lead⟩ := recordable.resolve_left low
    let high : Int := max (rules.threshold set).target (max rules.minPoints rules.clearPoints)
    refine ⟨high, high - rules.clearPoints, ⟨?_, ?_, ?_, ?_, ?_, ?_⟩, ?_⟩ <;> omega

theorem Winnable.exists_legalSet (winnable : rules.Winnable set) (valid : rules.validate = .ok ())
    (side : Side) : ∃ s, rules.LegalSet set s ∧ s.leader = side ∧ s.Recordable := by
  obtain ⟨high, low, final, most⟩ := winnable.exists_finalScore valid
  have legal : rules.LegalSet set (.ofSide side high low) ∧
      (SetScore.ofSide side high low).leader = side := by
    rw [legalSet_iff_finalScore, SetScore.points_ofSide, SetScore.points_opposite_ofSide]
    exact final
  exact ⟨_, legal.1, legal.2, SetScore.recordable_ofSide final.nonneg final.ahead most⟩

/-! ## Sets with given winners -/

theorem setsWon_eq_count (unequal : ∀ s ∈ scores, s.home ≠ s.away) (side : Side) :
    setsWon scores side = (scores.map SetScore.leader).count side := by
  induction scores with
  | nil => rfl
  | cons s rest ih =>
      have first := unequal s List.mem_cons_self
      have others := ih fun t ht => unequal t (List.mem_cons_of_mem _ ht)
      rw [setsWon_cons first, others, List.map_cons, List.count_cons]
      simp only [beq_iff_eq]

/-- As long as the sets can be won, they can be won by any sides in turn. -/
theorem exists_legal {n : Nat} (valid : rules.validate = .ok ())
    (winnable : ∀ set, 1 ≤ set → set ≤ n → rules.Winnable set) (sides : List Side)
    (few : sides.length ≤ n) :
    ∃ scores, scores.map SetScore.leader = sides ∧ (∀ s ∈ scores, s.Recordable) ∧
      rules.Legal scores := by
  induction sides using List.reverseRecOn with
  | nil => exact ⟨[], rfl, nofun, forall_split_nil⟩
  | append_singleton sides side ih =>
      -- The list grows at its end, so that the sets before keep their numbers.
      rw [List.length_append, List.length_singleton] at few
      obtain ⟨scores, leaders, recordable, legal⟩ := ih (Nat.le_of_succ_le few)
      have length : scores.length = sides.length := by rw [← leaders, List.length_map]
      have next := winnable (scores.length + 1) (Nat.le_add_left _ _) (length ▸ few)
      obtain ⟨s, legalLast, leader, recordableLast⟩ := next.exists_legalSet valid side
      refine ⟨scores ++ [s], ?_, ?_, forall_split_concat.mpr ⟨legal, legalLast⟩⟩
      · rw [List.map_append, leaders, List.map_singleton, leader]
      · intro t ht
        rcases List.mem_append.mp ht with ht | ht
        · exact recordable t ht
        · exact List.mem_singleton.mp ht ▸ recordableLast

/-! ## Winning a match -/

/-- A side can win: in a match in sets, by a win in straight sets, and otherwise with the least
winning score. -/
def Finishable (rules : SetRules) : MatchForm → Prop
  | .sets => ∀ set, 1 ≤ set → set ≤ rules.setsToWin → rules.Winnable set
  | .continuous => 0 < rules.maxPoints ∧ rules.minPoints ≤ rules.maxPoints ∧
      rules.minPoints ≤ 2147483647

theorem Legal.winnable (legal : rules.Legal scores) (recordable : ∀ s ∈ scores, s.Recordable)
    (one : 1 ≤ set) (played : set ≤ scores.length) : rules.Winnable set := by
  have inList : set - 1 < scores.length := by omega
  have split : scores = scores.take (set - 1) ++ scores[set - 1] :: scores.drop (set - 1 + 1) := by
    rw [← List.drop_eq_getElem_cons inList, List.take_append_drop]
  have this := legal _ _ _ split
  rw [List.length_take, Nat.min_eq_left (Nat.le_of_lt inList), Nat.sub_add_cancel one] at this
  exact winnable_of_legalSet this (recordable _ (List.getElem_mem inList))

theorem setsWon_le_length (scores : List SetScore) (side : Side) :
    setsWon scores side ≤ scores.length :=
  List.countP_le_length

theorem exists_straight (valid : rules.validate = .ok ()) (finishable : rules.Finishable .sets)
    (side : Side) :
    ∃ scores, (∀ s ∈ scores, s.Recordable) ∧ rules.Playable scores ∧
      scores.length = rules.setsToWin ∧ setsWon scores side = rules.setsToWin := by
  obtain ⟨scores, leaders, recordable, legal⟩ :=
    exists_legal valid finishable (List.replicate rules.setsToWin side)
      (Nat.le_of_eq List.length_replicate)
  have length : scores.length = rules.setsToWin := by
    rw [← List.length_map SetScore.leader, leaders, List.length_replicate]
  have won : setsWon scores side = rules.setsToWin := by
    rw [setsWon_eq_count legal.unequal, leaders, List.count_replicate_self]
  refine ⟨scores, recordable, fun played s rest split => ⟨fun any => ?_, ?_⟩, length, won⟩
  · -- Fewer sets are played before a set than win the match.
    have before := setsWon_le_length played any
    rw [split, List.length_append, List.length_cons] at length
    omega
  · exact legal played s rest split

theorem exists_win_sets_iff (valid : rules.validate = .ok ()) {drawsAllowed : Bool} :
    (∃ scores e, (∀ s ∈ scores, s.Recordable) ∧
      Scoring.evaluate ⟨rules, .sets, drawsAllowed⟩ scores = .ok e ∧ e.outcome = .wonBy side) ↔
      rules.Finishable .sets := by
  constructor
  · rintro ⟨scores, e, recordable, accepted, winner⟩ set one few
    have complete := completes_of_evaluate accepted
    have shows := shows_of_evaluate accepted
    have won := ((shows.winner side).mp winner).1
    have played := setsWon_le_length scores side
    rw [← shows.sets, won] at played
    exact complete.playable.legal.winnable recordable one (Nat.le_trans few played)
  · intro finishable
    obtain ⟨scores, recordable, playable, length, won⟩ := exists_straight valid finishable side
    obtain ⟨-, ⟨toWin, few⟩, -⟩ := validate_eq_ok.mp valid
    have nonempty : scores ≠ [] := by
      rintro rfl
      exact absurd length (Nat.ne_of_lt toWin)
    have complete : rules.Completes drawsAllowed scores :=
      ⟨nonempty, length ▸ few, playable, .inl ⟨side, won⟩⟩
    obtain ⟨e, accepted⟩ := complete.exists_evaluate
    have shows := shows_of_evaluate accepted
    refine ⟨scores, e, recordable, accepted, (shows.winner side).mpr ?_⟩
    rw [shows.sets, shows.sets]
    exact ⟨won, (playable.setsWon_le nonempty side).2 won⟩

theorem exists_win_continuous_iff {drawsAllowed : Bool} :
    (∃ scores e, (∀ s ∈ scores, s.Recordable) ∧
      Scoring.evaluate ⟨rules, .continuous, drawsAllowed⟩ scores = .ok e ∧
        e.outcome = .wonBy side) ↔
      rules.Finishable .continuous := by
  constructor
  · rintro ⟨scores, e, recordable, accepted, winner⟩
    obtain ⟨-, evaluated, -⟩ := Scoring.evaluate_continuous_eq_ok.mp accepted
    obtain ⟨s, rfl⟩ := exists_singleton_of_evaluateContinuous evaluated
    obtain ⟨within, ⟨-, rfl⟩ | ⟨unequal, minimum, -⟩⟩ := evaluateContinuous_eq_ok.mp evaluated
    · cases winner
    · have ahead := (SetScore.points_opposite_lt_iff unequal).mpr rfl
      have high := within s.leader
      have low := within s.leader.opposite
      have most := (recordable s List.mem_cons_self s.leader).2
      rw [SetScore.max_eq_points ahead] at minimum
      exact ⟨by omega, by omega, by omega⟩
  · rintro ⟨cap, minimum, recordable⟩
    obtain ⟨high, ahead, least, inCap, most⟩ : ∃ high : Int, 0 < high ∧ rules.minPoints ≤ high ∧
        high ≤ rules.maxPoints ∧ high ≤ 2147483647 :=
      ⟨max 1 (rules.minPoints : Int), by omega, by omega, by omega, by omega⟩
    have within : (SetScore.ofSide side high 0).Within rules.maxPoints :=
      SetScore.within_ofSide (Int.le_refl 0) ahead inCap
    have evaluated := evaluateContinuous_eq_ok.mpr ⟨within, .inr
      ⟨SetScore.ofSide_unequal ahead, (SetScore.max_ofSide ahead).symm ▸ least, rfl⟩⟩
    have accepted : Scoring.evaluate ⟨rules, .continuous, drawsAllowed⟩ _ = _ :=
      Scoring.evaluate_continuous_eq_ok.mpr ⟨List.cons_ne_nil _ _, evaluated, nofun⟩
    refine ⟨_, _, ?_, accepted, congrArg Outcome.wonBy (SetScore.leader_ofSide ahead)⟩
    rw [List.forall_mem_singleton]
    exact SetScore.recordable_ofSide (Int.le_refl 0) ahead most

end SetRules

/-- Under valid rules, a side can win with points that can be recorded exactly if the match can be
finished. -/
theorem Scoring.exists_win_iff_finishable {rules : SetRules} (valid : rules.validate = .ok ())
    (form : MatchForm) (drawsAllowed : Bool) (side : Side) :
    (∃ scores e, (∀ s ∈ scores, s.Recordable) ∧
      Scoring.evaluate ⟨rules, form, drawsAllowed⟩ scores = .ok e ∧ e.outcome = .wonBy side) ↔
      rules.Finishable form := by
  cases form with
  | sets => exact SetRules.exists_win_sets_iff valid
  | continuous => exact SetRules.exists_win_continuous_iff

namespace Scoring

/-- Three sets have to be won, and the caps are above every score that can be recorded. -/
def highCaps : SetRules :=
  { SetRules.standard with
    maxSets := 3, minPoints := 30, maxPoints := 4294967295, lastSetMaxPoints := 4294967295 }

theorem highCaps_win_away :
    highCaps.validate = .ok () ∧
      ∃ scores e, (∀ s ∈ scores, s.Recordable) ∧
        Scoring.evaluate ⟨highCaps, .sets, false⟩ scores = .ok e ∧ e.outcome = .wonBy .away := by
  have finishable : highCaps.Finishable .sets := by
    intro set _ _
    constructor <;> unfold SetRules.threshold <;> split <;> decide
  exact ⟨rfl, (exists_win_iff_finishable rfl .sets false .away).mpr finishable⟩

/-- The least winning score is above every cap. -/
def highMinimum : SetRules :=
  { SetRules.standard with minPoints := 1001 }

/-- These rules are valid, and no scores win the match. -/
theorem valid_and_not_winnable :
    highMinimum.validate = .ok () ∧ ∀ form drawsAllowed side, ¬ ∃ scores e,
      Scoring.evaluate ⟨highMinimum, form, drawsAllowed⟩ scores = .ok e ∧
        e.outcome = .wonBy side := by
  refine ⟨rfl, fun form drawsAllowed side => ?_⟩
  rintro ⟨scores, e, accepted, winner⟩
  cases form with
  | sets =>
      have complete := SetRules.completes_of_evaluate accepted
      obtain ⟨s, rest, rfl⟩ := List.exists_cons_of_ne_nil complete.nonempty
      have legal := (complete.playable [] s rest rfl).2
      obtain ⟨-, -, inCap, minimum, -, -⟩ := SetRules.legalSet_iff_finalScore.mp ⟨legal, rfl⟩
      exact absurd (Int.le_trans minimum inCap) (by decide)
  | continuous =>
      obtain ⟨-, evaluated, -⟩ := evaluate_continuous_eq_ok.mp accepted
      obtain ⟨s, rfl⟩ := SetRules.exists_singleton_of_evaluateContinuous evaluated
      obtain ⟨within, ⟨-, rfl⟩ | ⟨unequal, minimum, -⟩⟩ :=
        SetRules.evaluateContinuous_eq_ok.mp evaluated
      · cases winner
      · rw [SetScore.max_eq_points ((SetScore.points_opposite_lt_iff unequal).mpr rfl)] at minimum
        exact absurd (Int.le_trans minimum (within s.leader).2) (by decide)

end Scoring

end Tourney
