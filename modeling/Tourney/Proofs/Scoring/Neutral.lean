import Tourney.Proofs.Scoring.Sets

/-!
# No side is favoured

Where home and away are exchanged in every score, evaluation comes to the same result with the sides
exchanged, and it finds the same fault where it fails (`Scoring.neutral`). Evaluation looks at the
home side first. That makes a difference only where both sides have the sets that win the match, and
no list of sets leads there: each set is won by one side, and none follows once a side has them.
-/

namespace Tourney

/-! ## Exchanging the sides -/

/-- The fault that is found when the sides are exchanged. -/
def ScoreFault.swap : ScoreFault → ScoreFault
  | .unfinishedMatch home away => .unfinishedMatch away home
  | .aboveCap set home away cap => .aboveCap set away home cap
  | .level set home away => .level set away home
  | .unfinishedSet set home away => .unfinishedSet set away home
  | .overrun set home away => .overrun set away home
  | .unpaired home away => .unpaired away home
  | fault => fault

theorem ScoreFault.swap_swap (fault : ScoreFault) : fault.swap.swap = fault := by
  cases fault <;> rfl

def SetCount.swap (count : SetCount) : SetCount :=
  ⟨count.away, count.home⟩

theorem SetCount.swap_add (count : SetCount) (side : Side) :
    (count.add side).swap = count.swap.add side.opposite := by
  cases side <;> rfl

theorem Evaluation.swap_swap (e : Evaluation) : e.swap.swap = e := by
  obtain ⟨_ | _, sets⟩ := e <;> simp [swap, Outcome.swap]

theorem Outcome.swap_eq_draw {o : Outcome} : o.swap = .draw ↔ o = .draw := by
  cases o <;> simp [swap]

namespace SetScore

variable {s : SetScore}

theorem high_swap (s : SetScore) : s.swap.high = s.high := by
  rw [high_eq_max, high_eq_max, swap, Int.max_comm]

theorem low_swap (s : SetScore) : s.swap.low = s.low := by
  rw [low_eq_min, low_eq_min, swap, Int.min_comm]

theorem leader_swap (unequal : s.home ≠ s.away) : s.swap.leader = s.leader.opposite := by
  rcases Int.lt_or_gt_of_ne unequal with behind | ahead
  · simp [leader, swap, behind, Int.not_lt.mpr (Int.le_of_lt behind), Side.opposite]
  · simp [leader, swap, ahead, Int.not_lt.mpr (Int.le_of_lt ahead), Side.opposite]

end SetScore

/-! ## Mirrored results -/

section Mirror

variable {α α' β β' : Type} {f : α → α'} {g : β → β'}

/-- A result with the sides exchanged, both in a value and in a fault. -/
def mirror (f : α → α') (x : Except ScoreFault α) : Except ScoreFault α' :=
  (x.map f).mapError .swap

@[simp] theorem mirror_ok (a : α) : mirror f (.ok a) = .ok (f a) :=
  rfl

@[simp] theorem mirror_error (fault : ScoreFault) : mirror f (.error fault) = .error fault.swap :=
  rfl

theorem mirror_eq_ok {x : Except ScoreFault α} {a : α} (injective : ∀ a b, f a = f b → a = b) :
    mirror f x = .ok (f a) ↔ x = .ok a := by
  cases x with
  | error fault => simp
  | ok b =>
      rw [mirror_ok, Except.ok.injEq, Except.ok.injEq]
      exact ⟨injective b a, congrArg f⟩

theorem mirror_eq_error {x : Except ScoreFault α} {fault : ScoreFault} :
    mirror f x = .error fault.swap ↔ x = .error fault := by
  cases x with
  | ok a => simp
  | error fault' =>
      rw [mirror_error, Except.error.injEq, Except.error.injEq]
      refine ⟨fun same => ?_, congrArg ScoreFault.swap⟩
      rw [← fault'.swap_swap, same, fault.swap_swap]

theorem mirror_bind {x : Except ScoreFault α} {x' : Except ScoreFault α'}
    {next : α → Except ScoreFault β} {next' : α' → Except ScoreFault β'} (first : x' = mirror f x)
    (rest : ∀ a, x = .ok a → next' (f a) = mirror g (next a)) :
    x' >>= next' = mirror g (x >>= next) := by
  subst first
  cases x with
  | error fault => rfl
  | ok a => exact rest a rfl

theorem mirror_refuse {p p' : Prop} {dp : Decidable p} {dp' : Decidable p'}
    {fault fault' : ScoreFault} {next : Unit → Except ScoreFault β}
    {next' : Unit → Except ScoreFault β'} (same : p' ↔ p) (mirrored : fault' = fault.swap)
    (rest : ¬ p → next' () = mirror g (next ())) :
    (if p' then throw fault' >>= next' else next' ()) =
      mirror g (if p then throw fault >>= next else next ()) := by
  subst mirrored
  by_cases h : p
  · rw [if_pos h, if_pos (same.mpr h)]
    rfl
  · rw [if_neg h, if_neg (mt same.mp h)]
    exact rest h

end Mirror

/-! ## One set -/

theorem SetScore.checkRange_swap (s : SetScore) (set cap : Nat) :
    s.swap.checkRange set cap = mirror id (s.checkRange set cap) := by
  unfold checkRange swap
  simp only [or_comm (a := s.away < 0), or_comm (a := (cap : Int) < s.away)]
  split
  · rfl
  · split <;> rfl

namespace SetRules

variable (rules : SetRules)

theorem setWinner_swap (set : Nat) (s : SetScore) :
    rules.setWinner set s.swap = mirror .opposite (rules.setWinner set s) := by
  unfold setWinner
  rw [s.high_swap, s.low_swap]
  refine mirror_bind (s.checkRange_swap set _) fun _ _ => ?_
  refine mirror_refuse eq_comm rfl fun unequal => ?_
  refine mirror_refuse .rfl rfl fun _ => mirror_refuse .rfl rfl fun _ => ?_
  refine mirror_refuse .rfl rfl fun _ => ?_
  exact congrArg Except.ok (SetScore.leader_swap unequal)

/-! ## A match in sets -/

theorem countSets_swap (set : Nat) (count : SetCount) (scores : List SetScore) :
    rules.countSets set count.swap (scores.map .swap) =
      mirror .swap (rules.countSets set count scores) := by
  induction scores generalizing set count with
  | nil => rfl
  | cons s rest ih =>
      rw [List.map_cons]
      unfold countSets
      have decided : rules.decided count.swap ↔ rules.decided count := or_comm
      refine mirror_refuse decided rfl fun _ => ?_
      refine mirror_bind (rules.setWinner_swap set s) fun side _ => ?_
      rw [← ih, SetCount.swap_add]

/-- The outcome is mirrored unless both sides have the sets that win the match. -/
theorem outcome_swap {count : SetCount} (played : Nat)
    (one : count.home < rules.setsToWin ∨ count.away < rules.setsToWin) :
    rules.outcome played count.swap = mirror .swap (rules.outcome played count) := by
  unfold outcome
  by_cases home : rules.setsToWin ≤ count.home
  · have away : ¬ rules.setsToWin ≤ count.away := by omega
    simp [SetCount.swap, home, away, Outcome.swap, Side.opposite]
  · by_cases away : rules.setsToWin ≤ count.away
    · simp [SetCount.swap, home, away, Outcome.swap, Side.opposite]
    · simp only [SetCount.swap, home, away, ↓reduceIte, eq_comm (a := count.away)]
      split <;> rfl

theorem evaluateSets_swap {scores : List SetScore} (nonempty : scores ≠ []) :
    rules.evaluateSets (scores.map .swap) = mirror .swap (rules.evaluateSets scores) := by
  unfold evaluateSets
  rw [List.length_map]
  refine mirror_refuse .rfl rfl fun _ => ?_
  refine mirror_bind (rules.countSets_swap 1 .zero scores) fun count counted => ?_
  obtain ⟨playable, rfl⟩ := countSets_one_eq_ok.mp counted
  have one : (SetCount.zero.after scores).home < rules.setsToWin ∨
      (SetCount.zero.after scores).away < rules.setsToWin := by
    obtain ⟨most, one⟩ := playable.setsWon_le nonempty .home
    simp only [SetCount.after, SetCount.zero, Nat.zero_add]
    exact (Nat.lt_or_eq_of_le most).imp_right one
  exact mirror_bind (rules.outcome_swap scores.length one) fun _ _ => rfl

/-- Without sets the first side that is looked at has all of the none that it needs. -/
example : ({ standard with setsToWin := 0 } : SetRules).evaluateSets [] =
    .ok ⟨.wonBy .home, .zero⟩ :=
  rfl

/-! ## A match with a running score -/

theorem evaluateContinuous_swap (scores : List SetScore) :
    rules.evaluateContinuous (scores.map .swap) =
      mirror .swap (rules.evaluateContinuous scores) := by
  match scores with
  | [] => rfl
  | _ :: _ :: _ => rfl
  | [s] =>
      rw [List.map_singleton]
      unfold evaluateContinuous
      refine mirror_bind (s.checkRange_swap 1 _) fun _ _ => ?_
      by_cases level : s.home = s.away
      · rw [if_pos level, if_pos (show s.swap.home = s.swap.away from level.symm)]
        rfl
      · rw [if_neg level, if_neg (show s.swap.home ≠ s.swap.away from Ne.symm level)]
        rw [s.high_swap]
        refine mirror_refuse .rfl rfl fun _ => ?_
        rw [SetScore.leader_swap level]
        cases s.leader <;> rfl

end SetRules

/-! ## Any match -/

namespace Scoring

theorem evaluate_swap (scoring : Scoring) (scores : List SetScore) :
    scoring.evaluate (scores.map .swap) = mirror .swap (scoring.evaluate scores) := by
  unfold evaluate
  refine mirror_refuse List.map_eq_nil_iff rfl fun nonempty => ?_
  cases scoring.form with
  | continuous =>
      refine mirror_bind (scoring.rules.evaluateContinuous_swap scores) fun e _ => ?_
      exact mirror_refuse (and_congr_left fun _ => Outcome.swap_eq_draw) rfl fun _ => rfl
  | sets =>
      refine mirror_bind (scoring.rules.evaluateSets_swap nonempty) fun e _ => ?_
      exact mirror_refuse (and_congr_left fun _ => Outcome.swap_eq_draw) rfl fun _ => rfl

theorem checkRanges_swap (rules : SetRules) (set : Nat) (scores : List SetScore) :
    checkRanges rules set (scores.map .swap) = mirror id (checkRanges rules set scores) := by
  induction scores generalizing set with
  | nil => rfl
  | cons s rest ih =>
      rw [List.map_cons]
      unfold checkRanges
      exact mirror_bind (s.checkRange_swap set _) fun _ _ => ih (set + 1)

theorem checkPartial_swap (scoring : Scoring) (scores : List SetScore) :
    scoring.checkPartial (scores.map .swap) = mirror id (scoring.checkPartial scores) := by
  unfold checkPartial
  rw [List.length_map]
  exact mirror_refuse .rfl rfl fun _ => checkRanges_swap scoring.rules 1 scores

/-- Whatever the rules are, valid or not, the scores with home and away exchanged are accepted if and
only if the scores are, both of a complete match and of one in progress. The evaluation then has the
sets of the sides exchanged, and the other side as the winner unless the match is drawn. A fault that
is found is the same with the sides exchanged. -/
theorem neutral (scoring : Scoring) (scores : List SetScore) :
    (∀ e, scoring.evaluate (scores.map .swap) = .ok (Evaluation.swap e) ↔
      scoring.evaluate scores = .ok e) ∧
    (∀ fault, scoring.evaluate (scores.map .swap) = .error (ScoreFault.swap fault) ↔
      scoring.evaluate scores = .error fault) ∧
    (scoring.checkPartial (scores.map .swap) = .ok () ↔ scoring.checkPartial scores = .ok ()) ∧
    ∀ fault, scoring.checkPartial (scores.map .swap) = .error (ScoreFault.swap fault) ↔
      scoring.checkPartial scores = .error fault := by
  rw [evaluate_swap, checkPartial_swap]
  refine ⟨fun e => mirror_eq_ok fun e e' same => ?_, fun _ => mirror_eq_error,
    mirror_eq_ok fun _ _ => id, fun _ => mirror_eq_error⟩
  rw [← e.swap_swap, same, e'.swap_swap]

end Scoring

end Tourney
