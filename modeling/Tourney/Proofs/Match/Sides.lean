import Tourney.Match
import Tourney.Proofs.Traversal

/-!
# The sides of a decided match

A complete match has a winning and a losing side unless it was drawn, and these are opposite sides.
-/

namespace Tourney

namespace Match

variable {m : Match} {side : Side} {e : Evaluation}

theorem evaluation?_eq_some : m.evaluation? = some e ↔ m.state = .complete e := by
  unfold evaluation?
  cases m.state <;> simp

theorem outcome_eq_ok {o : Outcome} :
    m.outcome = .ok o ↔ ∃ e, m.state = .complete e ∧ e.outcome = o := by
  unfold outcome evaluation
  simp only [← evaluation?_eq_some]
  cases m.evaluation? <;> simp [Except.map]

theorem decidedSide_eq_ok {side? : Outcome → Option Side} :
    m.decidedSide side? = .ok side ↔ ∃ e, m.evaluation? = some e ∧ side? e.outcome = some side := by
  unfold decidedSide outcome evaluation
  cases m.evaluation? with
  | none => simp [Except.map, bind, Except.bind]
  | some e =>
      cases found : side? e.outcome <;>
        simp [found, Except.map, bind, Except.bind, pure, Except.pure, throw, throwThe,
          MonadExceptOf.throw]

theorem winnerSide_eq_ok :
    m.winnerSide = .ok side ↔ ∃ e, m.state = .complete e ∧ e.outcome = .wonBy side := by
  unfold winnerSide
  simp only [decidedSide_eq_ok, evaluation?_eq_some]
  refine exists_congr fun e => and_congr_right fun _ => ?_
  cases e.outcome <;> simp [Outcome.winner?]

theorem loserSide_eq_ok :
    m.loserSide = .ok side ↔ ∃ e, m.state = .complete e ∧ e.outcome = .wonBy side.opposite := by
  unfold loserSide
  simp only [decidedSide_eq_ok, evaluation?_eq_some]
  refine exists_congr fun e => and_congr_right fun _ => ?_
  cases e.outcome with
  | draw => simp [Outcome.loser?]
  | wonBy winner => cases winner <;> cases side <;> simp [Outcome.loser?, Side.opposite]

theorem eq_opposite_of_sides {loser : Side} (won : m.winnerSide = .ok side)
    (lost : m.loserSide = .ok loser) : loser = side.opposite := by
  obtain ⟨e, he, winner⟩ := winnerSide_eq_ok.mp won
  obtain ⟨e', he', loses⟩ := loserSide_eq_ok.mp lost
  obtain rfl := MatchState.complete.inj (he.symm.trans he')
  obtain rfl := Outcome.wonBy.inj (winner.symm.trans loses)
  cases loser <;> rfl

theorem exists_winnerSide :
    (∃ side, m.winnerSide = .ok side) ↔ ∃ e, m.state = .complete e ∧ e.outcome ≠ .draw := by
  simp only [winnerSide_eq_ok]
  constructor
  · rintro ⟨side, e, complete, won⟩
    exact ⟨e, complete, by simp [won]⟩
  · rintro ⟨e, complete, decided⟩
    cases won : e.outcome with
    | draw => exact absurd won decided
    | wonBy side => exact ⟨side, e, complete, won⟩

theorem exists_loserSide :
    (∃ side, m.loserSide = .ok side) ↔ ∃ e, m.state = .complete e ∧ e.outcome ≠ .draw := by
  rw [← exists_winnerSide]
  simp only [winnerSide_eq_ok, loserSide_eq_ok]
  constructor
  · rintro ⟨side, lost⟩
    exact ⟨side.opposite, lost⟩
  · rintro ⟨side, e, complete, won⟩
    refine ⟨side.opposite, e, complete, won.trans ?_⟩
    cases side <;> rfl

end Match

end Tourney
