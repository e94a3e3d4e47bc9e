import Tourney.Scoring.Outcome
import Tourney.Scoring.Rules

/-!
# Evaluating scores

`Scoring.evaluate` turns the scores of a complete match into its evaluation, or names the first
rule that they break. `Scoring.checkPartial` checks the scores of a match in progress, for which
only the limits hold. Both depend on nothing but the rules and the scores.
-/

namespace Tourney

namespace Threshold

/-- Whether a side has the target with the lead. -/
def cleared (t : Threshold) (lead : Nat) (high low : Int) : Prop :=
  t.target ≤ high ∧ lead ≤ high - low

/-- Whether a side has won the set, by reaching the cap or by the target with the lead. -/
def wins (t : Threshold) (lead : Nat) (high low : Int) : Prop :=
  high = t.cap ∨ t.cleared lead high low

instance (t : Threshold) (lead : Nat) (high low : Int) : Decidable (t.cleared lead high low) :=
  inferInstanceAs (Decidable (_ ∧ _))

instance (t : Threshold) (lead : Nat) (high low : Int) : Decidable (t.wins lead high low) :=
  inferInstanceAs (Decidable (_ ∨ _))

end Threshold

namespace SetScore

/-- Accepts points that are not negative and not above the cap. -/
def checkRange (set : Nat) (s : SetScore) (cap : Nat) : Except ScoreFault Unit :=
  if s.home < 0 ∨ s.away < 0 then .error (.negative set)
  else if (cap : Int) < s.home ∨ (cap : Int) < s.away then .error (.aboveCap set s.home s.away cap)
  else .ok ()

/-- The side with more points; the away side if they are level. -/
def leader (s : SetScore) : Side :=
  if s.away < s.home then .home else .away

/-- The points of the side with more. -/
def high (s : SetScore) : Int :=
  s.points s.leader

/-- The points of the side with fewer. -/
def low (s : SetScore) : Int :=
  s.points s.leader.opposite

end SetScore

namespace SetRules

/-- The winner of one finished set. The set must have been undecided one point before its end. -/
def setWinner (rules : SetRules) (set : Nat) (s : SetScore) : Except ScoreFault Side := do
  let t := rules.threshold set
  s.checkRange set t.cap
  if s.home = s.away then throw (.level set s.home s.away)
  if s.high < rules.minPoints then throw (.lowSet set s.high rules.minPoints)
  if ¬ t.wins rules.clearPoints s.high s.low then throw (.unfinishedSet set s.home s.away)
  if t.cleared rules.clearPoints (s.high - 1) s.low then throw (.overrun set s.home s.away)
  return s.leader

/-- Whether a side has the sets that win the match. -/
def decided (rules : SetRules) (count : SetCount) : Prop :=
  rules.setsToWin ≤ count.home ∨ rules.setsToWin ≤ count.away

instance (rules : SetRules) (count : SetCount) : Decidable (rules.decided count) :=
  inferInstanceAs (Decidable (_ ∨ _))

/-- Adds the winners of finished sets to a count, the first of them being number `set`. No set may
follow once the match is decided. -/
def countSets (rules : SetRules) : Nat → SetCount → List SetScore → Except ScoreFault SetCount
  | _, count, [] => .ok count
  | set, count, s :: rest => do
      if rules.decided count then throw (.setAfterWin set)
      let side ← rules.setWinner set s
      rules.countSets (set + 1) (count.add side) rest

/-- The outcome of a match after the given number of sets. Level counts are a draw only after the
last possible set. -/
def outcome (rules : SetRules) (played : Nat) (count : SetCount) : Except ScoreFault Outcome :=
  if rules.setsToWin ≤ count.home then .ok (.wonBy .home)
  else if rules.setsToWin ≤ count.away then .ok (.wonBy .away)
  else if count.home = count.away ∧ played = rules.maxSets then .ok .draw
  else .error (.unfinishedMatch count.home count.away)

/-- Evaluates a complete match that was played in sets. -/
def evaluateSets (rules : SetRules) (scores : List SetScore) : Except ScoreFault Evaluation := do
  if rules.maxSets < scores.length then throw (.tooManySets scores.length rules.maxSets)
  let count ← rules.countSets 1 .zero scores
  let outcome ← rules.outcome scores.length count
  return ⟨outcome, count⟩

/-- Evaluates a complete match with one running score. -/
def evaluateContinuous (rules : SetRules) : List SetScore → Except ScoreFault Evaluation
  | [s] => do
      s.checkRange 1 rules.maxPoints
      if s.home = s.away then return ⟨.draw, .zero⟩
      if s.high < rules.minPoints then throw (.lowWin s.high rules.minPoints)
      return ⟨.wonBy s.leader, SetCount.zero.add s.leader⟩
  | _ => .error .notOneScore

end SetRules

namespace Scoring

/-- Evaluates the scores of a complete match. -/
def evaluate (scoring : Scoring) (scores : List SetScore) : Except ScoreFault Evaluation := do
  if scores = [] then throw .noScores
  let e ← match scoring.form with
    | .continuous => scoring.rules.evaluateContinuous scores
    | .sets => scoring.rules.evaluateSets scores
  if e.outcome = .draw ∧ scoring.drawsAllowed = false then throw .drawRefused
  return e

/-- The most scores that a match in progress has. -/
def maxScores (scoring : Scoring) : Nat :=
  match scoring.form with
  | .continuous => 1
  | .sets => scoring.rules.maxSets

/-- Accepts scores in the range of their sets, the first of them being number `set`. -/
def checkRanges (rules : SetRules) : Nat → List SetScore → Except ScoreFault Unit
  | _, [] => .ok ()
  | set, s :: rest => do
      s.checkRange set (rules.threshold set).cap
      checkRanges rules (set + 1) rest

/-- Checks the scores of a match in progress: their number, and the points of each set. -/
def checkPartial (scoring : Scoring) (scores : List SetScore) : Except ScoreFault Unit := do
  if scoring.maxScores < scores.length then
    throw (.tooManyScores scores.length scoring.maxScores)
  checkRanges scoring.rules 1 scores

end Scoring

end Tourney
