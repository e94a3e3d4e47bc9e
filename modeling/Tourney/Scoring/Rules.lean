import Tourney.Error

/-!
# Scoring rules

How the matches of a group are scored: the limits of the sets (`SetRules`), whether a match is
played in sets or has one running score (`MatchForm`), and whether it may end level (`Scoring`).
A set has a target and a cap (`Threshold`); the last possible set of a match has its own pair.
The limits are unsigned 32-bit numbers; nothing here depends on that.
-/

namespace Tourney

/-- The limits of a match that is played in sets. -/
structure SetRules where
  /-- The most sets that are played. -/
  maxSets : Nat
  /-- The sets that win the match. -/
  setsToWin : Nat
  /-- The lead that wins a set below its cap. -/
  clearPoints : Nat
  /-- The least winning score. -/
  minPoints : Nat
  pointsToWin : Nat
  lastSetPointsToWin : Nat
  maxPoints : Nat
  lastSetMaxPoints : Nat
deriving DecidableEq

/-- The points at which a set can be won with a lead, and those at which it is won outright. -/
structure Threshold where
  target : Nat
  cap : Nat
deriving DecidableEq

namespace SetRules

/-- Best of five, sets to 25, the last to 15, a lead of two. -/
def standard : SetRules where
  maxSets := 5
  setsToWin := 3
  clearPoints := 2
  minPoints := 1
  pointsToWin := 25
  lastSetPointsToWin := 15
  maxPoints := 1000
  lastSetMaxPoints := 1000

/-- The first rule for a match that can be finished which the limits break, if they break one. -/
def fault? (rules : SetRules) : Option RulesFault :=
  if rules.maxSets = 0 then some .noSets
  else if rules.setsToWin = 0 ∨ rules.maxSets < rules.setsToWin then some .setsToWin
  else if rules.clearPoints = 0 then some .clearPoints
  else if rules.maxPoints < rules.pointsToWin then some .pointsToWin
  else if rules.lastSetMaxPoints < rules.lastSetPointsToWin then some .lastSetPointsToWin
  else none

/-- Accepts the limits that break no rule. -/
def validate (rules : SetRules) : Except Error Unit :=
  match rules.fault? with
  | some fault => .error (.invalid (.setRules fault))
  | none => .ok ()

/-- Target and cap of a set; sets are numbered from one. -/
def threshold (rules : SetRules) (set : Nat) : Threshold :=
  if set = rules.maxSets then ⟨rules.lastSetPointsToWin, rules.lastSetMaxPoints⟩
  else ⟨rules.pointsToWin, rules.maxPoints⟩

end SetRules

/-- How a match is scored. -/
inductive MatchForm
  /-- In a sequence of sets. -/
  | sets
  /-- With one running score. -/
  | continuous
deriving DecidableEq

/-- Everything that the scores of a group are checked against. -/
structure Scoring where
  rules : SetRules
  form : MatchForm
  drawsAllowed : Bool
deriving DecidableEq

end Tourney
