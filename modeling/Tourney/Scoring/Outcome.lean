/-!
# Sides, scores and outcomes

A set score is a pair of points. A complete match is won by a side or drawn; its evaluation also
counts the sets of each side.
-/

namespace Tourney

inductive Side
  | home
  | away
deriving DecidableEq

def Side.opposite : Side → Side
  | .home => .away
  | .away => .home

@[simp] theorem Side.opposite_opposite (side : Side) : side.opposite.opposite = side := by
  cases side <;> rfl

theorem Side.opposite_eq_comm {side side' : Side} :
    side.opposite = side' ↔ side = side'.opposite := by
  cases side <;> cases side' <;> simp [opposite]

/-- The points of both sides in one set. -/
structure SetScore where
  home : Int
  away : Int
deriving DecidableEq

namespace SetScore

def points (s : SetScore) : Side → Int
  | .home => s.home
  | .away => s.away

def swap (s : SetScore) : SetScore :=
  ⟨s.away, s.home⟩

end SetScore

/-- How a complete match ended. -/
inductive Outcome
  | wonBy (side : Side)
  | draw
deriving DecidableEq

namespace Outcome

def winner? : Outcome → Option Side
  | .wonBy side => some side
  | .draw => none

def loser? : Outcome → Option Side
  | .wonBy side => some side.opposite
  | .draw => none

def swap : Outcome → Outcome
  | .wonBy side => .wonBy side.opposite
  | .draw => .draw

end Outcome

/-- The sets that each side has won. -/
structure SetCount where
  home : Nat
  away : Nat
deriving DecidableEq

namespace SetCount

def zero : SetCount := ⟨0, 0⟩

def of (count : SetCount) : Side → Nat
  | .home => count.home
  | .away => count.away

/-- The count after a side has won one more set. -/
def add (count : SetCount) : Side → SetCount
  | .home => ⟨count.home + 1, count.away⟩
  | .away => ⟨count.home, count.away + 1⟩

end SetCount

/-- A complete score: who won, and the sets of each side. A continuous match counts as one set,
which nobody wins in a draw. -/
structure Evaluation where
  outcome : Outcome
  sets : SetCount
deriving DecidableEq

def Evaluation.swap (e : Evaluation) : Evaluation :=
  ⟨e.outcome.swap, ⟨e.sets.away, e.sets.home⟩⟩

end Tourney
