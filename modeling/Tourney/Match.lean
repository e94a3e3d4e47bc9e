import Tourney.Calendar.Schedule
import Tourney.Scoring.Evaluation
import Tourney.Staff.Manager
import Tourney.Staff.Officials

/-!
# Matches

A match has two team slots and the scores recorded so far. It is complete from the recording of a
complete score until the score is cleared or a partial one is recorded; before and after it is
pending. Recording checks the scores first, so a refused score leaves the match as it was.
-/

namespace Tourney

/-- How far a match has got. -/
inductive MatchState
  | pending
  | complete (e : Evaluation)
deriving DecidableEq

/-- A match between two team slots. -/
structure Match where
  id : Ident
  home : TeamSlot
  away : TeamSlot
  scores : List SetScore
  state : MatchState
  /-- A friendly counts for the completion of its group and not for the league table. -/
  friendly : Bool
  court : Option String
  venue : Option String
  schedule : Schedule
  manager : Option Manager
  officials : Option Officials
  mvp : Option String
  notes : Option String
deriving DecidableEq

namespace Match

/-- A pending match with nothing recorded. -/
def new (id : Ident) (home away : TeamSlot) : Match where
  id := id
  home := home
  away := away
  scores := []
  state := .pending
  friendly := false
  court := none
  venue := none
  schedule := .empty
  manager := none
  officials := none
  mvp := none
  notes := none

def slot (m : Match) : Side → TeamSlot
  | .home => m.home
  | .away => m.away

/-- The evaluation of a complete match. -/
def evaluation? (m : Match) : Option Evaluation :=
  match m.state with
  | .pending => none
  | .complete e => some e

/-- Whether a complete score is recorded. -/
def isComplete (m : Match) : Bool :=
  m.evaluation?.isSome

/-- The evaluation of a match that has to be complete. -/
def evaluation (m : Match) : Except Error Evaluation :=
  match m.evaluation? with
  | some e => .ok e
  | none => .error (.incomplete m.id.text)

/-- The outcome of a match that has to be complete. -/
def outcome (m : Match) : Except Error Outcome :=
  m.evaluation.map (·.outcome)

/-- A side that the outcome has to single out. -/
def decidedSide (m : Match) (side? : Outcome → Option Side) : Except Error Side := do
  match side? (← m.outcome) with
  | some side => return side
  | none => throw (.invalid (.drawn m.id.text))

/-- The winning side of a match that has to be complete and not drawn. -/
def winnerSide (m : Match) : Except Error Side :=
  m.decidedSide Outcome.winner?

/-- The losing side of a match that has to be complete and not drawn. -/
def loserSide (m : Match) : Except Error Side :=
  m.decidedSide Outcome.loser?

/-- Names the match in a score fault. -/
def scored {α : Type} (m : Match) (result : Except ScoreFault α) : Except Error α :=
  result.mapError (.score m.id.text)

/-- Records a complete score under the given rules. -/
def record (m : Match) (scoring : Scoring) (scores : List SetScore) : Except Error Match := do
  let e ← m.scored (scoring.evaluate scores)
  return { m with scores := scores, state := .complete e }

/-- Records the score of a match still in progress under the given rules. -/
def recordPartial (m : Match) (scoring : Scoring) (scores : List SetScore) :
    Except Error Match := do
  m.scored (scoring.checkPartial scores)
  return { m with scores := scores, state := .pending }

def clear (m : Match) : Match :=
  { m with scores := [], state := .pending }

/-- Every slot that a match mentions: both sides, then the managing and the officiating team. -/
def slots (m : Match) : List TeamSlot :=
  [m.home, m.away] ++ (m.manager.bind (·.team?)).toList ++ (m.officials.bind (·.team?)).toList

end Match

end Tourney
