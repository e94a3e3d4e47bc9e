import Tourney.Match

/-!
# Calls on a match

A match is changed in place, by one call after another. A call that records scores checks them
before it changes anything, and then changes the scores and the state one after the other.
-/

namespace Tourney

/-- A computation that changes a match in place. -/
abbrev InPlace := ExceptT Error (StateM Match)

/-- What is asked of a match. -/
inductive MatchCall
  /-- To record a complete score, under rules of the call. -/
  | record (scoring : Scoring) (scores : List SetScore)
  /-- To record the score of a match in progress, under rules of the call. -/
  | recordPartial (scoring : Scoring) (scores : List SetScore)
  | clear
  | setFriendly (friendly : Bool)
  | setManager (manager : Option Manager)
  | setOfficials (officials : Option Officials)
deriving DecidableEq

namespace MatchCall

def act : MatchCall → InPlace Unit
  | record scoring scores => do
      let m ← get
      let e ← MonadExcept.ofExcept (m.scored (scoring.evaluate scores))
      modify ({ · with scores := scores })
      modify ({ · with state := .complete e })
  | recordPartial scoring scores => do
      let m ← get
      MonadExcept.ofExcept (m.scored (scoring.checkPartial scores))
      modify ({ · with scores := scores })
      modify ({ · with state := .pending })
  | clear => do
      modify ({ · with scores := [] })
      modify ({ · with state := .pending })
  | setFriendly friendly => modify ({ · with friendly := friendly })
  | setManager manager => modify ({ · with manager := manager })
  | setOfficials officials => modify ({ · with officials := officials })

/-- Makes a call. Returns whether it succeeded, and the match as it is then. -/
def perform (call : MatchCall) (m : Match) : Except Error Unit × Match :=
  (ExceptT.run call.act).run m

/-- The match after calls one after another, successful or failing. -/
def run (calls : List MatchCall) (m : Match) : Match :=
  calls.foldl (fun m call => (call.perform m).2) m

end MatchCall

end Tourney
