import Tourney.Ident

/-!
# Team slots

A team slot says who plays: a team by its identifier, or whoever a part of the competition decides
on. Such a reference names a stage, a group in it, and a target there: the winner or loser of a
match, a rank of the league table or a position of the group. `TeamSlot.text` is the written form.
-/

namespace Tourney

/-- What a reference asks of a group. -/
inductive Target
  | winner (fixture : Ident)
  | loser (fixture : Ident)
  | rank (n : Nat)
  | position (n : Nat)
deriving DecidableEq

namespace Target

/-- The match whose outcome is asked for. -/
def fixture? : Target → Option Ident
  | .winner m | .loser m => some m
  | .rank _ | .position _ => none

/-- The written fields of a target. -/
def fields : Target → List String
  | .winner m => [m.text, "winner"]
  | .loser m => [m.text, "loser"]
  | .rank n => ["league", toString n]
  | .position n => [toString n]

end Target

/-- A reference to a part of the competition that decides on a team. -/
structure Reference where
  stage : Ident
  group : Ident
  target : Target
deriving DecidableEq

namespace Reference

/-- The written fields of a reference. -/
def fields (r : Reference) : List String :=
  r.stage.text :: r.group.text :: r.target.fields

/-- The written form of a reference: its fields between braces, separated by colons. -/
def text (r : Reference) : String :=
  "\x7b" ++ ":".intercalate r.fields ++ "\x7d"

end Reference

/-- Who plays: a team, or whoever a reference decides on. -/
inductive TeamSlot
  | literal (team : Ident)
  | reference (r : Reference)
deriving DecidableEq

namespace TeamSlot

/-- The written form of a slot. -/
def text : TeamSlot → String
  | .literal team => team.text
  | .reference r => r.text

/-- The reference in a slot. -/
def reference? : TeamSlot → Option Reference
  | .literal _ => none
  | .reference r => some r

/-- Whether a slot names a team. -/
def isLiteral : TeamSlot → Bool
  | .literal _ => true
  | .reference _ => false

end TeamSlot

end Tourney
