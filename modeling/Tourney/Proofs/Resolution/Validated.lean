import Tourney.Proofs.Competition.Structure
import Tourney.Proofs.Resolution.Reads

/-!
# Who plays in a valid competition

In a valid competition whatever a reference needs is below it, so references are followed down to
registered teams and no path leads back to itself. What stops them on the way is the state of the
competition: a match or group that is not complete, a position that the group does not have, or a
drawn match (`Competition.Refuses`).
-/

namespace Tourney

/-! ## What validation says about references -/

namespace Competition

variable {c : Competition} {g : Group} {r next : Reference} {s : TeamSlot} {e : Error}

/-- A path on which every reference is above the next one to be followed. -/
def Above (c : Competition) (path : List Reference) (r : Reference) : Prop :=
  ∀ q ∈ path, r.subject.level c.stages < q.subject.level c.stages

theorem Above.notMem {path : List Reference} (above : c.Above path r) : r ∉ path :=
  fun mem => lt_irrefl _ (above r mem)

theorem Above.append {path : List Reference} (above : c.Above path r)
    (below : next.subject.level c.stages < r.subject.level c.stages) :
    c.Above (path ++ [r]) next := by
  intro q hq
  rcases List.mem_append.mp hq with hq | hq
  · exact below.trans (above q hq)
  · exact List.mem_singleton.mp hq ▸ below

end Competition

end Tourney
