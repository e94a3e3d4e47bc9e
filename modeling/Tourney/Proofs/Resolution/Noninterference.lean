import Mathlib.Logic.Relation
import Tourney.Proofs.Competition.Validity
import Tourney.Proofs.Resolution.Indexed
import Tourney.Proofs.Resolution.Reads

/-!
# Where a reference leads depends on its dependencies only

The dependency graph has an edge for everything that is read on the way from a reference to a team.
So competitions that differ only in the records of matches on which the reference does not depend
give the same answer to it, a team or an error.
-/

namespace Tourney

/-! ## Reaching -/

namespace DependencyGraph

end DependencyGraph

namespace Competition

variable {c c' : Competition} {g g' : Group} {r next : Reference} {node : String}

end Competition

/-! ## The graph does not depend on records -/

theorem foldl_eq_of_forall₂ {α β : Type} {R : α → α → Prop} {f f' : β → α → β} {xs ys : List α}
    (h : List.Forall₂ R xs ys) (step : ∀ b x y, R x y → f b x = f' b y) (b : β) :
    xs.foldl f b = ys.foldl f' b := by
  induction h generalizing b with
  | nil => rfl
  | cons hxy _ ih => rw [List.foldl_cons, List.foldl_cons, step b _ _ hxy, ih]

theorem flatMap_zipIdx_of_forall₂ {α β : Type} {R : α → α → Prop} {f : α × Nat → List β}
    {xs ys : List α} (h : List.Forall₂ R xs ys) (same : ∀ x y k, R x y → f (x, k) = f (y, k))
    (k : Nat) : (xs.zipIdx k).flatMap f = (ys.zipIdx k).flatMap f := by
  induction h generalizing k with
  | nil => rfl
  | cons hxy _ ih =>
      rw [List.zipIdx_cons, List.zipIdx_cons, List.flatMap_cons, List.flatMap_cons, ih,
        same _ _ k hxy]

theorem Group.Alike.heldSlots {R : Match → Match → Prop} {g g' : Group} (h : g.Alike R g') :
    g.heldSlots = g'.heldSlots := by
  rw [Group.heldSlots, Group.heldSlots, h.standing]
  congr 1
  refine flatMap_zipIdx_of_forall₂ h.entries (fun e e' k he => ?_) 0
  cases he with
  | fixture clear =>
      simp only [Entry.heldSlots, Match.slots_eq_of_clear clear, Match.id_eq_of_clear clear]
  | pause b => rfl

theorem Competition.Alike.ofStages {R : Ident → Ident → Match → Match → Prop}
    {c c' : Competition} (h : c.Alike R c') :
    DependencyGraph.ofStages c.stages = DependencyGraph.ofStages c'.stages := by
  refine foldl_eq_of_forall₂ h.stages (fun graph s s' stages => ?_) _
  refine foldl_eq_of_forall₂ stages.groups (fun graph g g' groups => ?_) _
  have games (graph : DependencyGraph) (node : String) :
      g.games.foldl (fun graph m => graph.addEdge node (matchNode s.id g.id m.id)) graph =
        g'.games.foldl (fun graph m => graph.addEdge node (matchNode s.id g.id m.id)) graph :=
    foldl_eq_of_forall₂ groups.games
      (fun graph m m' hm => by rw [Match.id_eq_of_clear hm.1]) graph
  simp only [DependencyGraph.addGroup, groups.heldSlots, games, ← stages.id, ← groups.id]

/-! ## Noninterference -/

namespace Competition

variable {c c' : Competition}

end Competition

namespace SmallCup

end SmallCup

end Tourney
