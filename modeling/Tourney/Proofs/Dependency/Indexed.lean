import Tourney.Dependency.Indexed
import Tourney.Proofs.Competition.Indexed

/-!
# Placement by index

Where the indexes of all stages are right, references are checked as without indexes
(`DependencyGraph.buildIndexed_eq`).
-/

namespace Tourney

namespace IndexedPlace

variable {p : IndexedPlace} {s : IndexedStage} {holder : Option Nat}

theorem checkEarlier_eq (indexed : s.Indexed) (r : Reference) :
    p.checkEarlier s r = p.place.checkEarlier s.stage r := by
  rw [checkEarlier, Place.checkEarlier, ← indexed.map_getGroup]
  cases found : s.getGroup r.group with
  | error e => rfl
  | ok g =>
      have lookup : g.getMatch = g.toGroup.getMatch :=
        funext (indexed.of_getGroup found).1.getMatch
      exact congrArg (p.place.checkTarget · r g.kind) lookup

theorem checkOwn_eq (indexed : p.stage.Indexed) (holder : Option Nat) (r : Reference) :
    p.checkOwn holder r = p.place.checkOwn holder r := by
  have own : p.place.stage = p.stage.stage := rfl
  rw [checkOwn, Place.checkOwn, own, ← indexed.map_getGroup]
  cases found : p.stage.getGroup r.group with
  | error e => rfl
  | ok g =>
      have target := (indexed.of_getGroup found).1
      have lookup : g.getMatch = g.toGroup.getMatch := funext target.getMatch
      have places : g.entryIndex? = g.toGroup.entryIndex? := funext target.places
      change p.place.checkSibling g.getMatch g.entryIndex? holder r g.id = _
      rw [lookup, places]
      rfl

theorem check_eq (earlier : ∀ s ∈ p.earlier, s.Indexed) (own : p.stage.Indexed)
    (holder : Option Nat) (r : Reference) : p.check holder r = p.place.check holder r := by
  have before : p.place.earlier.find? (·.id == r.stage) =
      (p.earlier.find? (·.id == r.stage)).map (·.stage) := List.find?_map ..
  have after : p.place.later.any (·.id == r.stage) = p.later.any (·.id == r.stage) :=
    List.any_map ..
  rw [check, Place.check, before, after, checkOwn_eq own]
  cases found : p.earlier.find? (·.id == r.stage) with
  | none => rfl
  | some s => exact checkEarlier_eq (earlier s (List.mem_of_find?_eq_some found)) r

theorem checkGroup_eq (earlier : ∀ s ∈ p.earlier, s.Indexed) (own : p.stage.Indexed) :
    p.checkGroup = p.place.checkGroup := by
  have slots : p.checkSlot = p.place.checkSlot := by
    funext h
    rw [checkSlot, Place.checkSlot]
    cases h.slot with
    | literal id => rfl
    | reference r => exact check_eq earlier own h.index? r
  rw [checkGroup, slots]
  rfl

theorem checkStagesFrom_eq {earlier stages : List IndexedStage} (before : ∀ s ∈ earlier, s.Indexed)
    (all : ∀ s ∈ stages, s.Indexed) :
    checkStagesFrom earlier stages =
      Tourney.checkStagesFrom (earlier.map (·.stage)) (stages.map (·.stage)) := by
  induction stages generalizing earlier with
  | nil => rfl
  | cons s later ih =>
      obtain ⟨own, all⟩ := List.forall_mem_cons.mp all
      have groups : (s.groups.forM fun g => checkGroup ⟨earlier, s, later, g⟩) =
          s.stage.groups.forM fun g => Place.checkGroup
            ⟨earlier.map (·.stage), s.stage, later.map (·.stage), g⟩ := by
        refine Eq.trans ?_ (List.forM_map ..).symm
        exact congrArg _ (funext fun g => checkGroup_eq before own)
      have rest := ih (List.forall_mem_append.mpr ⟨before, List.forall_mem_singleton.mpr own⟩) all
      rw [checkStagesFrom, List.map_cons, Tourney.checkStagesFrom, groups, rest, List.map_append]
      rfl

end IndexedPlace

theorem DependencyGraph.buildIndexed_eq {stages : List IndexedStage}
    (all : ∀ s ∈ stages, s.Indexed) : buildIndexed stages = build (stages.map (·.stage)) := by
  rw [buildIndexed, IndexedPlace.checkStagesFrom_eq (List.forall_mem_nil _) all]
  rfl

end Tourney
