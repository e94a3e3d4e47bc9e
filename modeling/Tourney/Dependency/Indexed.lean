import Tourney.Competition.Indexed
import Tourney.Dependency.Placement

/-!
# Where references may stand, checked by index

The checks of `Place` as they are made on stages with indexes: a stage is found by its own
identifier, and the groups and matches in it are found by their indexes.
-/

namespace Tourney

/-- A place for references in a list of stages with indexes. -/
structure IndexedPlace where
  earlier : List IndexedStage
  stage : IndexedStage
  later : List IndexedStage
  group : IndexedGroup

namespace IndexedPlace

/-- The place without the indexes. -/
def place (p : IndexedPlace) : Place :=
  ⟨p.earlier.map (·.stage), p.stage.stage, p.later.map (·.stage), p.group.toGroup⟩

/-- Checks what a reference points to in an earlier stage. -/
def checkEarlier (p : IndexedPlace) (stage : IndexedStage) (r : Reference) : Except Error Unit := do
  let target ← stage.getGroup r.group
  p.place.checkTarget target.getMatch r target.kind

/-- Checks what a reference points to in the stage of the place. -/
def checkOwn (p : IndexedPlace) (holder : Option Nat) (r : Reference) : Except Error Unit := do
  let target ← p.stage.getGroup r.group
  p.place.checkSibling target.getMatch target.entryIndex? holder r target.id

/-- Checks a reference that is held at the place by the match at an index, or by none. -/
def check (p : IndexedPlace) (holder : Option Nat) (r : Reference) : Except Error Unit :=
  match p.earlier.find? (·.id == r.stage) with
  | some stage => p.checkEarlier stage r
  | none =>
      if p.stage.id = r.stage then p.checkOwn holder r
      else if p.later.any (·.id == r.stage) then .error (p.place.misplaced r .laterStage)
      else .error (.unknownStage r.stage.text)

/-- Checks the reference in a held slot, if there is one. -/
def checkSlot (p : IndexedPlace) (h : HeldSlot) : Except Error Unit :=
  match h.slot with
  | .literal _ => .ok ()
  | .reference r => p.check h.index? r

def checkGroup (p : IndexedPlace) : Except Error Unit :=
  p.group.heldSlots.forM p.checkSlot

/-- Checks the stages of a list after those that come earlier. -/
def checkStagesFrom : List IndexedStage → List IndexedStage → Except Error Unit
  | _, [] => .ok ()
  | earlier, stage :: later => do
      stage.groups.forM fun g => checkGroup ⟨earlier, stage, later, g⟩
      checkStagesFrom (earlier ++ [stage]) later

end IndexedPlace

/-- The dependencies in a list of stages whose references all stand where they may. -/
def DependencyGraph.buildIndexed (stages : List IndexedStage) : Except Error DependencyGraph := do
  IndexedPlace.checkStagesFrom [] stages
  return ofStages (stages.map (·.stage))

end Tourney
