import Tourney.Dependency.Cycle
import Tourney.Stage

/-!
# Where references may stand

A reference may point to a group of an earlier stage, or to an earlier match of its own group; final
positions may point to any match of their own group. Ranks are taken from leagues only. What a
reference points to has to exist. `checkStages` checks every reference against these rules, and
`DependencyGraph.ofStages` records what every match and every group depends on.
-/

namespace Tourney

/-! ## Nodes -/

def groupNode (stage group : Ident) : String :=
  stage.text ++ ":" ++ group.text

def matchNode (stage group fixture : Ident) : String :=
  groupNode stage group ++ ":" ++ fixture.text

/-- The node that a reference depends on: a match for its outcome, else the group. -/
def Reference.node (r : Reference) : String :=
  match r.target.fixture? with
  | some m => matchNode r.stage r.group m
  | none => groupNode r.stage r.group

/-! ## Held slots -/

/-- A slot with the match that holds it and that match's place among the entries of the group; no
match holds the slot of a final position. -/
structure HeldSlot where
  holder : Option (Nat × Ident)
  slot : TeamSlot
deriving DecidableEq

namespace HeldSlot

/-- The place of the holding match among the entries. -/
def index? (h : HeldSlot) : Option Nat :=
  h.holder.map (·.1)

/-- The node that depends on what the slot refers to. -/
def owner (h : HeldSlot) (stage group : Ident) : String :=
  match h.holder with
  | some (_, m) => matchNode stage group m
  | none => groupNode stage group

end HeldSlot

/-- The slots of an entry at a place. -/
def Entry.heldSlots (index : Nat) (e : Entry) : List HeldSlot :=
  match e with
  | .fixture m => m.slots.map fun s => ⟨some (index, m.id), s⟩
  | .pause _ => []

/-- Every slot of a group with its holder, in the order of `Group.slots`. -/
def Group.heldSlots (g : Group) : List HeldSlot :=
  g.entries.zipIdx.flatMap (fun (e, index) => e.heldSlots index)
    ++ g.standing.map fun s => ⟨none, s⟩

/-! ## Placement -/

/-- A place for references: a group of a stage, between the stages before and after it. -/
structure Place where
  earlier : List Stage
  stage : Stage
  later : List Stage
  group : Group

namespace Place

/-- The error for a reference that may not stand at a place. -/
def misplaced (p : Place) (r : Reference) (fault : Misplacement) : Error :=
  .invalid (.misplaced r.text p.group.id.text p.stage.id.text fault)

section Lookup

variable (getMatch : Ident → Except Error Match) (entryIndex? : Ident → Option Nat)

/-- Checks what a reference asks a group of an earlier stage for. -/
def checkTarget (p : Place) (r : Reference) (kind : GroupKind) : Except Error Unit :=
  match r.target with
  | .winner m | .loser m => discard <| getMatch m
  | .rank _ =>
      if kind.type = .league then return () else throw (p.misplaced r .rankOutsideLeague)
  | .position _ => return ()

/-- Whether a match stands before the holder of a slot among the entries of a group. -/
def declaredBefore (m : Ident) (holder : Option Nat) : Bool :=
  match holder, entryIndex? m with
  | some own, some target => target < own
  | _, _ => true

/-- Checks what a reference asks a group of its own stage for. -/
def checkSibling (p : Place) (holder : Option Nat) (r : Reference) (target : Ident) :
    Except Error Unit := do
  if target ≠ p.group.id then throw (p.misplaced r .siblingGroup)
  match r.target with
  | .winner m | .loser m =>
      discard <| getMatch m
      if declaredBefore entryIndex? m holder then return () else throw (p.misplaced r .laterMatch)
  | .rank _ | .position _ => throw (p.misplaced r .ownPositions)

end Lookup

/-- Checks what a reference points to in an earlier stage. -/
def checkEarlier (p : Place) (stage : Stage) (r : Reference) : Except Error Unit := do
  let target ← stage.getGroup r.group
  p.checkTarget target.getMatch r target.kind

/-- Checks what a reference points to in the stage of the place. -/
def checkOwn (p : Place) (holder : Option Nat) (r : Reference) : Except Error Unit := do
  let target ← p.stage.getGroup r.group
  p.checkSibling target.getMatch target.entryIndex? holder r target.id

/-- Checks a reference that is held at the place by the match at an index, or by none. -/
def check (p : Place) (holder : Option Nat) (r : Reference) : Except Error Unit :=
  match p.earlier.find? (·.id == r.stage) with
  | some stage => p.checkEarlier stage r
  | none =>
      if p.stage.id = r.stage then p.checkOwn holder r
      else if p.later.any (·.id == r.stage) then .error (p.misplaced r .laterStage)
      else .error (.unknownStage r.stage.text)

/-- Checks the reference in a held slot, if there is one. -/
def checkSlot (p : Place) (h : HeldSlot) : Except Error Unit :=
  match h.slot with
  | .literal _ => .ok ()
  | .reference r => p.check h.index? r

def checkGroup (p : Place) : Except Error Unit :=
  p.group.heldSlots.forM p.checkSlot

end Place

/-- Checks the stages of a list after those that come earlier. -/
def checkStagesFrom : List Stage → List Stage → Except Error Unit
  | _, [] => .ok ()
  | earlier, stage :: later => do
      stage.groups.forM fun g => Place.checkGroup ⟨earlier, stage, later, g⟩
      checkStagesFrom (earlier ++ [stage]) later

/-- Checks every reference in a list of stages. -/
def checkStages (stages : List Stage) : Except Error Unit :=
  checkStagesFrom [] stages

/-! ## The graph of a list of stages -/

namespace DependencyGraph

/-- Records what a slot depends on. -/
def addSlot (stage group : Ident) (graph : DependencyGraph) (h : HeldSlot) : DependencyGraph :=
  match h.slot with
  | .literal _ => graph
  | .reference r => graph.addEdge (h.owner stage group) r.node

/-- Records that a group depends on its matches, and what its slots depend on. -/
def addGroup (stage : Ident) (graph : DependencyGraph) (g : Group) : DependencyGraph :=
  let node := groupNode stage g.id
  let graph := graph.addNode node
  let graph := g.games.foldl (fun graph m => graph.addEdge node (matchNode stage g.id m.id)) graph
  g.heldSlots.foldl (addSlot stage g.id) graph

/-- Records the dependencies of every group of a stage. -/
def addStage (graph : DependencyGraph) (stage : Stage) : DependencyGraph :=
  stage.groups.foldl (addGroup stage.id) graph

/-- The dependencies in a list of stages. -/
def ofStages (stages : List Stage) : DependencyGraph :=
  stages.foldl addStage empty

/-- The dependencies in a list of stages whose references all stand where they may. -/
def build (stages : List Stage) : Except Error DependencyGraph := do
  checkStages stages
  return ofStages stages

end DependencyGraph

end Tourney
