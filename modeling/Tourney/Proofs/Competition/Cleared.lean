import Tourney.Proofs.Competition.Alike
import Tourney.Proofs.Competition.Structure

/-!
# Competitions with nothing recorded

To clear a competition is to drop the scores and states of all its matches. What is looked up in a
cleared competition is the cleared form of what is found without clearing, and the checks of the
structure do not see the difference: a competition is valid if and only if it is so when cleared,
and a stage can be appended to it in the same cases and with the same errors
(`Competition.addStage_cleared`).
-/

namespace Tourney

/-! ## Clearing -/

def Entry.cleared : Entry → Entry
  | .fixture m => .fixture m.clear
  | .pause b => .pause b

def Group.cleared (g : Group) : Group :=
  { g with entries := g.entries.map Entry.cleared }

def Stage.cleared (s : Stage) : Stage :=
  { s with groups := s.groups.map Group.cleared }

def Competition.cleared (c : Competition) : Competition :=
  { c with stages := c.stages.map Stage.cleared }

@[simp] theorem Match.clear_clear (m : Match) : m.clear.clear = m.clear := rfl

@[simp] theorem Match.id_clear (m : Match) : m.clear.id = m.id := rfl

@[simp] theorem Match.slots_clear (m : Match) : m.clear.slots = m.slots := rfl

@[simp] theorem Entry.cleared_cleared (e : Entry) : e.cleared.cleared = e.cleared := by
  cases e <;> rfl

@[simp] theorem Entry.match?_cleared (e : Entry) : e.cleared.match? = e.match?.map Match.clear := by
  cases e <;> rfl

@[simp] theorem Entry.id?_cleared (e : Entry) : e.cleared.id? = e.id? := by
  cases e <;> rfl

@[simp] theorem Entry.heldSlots_cleared (index : Nat) (e : Entry) :
    e.cleared.heldSlots index = e.heldSlots index := by
  cases e <;> rfl

/-! ## Cleared groups -/

namespace Group

@[simp] theorem id_cleared (g : Group) : g.cleared.id = g.id := rfl

@[simp] theorem scoring_cleared (g : Group) : g.cleared.scoring = g.scoring := rfl

@[simp] theorem standing_cleared (g : Group) : g.cleared.standing = g.standing := rfl

@[simp] theorem cleared_cleared (g : Group) : g.cleared.cleared = g.cleared := by
  simp [cleared, Function.comp_def]

@[simp] theorem games_cleared (g : Group) : g.cleared.games = g.games.map Match.clear := by
  simp [games, cleared, List.filterMap_map, List.map_filterMap]

@[simp] theorem slots_cleared (g : Group) : g.cleared.slots = g.slots := by
  simp [slots, List.flatMap_map]

@[simp] theorem findMatch?_cleared (g : Group) (id : Ident) :
    g.cleared.findMatch? id = (g.findMatch? id).map Match.clear := by
  simp [findMatch?, List.find?_map, Function.comp_def]

@[simp] theorem getMatch_cleared (g : Group) (id : Ident) :
    g.cleared.getMatch id = (g.getMatch id).map Match.clear := by
  unfold getMatch
  rw [findMatch?_cleared]
  cases g.findMatch? id <;> rfl

@[simp] theorem hasMatch_cleared (g : Group) (id : Ident) :
    g.cleared.hasMatch id = g.hasMatch id := by
  simp [hasMatch]

theorem addMatch_cleared (g : Group) (m : Match) :
    g.cleared.addMatch m.clear = (g.addMatch m).map cleared := by
  unfold addMatch
  rw [hasMatch_cleared, Match.id_clear]
  split
  · rfl
  · simp [Except.map, cleared, Entry.cleared]

theorem addBreak_cleared (g : Group) (b : Break) :
    g.cleared.addBreak b = (g.addBreak b).cleared := by
  simp [addBreak, cleared, Entry.cleared]

@[simp] theorem entryIndex?_cleared (g : Group) (id : Ident) :
    g.cleared.entryIndex? id = g.entryIndex? id := by
  simp [entryIndex?, cleared, List.findIdx?_map, Function.comp_def, Option.any_map]

@[simp] theorem heldSlots_cleared (g : Group) : g.cleared.heldSlots = g.heldSlots := by
  unfold heldSlots
  rw [standing_cleared, cleared, List.zipIdx_map, List.flatMap_map]
  simp

end Group

/-! ## Cleared stages and competitions -/

namespace Stage

@[simp] theorem id_cleared (s : Stage) : s.cleared.id = s.id := rfl

@[simp] theorem cleared_cleared (s : Stage) : s.cleared.cleared = s.cleared := by
  simp [cleared, Function.comp_def]

@[simp] theorem slots_cleared (s : Stage) : s.cleared.slots = s.slots := by
  simp [slots, cleared, List.flatMap_map]

@[simp] theorem findGroup?_cleared (s : Stage) (id : Ident) :
    s.cleared.findGroup? id = (s.findGroup? id).map Group.cleared := by
  simp [findGroup?, cleared, List.find?_map, Function.comp_def]

@[simp] theorem getGroup_cleared (s : Stage) (id : Ident) :
    s.cleared.getGroup id = (s.getGroup id).map Group.cleared := by
  unfold getGroup
  rw [findGroup?_cleared]
  cases s.findGroup? id <;> rfl

theorem addGroup_cleared (s : Stage) (g : Group) :
    s.cleared.addGroup g.cleared = (s.addGroup g).map cleared := by
  have known : s.cleared.hasGroup g.id = s.hasGroup g.id := by simp [hasGroup]
  unfold addGroup
  rw [Group.id_cleared, known]
  split
  · rfl
  · simp [Except.map, cleared]

end Stage

namespace Competition

@[simp] theorem stages_cleared (c : Competition) : c.cleared.stages = c.stages.map Stage.cleared :=
  rfl

@[simp] theorem cleared_cleared (c : Competition) : c.cleared.cleared = c.cleared := by
  simp [cleared, Function.comp_def]

@[simp] theorem findStage?_cleared (c : Competition) (id : Ident) :
    c.cleared.findStage? id = (c.findStage? id).map Stage.cleared := by
  simp [findStage?, cleared, List.find?_map, Function.comp_def]

@[simp] theorem hasStage_cleared (c : Competition) (id : Ident) :
    c.cleared.hasStage id = c.hasStage id := by
  simp [hasStage]

@[simp] theorem getStage_cleared (c : Competition) (id : Ident) :
    c.cleared.getStage id = (c.getStage id).map Stage.cleared := by
  unfold getStage
  rw [findStage?_cleared]
  cases c.findStage? id <;> rfl

@[simp] theorem getGroup_cleared (c : Competition) (stage group : Ident) :
    c.cleared.getGroup stage group = (c.getGroup stage group).map Group.cleared := by
  unfold getGroup
  rw [getStage_cleared]
  cases c.getStage stage with
  | error e => rfl
  | ok s => exact s.getGroup_cleared group

@[simp] theorem getMatch_cleared (c : Competition) (stage group id : Ident) :
    c.cleared.getMatch stage group id = (c.getMatch stage group id).map Match.clear := by
  unfold getMatch
  rw [getGroup_cleared]
  cases c.getGroup stage group with
  | error e => rfl
  | ok g => exact g.getMatch_cleared id

end Competition

/-! ## Checks on what is cleared -/

namespace Place

variable (p : Place)

def cleared (p : Place) : Place where
  earlier := p.earlier.map Stage.cleared
  stage := p.stage.cleared
  later := p.later.map Stage.cleared
  group := p.group.cleared

theorem checkEarlier_cleared (s : Stage) (r : Reference) :
    p.cleared.checkEarlier s.cleared r = p.checkEarlier s r := by
  unfold checkEarlier
  rw [Stage.getGroup_cleared]
  cases s.getGroup r.group with
  | error e => rfl
  | ok g =>
      obtain ⟨stage, group, target⟩ := r
      cases target with
      | winner m | loser m =>
          simp only [Except.map, bind, Except.bind, checkTarget, Group.getMatch_cleared]
          cases g.getMatch m <;> rfl
      | rank n | position n => rfl

theorem declaredBefore_cleared (g : Group) (m : Ident) (holder : Option Nat) :
    declaredBefore g.cleared.entryIndex? m holder = declaredBefore g.entryIndex? m holder := by
  simp [declaredBefore]

theorem checkOwn_cleared (holder : Option Nat) (r : Reference) :
    p.cleared.checkOwn holder r = p.checkOwn holder r := by
  unfold checkOwn
  simp only [cleared, Stage.getGroup_cleared]
  cases p.stage.getGroup r.group with
  | error e => rfl
  | ok g =>
      obtain ⟨stage, group, target⟩ := r
      cases target with
      | winner m | loser m =>
          simp only [Except.map, bind, Except.bind, checkSibling, Group.getMatch_cleared,
            Group.id_cleared, declaredBefore_cleared]
          cases g.getMatch m <;> rfl
      | rank n | position n => rfl

theorem check_cleared (holder : Option Nat) (r : Reference) :
    p.cleared.check holder r = p.check holder r := by
  have earlier : p.cleared.earlier.find? (·.id == r.stage) =
      (p.earlier.find? (·.id == r.stage)).map Stage.cleared := by
    simp [cleared, List.find?_map, Function.comp_def]
  have later : p.cleared.later.any (·.id == r.stage) = p.later.any (·.id == r.stage) := by
    simp [cleared, List.any_map, Function.comp_def]
  unfold check
  rw [earlier, later, checkOwn_cleared]
  cases p.earlier.find? (·.id == r.stage) with
  | none => rfl
  | some s => exact p.checkEarlier_cleared s r

theorem checkGroup_cleared : p.cleared.checkGroup = p.checkGroup := by
  have slot : p.cleared.checkSlot = p.checkSlot := by
    funext h
    unfold checkSlot
    cases h.slot with
    | literal id => rfl
    | reference r => exact p.check_cleared h.index? r
  rw [checkGroup, checkGroup, slot, cleared, Group.heldSlots_cleared]

end Place

theorem checkStagesFrom_cleared (earlier stages : List Stage) :
    checkStagesFrom (earlier.map Stage.cleared) (stages.map Stage.cleared) =
      checkStagesFrom earlier stages := by
  induction stages generalizing earlier with
  | nil => rfl
  | cons s later ih =>
      have groups : (s.cleared.groups.forM fun g => Place.checkGroup
            ⟨earlier.map Stage.cleared, s.cleared, later.map Stage.cleared, g⟩) =
          s.groups.forM fun g => Place.checkGroup ⟨earlier, s, later, g⟩ := by
        rw [Stage.cleared, List.forM_eq_forM, List.forM_map]
        congr 1
        funext g
        exact Place.checkGroup_cleared ⟨earlier, s, later, g⟩
      rw [List.map_cons, checkStagesFrom, checkStagesFrom, groups, ← ih, List.map_append]
      rfl

theorem DependencyGraph.ofStages_cleared (stages : List Stage) :
    ofStages (stages.map Stage.cleared) = ofStages stages := by
  have group (stage : Ident) (graph : DependencyGraph) (g : Group) :
      addGroup stage graph g.cleared = addGroup stage graph g := by
    simp [addGroup, List.foldl_map]
  have stage (graph : DependencyGraph) (s : Stage) :
      addStage graph s.cleared = addStage graph s := by
    simp [addStage, Stage.cleared, List.foldl_map, group]
  simp [ofStages, List.foldl_map, stage]

namespace Competition

variable (c : Competition)

theorem checkLiterals_cleared (s : Stage) :
    c.cleared.checkLiterals s.cleared = c.checkLiterals s := by
  rw [checkLiterals, checkLiterals, Stage.slots_cleared]
  rfl

theorem dependencyGraph_cleared : c.cleared.dependencyGraph = c.dependencyGraph := by
  have checks := checkStagesFrom_cleared [] c.stages
  rw [List.map_nil] at checks
  simp only [dependencyGraph, DependencyGraph.build, checkStages, stages_cleared, checks,
    DependencyGraph.ofStages_cleared]

/-- What is recorded has no part in the structure. -/
theorem validate_cleared : c.cleared.validate = c.validate := by
  have literals : c.cleared.stages.forM c.cleared.checkLiterals =
      c.stages.forM c.checkLiterals := by
    rw [stages_cleared, List.forM_eq_forM, List.forM_map]
    congr 1
    funext s
    exact c.checkLiterals_cleared s
  rw [validate, validate, literals, dependencyGraph_cleared]

/-- A stage is appended to a cleared competition in the same cases, and refused for the same
reasons. -/
theorem addStage_cleared (s : Stage) :
    c.cleared.addStage s.cleared = (c.addStage s).map cleared := by
  have extended : ({ c.cleared with stages := c.cleared.stages ++ [s.cleared] } : Competition) =
      cleared { c with stages := c.stages ++ [s] } := by
    simp [cleared]
  unfold addStage
  simp only [extended, hasStage_cleared, Stage.id_cleared, checkLiterals_cleared,
    dependencyGraph_cleared]
  split
  · rfl
  · cases checkLiterals { c with stages := c.stages ++ [s] } s with
    | error e => rfl
    | ok u =>
        cases dependencyGraph { c with stages := c.stages ++ [s] } <;> rfl

end Competition

/-! ## Competitions that are alike -/

theorem Entry.Alike.cleared_eq {R : Match → Match → Prop} {e e' : Entry} (h : e.Alike R e') :
    e.cleared = e'.cleared := by
  cases h with
  | fixture same _ => exact congrArg Entry.fixture same
  | pause b => rfl

theorem Group.Alike.cleared_eq {R : Match → Match → Prop} {g g' : Group} (h : g.Alike R g') :
    g.cleared = g'.cleared := by
  have rest := h.rest
  have entries := map_eq_of_forall₂ h.entries fun _ _ => Entry.Alike.cleared_eq
  simp only [Group.mk.injEq] at rest
  simp only [cleared, entries, rest]

theorem Stage.Alike.cleared_eq {R : Ident → Match → Match → Prop} {s s' : Stage}
    (h : s.Alike R s') : s.cleared = s'.cleared := by
  have rest := h.rest
  have groups := map_eq_of_forall₂ h.groups fun _ _ => Group.Alike.cleared_eq
  simp only [Stage.mk.injEq] at rest
  simp only [cleared, groups, rest]

theorem Competition.Alike.cleared_eq {R : Ident → Ident → Match → Match → Prop}
    {c c' : Competition} (h : c.Alike R c') : c.cleared = c'.cleared := by
  have rest := h.rest
  have stages := map_eq_of_forall₂ h.stages fun _ _ => Stage.Alike.cleared_eq
  simp only [Competition.mk.injEq] at rest
  simp only [cleared, stages, rest]

/-! ## Equal up to what is recorded -/

theorem eq_of_map_eq {α β : Type} {f : α → β} {xs ys : List α} (same : xs.map f = ys.map f)
    (inj : ∀ x ∈ xs, ∀ y ∈ ys, f x = f y → x = y) : xs = ys := by
  induction xs generalizing ys with
  | nil => cases ys with
    | nil => rfl
    | cons y ys => cases same
  | cons x xs ih => cases ys with
    | nil => cases same
    | cons y ys =>
        obtain ⟨first, rest⟩ := List.cons_eq_cons.mp same
        rw [inj x List.mem_cons_self y List.mem_cons_self first, ih rest fun x hx y hy =>
          inj x (List.mem_cons_of_mem _ hx) y (List.mem_cons_of_mem _ hy)]

theorem Group.eq_of_cleared {g g' : Group} (same : g.cleared = g'.cleared)
    (games : ∀ m ∈ g.games, ∀ m' ∈ g'.games, m.clear = m'.clear → m = m') : g = g' := by
  have entries : g.entries = g'.entries := by
    refine eq_of_map_eq (congrArg entries same) fun e he e' he' sameEntry => ?_
    cases e with
    | pause b =>
        cases e' with
        | pause b' => cases sameEntry; rfl
        | fixture m' => cases sameEntry
    | fixture m =>
        cases e' with
        | pause b' => cases sameEntry
        | fixture m' =>
            rw [games m (mem_games.mpr he) m' (mem_games.mpr he') (Entry.fixture.inj sameEntry)]
  obtain ⟨⟩ := g
  obtain ⟨⟩ := g'
  cases entries
  simpa [cleared] using same

theorem Stage.eq_of_cleared {s s' : Stage} (same : s.cleared = s'.cleared)
    (equal : ∀ g ∈ s.groups, ∀ g' ∈ s'.groups, g.cleared = g'.cleared → g = g') : s = s' := by
  have groups : s.groups = s'.groups := eq_of_map_eq (congrArg Stage.groups same) equal
  obtain ⟨⟩ := s
  obtain ⟨⟩ := s'
  cases groups
  simpa [cleared] using same

theorem Competition.eq_of_cleared {c c' : Competition} (same : c.cleared = c'.cleared)
    (equal : ∀ s ∈ c.stages, ∀ s' ∈ c'.stages, s.cleared = s'.cleared → s = s') : c = c' := by
  have stages : c.stages = c'.stages := eq_of_map_eq (congrArg Competition.stages same) equal
  obtain ⟨⟩ := c
  obtain ⟨⟩ := c'
  cases stages
  simpa [cleared] using same

end Tourney
