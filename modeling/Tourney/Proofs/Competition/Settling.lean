import Tourney.Proofs.Competition.Cleared
import Tourney.Proofs.Competition.Recording

/-!
# What a score operation settles

A score operation is a change of the one match at its address, by a function that depends on the
rules of the group and on the operation (`ScoreOp.apply_eq`). From this follow what is found at an
address after an operation, and that operations at different addresses commute
(`ScoreOp.apply_comm`).
-/

namespace Tourney

/-! ## Changing the first element with a key -/

section Lists

variable {α κ : Type} [DecidableEq κ] {key : α → κ} {k l : κ} {f g : α → α} {x : α} {xs : List α}

def modifyFirst (key : α → κ) (k : κ) (f : α → α) : List α → List α
  | [] => []
  | x :: xs => if key x = k then f x :: xs else x :: modifyFirst key k f xs

theorem modifyFirst_comm (key : α → κ) (hf : ∀ x, key (f x) = key x) (hg : ∀ x, key (g x) = key x)
    (commute : k = l → ∀ x, f (g x) = g (f x)) (xs : List α) :
    modifyFirst key k f (modifyFirst key l g xs) =
      modifyFirst key l g (modifyFirst key k f xs) := by
  induction xs with
  | nil => rfl
  | cons x xs ih => grind [modifyFirst]

theorem find?_modifyFirst_self (key : α → κ) (hf : ∀ x, key (f x) = key x) (xs : List α) :
    (modifyFirst key k f xs).find? (fun x => decide (key x = k)) =
      (xs.find? fun x => decide (key x = k)).map f := by
  induction xs with
  | nil => rfl
  | cons x xs ih =>
      by_cases first : key x = k
      · have after : key (f x) = k := (hf x).trans first
        simp [modifyFirst, first, after]
      · simp [modifyFirst, first, ih]

theorem find?_modifyFirst_of_ne (key : α → κ) (hf : ∀ x, key (f x) = key x) (apart : l ≠ k)
    (xs : List α) :
    (modifyFirst key k f xs).find? (fun x => decide (key x = l)) =
      xs.find? fun x => decide (key x = l) := by
  induction xs with
  | nil => rfl
  | cons x xs ih =>
      by_cases first : key x = k
      · have before : ¬key x = l := fun h => apart (h.symm.trans first)
        have after : ¬key (f x) = l := hf x ▸ before
        rw [modifyFirst, if_pos first]
        simp [before, after]
      · rw [modifyFirst, if_neg first, List.find?_cons, List.find?_cons, ih]

theorem modifyFirst_of_find?_eq_none (h : xs.find? (fun x => decide (key x = k)) = none) :
    modifyFirst key k f xs = xs := by
  induction xs with
  | nil => rfl
  | cons x xs ih => grind [modifyFirst]

theorem modifyFirst_of_find?_eq_some (h : xs.find? (fun x => decide (key x = k)) = some x)
    (hf : key (f x) = key x) : modifyFirst key k f xs = putFirst key (f x) xs := by
  induction xs with
  | nil => rfl
  | cons x xs ih => grind [modifyFirst, putFirst]

theorem putFirst_self (h : xs.find? (fun x => decide (key x = k)) = some x) :
    putFirst key x xs = xs := by
  induction xs with
  | nil => rfl
  | cons x xs ih => grind [putFirst]

end Lists

/-! ## The change as a function -/

namespace ScoreChange

variable {m m' : Match}

/-- What was recorded before has no part in a change. -/
theorem perform_congr (change : ScoreChange) (scoring : Scoring) (same : m.clear = m'.clear) :
    change.perform scoring m = change.perform scoring m' := by
  have forgets : ∀ m : Match, change.perform scoring m = change.perform scoring m.clear := by
    intro m
    cases change <;> rfl
  rw [forgets m, same, ← forgets m']

/-- The match after a change, which stays as it is if the change is refused. -/
def settle (change : ScoreChange) (scoring : Scoring) (m : Match) : Match :=
  match change.perform scoring m with
  | .ok m' => m'
  | .error _ => m

theorem clear_settle (change : ScoreChange) (scoring : Scoring) (m : Match) :
    (change.settle scoring m).clear = m.clear := by
  unfold settle
  split
  · next changed => exact clear_of_perform changed
  · rfl

theorem id_settle (change : ScoreChange) (scoring : Scoring) (m : Match) :
    (change.settle scoring m).id = m.id :=
  Match.id_eq_of_clear (clear_settle change scoring m)

end ScoreChange

/-! ## The way down to the match -/

def Entry.modify (f : Match → Match) : Entry → Entry
  | .fixture m => .fixture (f m)
  | .pause b => .pause b

def Group.settle (change : ScoreChange) (id : Ident) (g : Group) : Group :=
  { g with
    entries := modifyFirst Entry.id? (some id) (Entry.modify (change.settle g.scoring)) g.entries }

def Stage.settle (change : ScoreChange) (group id : Ident) (s : Stage) : Stage :=
  { s with groups := modifyFirst (·.id) group (Group.settle change id) s.groups }

namespace ScoreOp

def settle (op : ScoreOp) (c : Competition) : Competition :=
  { c with
    stages := modifyFirst (·.id) op.stage (Stage.settle op.change op.group op.fixture) c.stages }

end ScoreOp

theorem Entry.id?_modify_settle (change : ScoreChange) (scoring : Scoring) (e : Entry) :
    (e.modify (change.settle scoring)).id? = e.id? := by
  cases e with
  | fixture m => simp [modify, id?, match?, ScoreChange.id_settle]
  | pause b => rfl

theorem Group.updateMatch_settles (g : Group) (change : ScoreChange) (id : Ident) :
    g.settle change id =
      match g.updateMatch id (change.perform g.scoring) with
      | .ok g' => g'
      | .error _ => g := by
  have keeps := Entry.id?_modify_settle change g.scoring
  have search := g.find?_entries id
  unfold updateMatch getMatch settle
  cases found : g.findMatch? id with
  | none =>
      rw [found] at search
      rw [modifyFirst_of_find?_eq_none search]
      rfl
  | some m =>
      rw [found] at search
      rw [modifyFirst_of_find?_eq_some search (keeps _), Entry.modify, ScoreChange.settle]
      simp only [bind, Except.bind]
      cases change.perform g.scoring m with
      | error e => simp only [putFirst_self search]
      | ok m' => rfl

theorem Stage.updateGroup_settles (s : Stage) (change : ScoreChange) (group id : Ident) :
    s.settle change group id =
      match s.updateGroup group fun g => g.updateMatch id (change.perform g.scoring) with
      | .ok s' => s'
      | .error _ => s := by
  unfold updateGroup getGroup settle
  cases found : s.findGroup? group with
  | none =>
      rw [modifyFirst_of_find?_eq_none found]
      rfl
  | some g =>
      rw [modifyFirst_of_find?_eq_some found rfl, g.updateMatch_settles]
      simp only [bind, Except.bind]
      cases g.updateMatch id (change.perform g.scoring) with
      | error e => simp only [putFirst_self found]
      | ok g' => rfl

theorem ScoreOp.apply_eq (op : ScoreOp) (c : Competition) : op.apply c = op.settle c := by
  rw [apply, attempt_eq]
  unfold Competition.updateGroup Competition.updateStage Competition.getStage settle
  cases found : c.findStage? op.stage with
  | none =>
      rw [modifyFirst_of_find?_eq_none found]
      rfl
  | some s =>
      rw [modifyFirst_of_find?_eq_some found rfl, s.updateGroup_settles]
      simp only [bind, Except.bind]
      generalize s.updateGroup op.group _ = result
      cases result with
      | error e => simp only [putFirst_self found]
      | ok s' => rfl

/-! ## Operations at different addresses -/

theorem Group.settle_comm {change change' : ScoreChange} {id id' : Ident} (apart : id ≠ id')
    (g : Group) :
    (g.settle change' id').settle change id = (g.settle change id).settle change' id' := by
  have entries := modifyFirst_comm Entry.id? (Entry.id?_modify_settle change g.scoring)
    (Entry.id?_modify_settle change' g.scoring)
    (fun same => absurd (Option.some.inj same) apart) g.entries
  exact congrArg (fun entries => { g with entries := entries }) entries

theorem Stage.settle_comm {change change' : ScoreChange} {group group' id id' : Ident}
    (apart : group = group' → id ≠ id') (s : Stage) :
    (s.settle change' group' id').settle change group id =
      (s.settle change group id).settle change' group' id' := by
  have groups := modifyFirst_comm Group.id (f := Group.settle change id)
    (g := Group.settle change' id') (fun _ => rfl) (fun _ => rfl)
    (fun same => Group.settle_comm (apart same)) s.groups
  exact congrArg (fun groups => { s with groups := groups }) groups

namespace ScoreOp

/-- The stage, the group and the match at which an operation is aimed. -/
def address (op : ScoreOp) : Ident × Ident × Ident :=
  (op.stage, op.group, op.fixture)

theorem apply_comm {op op' : ScoreOp} (apart : op.address ≠ op'.address) (c : Competition) :
    op.apply (op'.apply c) = op'.apply (op.apply c) := by
  have inside : op.stage = op'.stage → op.group = op'.group → op.fixture ≠ op'.fixture :=
    fun stage group fixture => apart (by rw [address, address, stage, group, fixture])
  have stages := modifyFirst_comm Stage.id
    (f := Stage.settle op.change op.group op.fixture)
    (g := Stage.settle op'.change op'.group op'.fixture) (fun _ => rfl) (fun _ => rfl)
    (fun same => Stage.settle_comm (inside same)) c.stages
  simp only [apply_eq]
  exact congrArg (fun stages => { c with stages := stages }) stages

end ScoreOp

/-! ## What is found after an operation -/

namespace Competition

/-- The match at an address, with what its scores are checked against. -/
def matchAt? (c : Competition) (address : Ident × Ident × Ident) : Option (Scoring × Match) := do
  let s ← c.findStage? address.1
  let g ← s.findGroup? address.2.1
  let m ← g.findMatch? address.2.2
  return (g.scoring, m)

variable {c : Competition}

theorem matchAt?_eq_some {a : Ident × Ident × Ident} {scoring : Scoring} {m : Match} :
    c.matchAt? a = some (scoring, m) ↔
      ∃ g, c.getGroup a.1 a.2.1 = .ok g ∧ g.scoring = scoring ∧ g.getMatch a.2.2 = .ok m := by
  simp only [getGroup_eq_ok, Group.getMatch_eq_ok]
  unfold matchAt?
  simp only [Option.bind_eq_bind, Option.bind_eq_some_iff, Option.pure_def, Option.some.injEq,
    Prod.mk.injEq]
  constructor
  · rintro ⟨s, hs, g, hg, m, hm, rfl, rfl⟩
    exact ⟨g, ⟨s, hs, hg⟩, rfl, hm⟩
  · rintro ⟨g, ⟨s, hs, hg⟩, rfl, hm⟩
    exact ⟨s, hs, g, hg, m, hm, rfl, rfl⟩

@[simp] theorem matchAt?_cleared (c : Competition) (a : Ident × Ident × Ident) :
    c.cleared.matchAt? a = (c.matchAt? a).map fun found => (found.1, found.2.clear) := by
  unfold matchAt?
  rw [findStage?_cleared]
  cases c.findStage? a.1 with
  | none => rfl
  | some s =>
      simp only [Option.map_some, Option.bind_eq_bind, Option.bind_some, Stage.findGroup?_cleared]
      cases s.findGroup? a.2.1 with
      | none => rfl
      | some g =>
          simp only [Option.map_some, Option.bind_some, Group.findMatch?_cleared]
          cases g.findMatch? a.2.2 <;> rfl

/-- Where identifiers are unique, everything is found at its address. -/
theorem matchAt?_iff_mem (unique : c.UniqueIds) {a : Ident × Ident × Ident} {scoring : Scoring}
    {m : Match} :
    c.matchAt? a = some (scoring, m) ↔
      ∃ s ∈ c.stages, ∃ g ∈ s.groups, m ∈ g.games ∧ (s.id, g.id, m.id) = a ∧
        g.scoring = scoring := by
  constructor
  · intro h
    obtain ⟨g, getGroup, scored, getMatch⟩ := matchAt?_eq_some.mp h
    obtain ⟨s, hs, stageId, hg, groupId⟩ := exists_stage_of_getGroup getGroup
    have found := Group.getMatch_eq_ok.mp getMatch
    refine ⟨s, hs, g, hg, Group.mem_games_of_findMatch? found, ?_, scored⟩
    rw [stageId, groupId, Group.id_of_findMatch? found]
  · rintro ⟨s, hs, g, hg, hm, rfl, rfl⟩
    have stage : c.findStage? s.id = some s := find?_id_eq_some unique.1 hs
    have group : s.findGroup? g.id = some g := (unique.2 s hs).findGroup? hg
    refine matchAt?_eq_some.mpr ⟨g, getGroup_eq_ok.mpr ⟨s, stage, group⟩, rfl, ?_⟩
    exact Group.getMatch_eq_ok.mpr (((unique.2 s hs).2 g hg).findMatch? hm)

end Competition

@[simp] theorem Group.scoring_settle (g : Group) (change : ScoreChange) (id : Ident) :
    (g.settle change id).scoring = g.scoring := rfl

theorem Group.findMatch?_settle (g : Group) (change : ScoreChange) (id id' : Ident) :
    (g.settle change id).findMatch? id' =
      (g.findMatch? id').map fun m => if id = id' then change.settle g.scoring m else m := by
  have keeps := Entry.id?_modify_settle change g.scoring
  apply Option.map_injective (f := Entry.fixture) fun m m' h => by cases h; rfl
  rw [← find?_entries]
  by_cases same : id = id'
  · subst same
    rw [settle, find?_modifyFirst_self Entry.id? keeps, find?_entries]
    cases g.findMatch? id <;> simp [Entry.modify]
  · have apart : some id' ≠ some id := fun h => same (Option.some.inj h).symm
    rw [settle, find?_modifyFirst_of_ne Entry.id? keeps apart, find?_entries]
    simp [same]

theorem Stage.findGroup?_settle (s : Stage) (change : ScoreChange) (group id group' : Ident) :
    (s.settle change group id).findGroup? group' =
      (s.findGroup? group').map fun g => if group = group' then g.settle change id else g := by
  by_cases same : group = group'
  · subst same
    simp only [if_true]
    exact find?_modifyFirst_self Group.id (f := Group.settle change id) (fun _ => rfl) s.groups
  · simp only [same, if_false, Option.map_id']
    exact find?_modifyFirst_of_ne Group.id (f := Group.settle change id)
      (fun _ => rfl) (Ne.symm same) s.groups

namespace ScoreOp

theorem findStage?_apply (op : ScoreOp) (c : Competition) (stage : Ident) :
    (op.apply c).findStage? stage =
      (c.findStage? stage).map fun s =>
        if op.stage = stage then s.settle op.change op.group op.fixture else s := by
  rw [apply_eq]
  by_cases same : op.stage = stage
  · subst same
    simp only [if_true]
    exact find?_modifyFirst_self Stage.id (f := Stage.settle op.change op.group op.fixture)
      (fun _ => rfl) c.stages
  · simp only [same, if_false, Option.map_id']
    exact find?_modifyFirst_of_ne Stage.id
      (f := Stage.settle op.change op.group op.fixture) (fun _ => rfl) (Ne.symm same) c.stages

/-- An operation settles the match at its address, and no other. -/
theorem matchAt?_apply (op : ScoreOp) (c : Competition) (a : Ident × Ident × Ident) :
    (op.apply c).matchAt? a =
      (c.matchAt? a).map fun found =>
        (found.1, if op.address = a then op.change.settle found.1 found.2 else found.2) := by
  obtain ⟨stage, group, id⟩ := a
  unfold Competition.matchAt?
  rw [findStage?_apply]
  cases c.findStage? stage with
  | none => rfl
  | some s =>
      by_cases inStage : op.stage = stage
      · simp only [inStage, if_true, Option.map_some, Option.bind_eq_bind, Option.bind_some]
        rw [Stage.findGroup?_settle]
        cases s.findGroup? group with
        | none => rfl
        | some g =>
            by_cases inGroup : op.group = group
            · simp only [inGroup, if_true, Option.map_some, Option.bind_some]
              rw [Group.findMatch?_settle]
              cases g.findMatch? id <;> simp [address, inStage, inGroup]
            · cases found : g.findMatch? id <;> simp [address, inStage, inGroup, found]
      · cases inGroup : s.findGroup? group with
        | none => simp [inStage, inGroup]
        | some g => cases found : g.findMatch? id <;> simp [address, inStage, inGroup, found]

/-- An operation changes nothing but what is recorded. -/
theorem cleared_apply (op : ScoreOp) (c : Competition) : (op.apply c).cleared = c.cleared := by
  have alike : c.Alike (fun _ _ _ _ => True) (op.apply c) :=
    (Competition.Alike.refl (fun _ _ _ => trivial) c).apply fun _ _ _ _ => trivial
  exact alike.cleared_eq.symm

theorem attempt_eq_bind (op : ScoreOp) (c : Competition) :
    op.attempt c = (do
      let g ← c.getGroup op.stage op.group
      let m ← g.getMatch op.fixture
      let _ ← op.change.perform g.scoring m
      return op.apply c) := by
  rw [apply, attempt_eq]
  unfold Competition.updateGroup Competition.updateStage Stage.updateGroup Group.updateMatch
    Competition.getGroup
  cases c.getStage op.stage with
  | error e => rfl
  | ok s =>
      simp only [bind, Except.bind]
      cases s.getGroup op.group with
      | error e => rfl
      | ok g =>
          simp only
          cases g.getMatch op.fixture with
          | error e => rfl
          | ok m =>
              simp only
              cases op.change.perform g.scoring m <;> rfl

end ScoreOp

/-! ## Competitions with the same matches -/

namespace Competition

variable {c c' : Competition}

theorem uniqueIds_cleared : c.cleared.UniqueIds ↔ c.UniqueIds := by
  simp [UniqueIds, Stage.UniqueIds, Group.UniqueIds, Stage.cleared, Function.comp_def]

/-- Two competitions that differ at most in what is recorded are equal if the matches of one are
found in the other. -/
theorem eq_of_matchAt? (same : c.cleared = c'.cleared) (unique : c'.UniqueIds)
    (found : ∀ a scoring m, c'.matchAt? a = some (scoring, m) → c.matchAt? a = some (scoring, m)) :
    c = c' := by
  have unique₁ : c.UniqueIds := uniqueIds_cleared.mp (same ▸ uniqueIds_cleared.mpr unique)
  refine eq_of_cleared same fun s hs s' hs' sameStage => ?_
  refine Stage.eq_of_cleared sameStage fun g hg g' hg' sameGroup => ?_
  refine Group.eq_of_cleared sameGroup fun m hm m' hm' sameMatch => ?_
  have stageId : s.id = s'.id := (congrArg Stage.id sameStage : s.cleared.id = s'.cleared.id)
  have groupId : g.id = g'.id := (congrArg Group.id sameGroup : g.cleared.id = g'.cleared.id)
  have first : c.matchAt? (s.id, g.id, m.id) = some (g.scoring, m) :=
    (matchAt?_iff_mem unique₁).mpr ⟨s, hs, g, hg, hm, rfl, rfl⟩
  have second : c'.matchAt? (s'.id, g'.id, m'.id) = some (g'.scoring, m') :=
    (matchAt?_iff_mem unique).mpr ⟨s', hs', g', hg', hm', rfl, rfl⟩
  have both := found _ _ _ second
  rw [← stageId, ← groupId, ← Match.id_eq_of_clear sameMatch, first] at both
  exact (Prod.mk.inj (Option.some.inj both)).2

end Competition

end Tourney
