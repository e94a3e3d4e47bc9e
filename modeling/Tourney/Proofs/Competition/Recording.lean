import Tourney.Proofs.Competition.Alike
import Tourney.Proofs.Traversal

/-!
# Score operations one after another

A score operation changes what is recorded for the match at an address, and nothing else. One that
fails changes nothing. So a run of operations leads to a competition that is alike, and the two
matches at a place can differ only if an operation was aimed at the place (`Alike.run`).
-/

namespace Tourney

/-! ## Operations -/

/-- What is done to the score of a match. -/
inductive ScoreChange
  /-- A complete score, under the rules of the group. -/
  | record (scores : List SetScore)
  /-- The score of a match in progress, under the rules of the group. -/
  | recordPartial (scores : List SetScore)
  /-- A complete score, under rules of its own. -/
  | recordUnder (scoring : Scoring) (scores : List SetScore)
  /-- The score of a match in progress, under rules of its own. -/
  | recordPartialUnder (scoring : Scoring) (scores : List SetScore)
  | clear
deriving DecidableEq

/-- What is done to the score of the match at an address. -/
structure ScoreOp where
  stage : Ident
  group : Ident
  fixture : Ident
  change : ScoreChange
deriving DecidableEq

namespace ScoreOp

def attempt (op : ScoreOp) (c : Competition) : Except Error Competition :=
  match op.change with
  | .record scores => c.record op.stage op.group op.fixture scores
  | .recordPartial scores => c.recordPartial op.stage op.group op.fixture scores
  | .recordUnder scoring scores =>
      c.updateMatch op.stage op.group op.fixture (·.record scoring scores)
  | .recordPartialUnder scoring scores =>
      c.updateMatch op.stage op.group op.fixture (·.recordPartial scoring scores)
  | .clear => c.clear op.stage op.group op.fixture

/-- The competition after an operation, which changes nothing if it fails. -/
def apply (op : ScoreOp) (c : Competition) : Competition :=
  match op.attempt c with
  | .ok c' => c'
  | .error _ => c

/-- The competition after operations one after another. -/
def run (ops : List ScoreOp) (c : Competition) : Competition :=
  ops.foldl (fun c op => op.apply c) c

/-- The match at the address, if there is one, is pending. -/
def Pending (op : ScoreOp) (c : Competition) : Prop :=
  ∀ m, c.getMatch op.stage op.group op.fixture = .ok m → m.isComplete = false

end ScoreOp

/-! ## What an operation changes -/

theorem Match.clear_of_record {m m' : Match} {scoring : Scoring} {scores : List SetScore}
    (h : m.record scoring scores = .ok m') : m'.clear = m.clear := by
  obtain ⟨e, -, heq⟩ := bind_eq_ok.mp h
  cases heq
  rfl

theorem Match.clear_of_recordPartial {m m' : Match} {scoring : Scoring} {scores : List SetScore}
    (h : m.recordPartial scoring scores = .ok m') : m'.clear = m.clear := by
  obtain ⟨⟨⟩, -, heq⟩ := bind_eq_ok.mp h
  cases heq
  rfl

/-- The match after a change, in a group with the given rules. -/
def ScoreChange.perform (change : ScoreChange) (scoring : Scoring) (m : Match) :
    Except Error Match :=
  match change with
  | .record scores => m.record scoring scores
  | .recordPartial scores => m.recordPartial scoring scores
  | .recordUnder own scores => m.record own scores
  | .recordPartialUnder own scores => m.recordPartial own scores
  | .clear => .ok m.clear

theorem ScoreChange.clear_of_perform {change : ScoreChange} {scoring : Scoring} {m m' : Match}
    (h : change.perform scoring m = .ok m') : m'.clear = m.clear := by
  cases change with
  | record scores | recordUnder own scores => exact Match.clear_of_record h
  | recordPartial scores | recordPartialUnder own scores => exact Match.clear_of_recordPartial h
  | clear => cases h; rfl

/-- Every operation is a change of what is recorded for one match of one group. -/
theorem ScoreOp.attempt_eq (op : ScoreOp) (c : Competition) :
    op.attempt c = c.updateGroup op.stage op.group fun g =>
      g.updateMatch op.fixture (op.change.perform g.scoring) := by
  obtain ⟨stage, group, fixture, change⟩ := op
  cases change <;> rfl

/-! ## Alike competitions stay alike -/

/-- Lists stay related if the element that is put is related to the one found under its key. -/
theorem forall₂_putFirst {α κ : Type} [DecidableEq κ] {key : α → κ} {R : α → α → Prop}
    {xs ys : List α} {z : α} (h : List.Forall₂ R xs ys) (same : ∀ x y, R x y → key x = key y)
    (put : ∀ x, xs.find? (fun x => decide (key x = key z)) = some x → R x z) :
    List.Forall₂ R xs (putFirst key z ys) := by
  induction h with
  | nil => exact .nil
  | @cons x y xs ys hxy rest ih =>
      rw [putFirst]
      have keys := same x y hxy
      split
      · next found => exact .cons (put x (by simp [keys, found])) rest
      · next other =>
          refine .cons hxy (ih fun x' hx' => put x' ?_)
          rwa [List.find?_cons_of_neg (by simpa [keys] using other)]

theorem Group.find?_entries (g : Group) (id : Ident) :
    g.entries.find? (fun e => decide (e.id? = some id)) = (g.findMatch? id).map .fixture := by
  have same : (fun e : Entry => e.match?.any (·.id == id)) =
      fun e => decide (e.id? = some id) := by
    funext e
    cases e with
    | fixture m =>
        simp only [Entry.match?, Entry.id?, Option.any_some, Option.map_some, Option.some.injEq]
        rfl
    | pause b => rfl
  rw [findMatch?, games, List.find?_filterMap, same]
  cases found : g.entries.find? (fun e => decide (e.id? = some id)) with
  | none => rfl
  | some e =>
      cases e with
      | fixture m => rfl
      | pause b =>
          have named : (Entry.pause b).id? = some id := by simpa using List.find?_some found
          cases named

theorem Group.Alike.updateMatch {R : Match → Match → Prop} {g g₁ g₂ : Group} {id : Ident}
    {change : Match → Except Error Match} (h : g.Alike R g₁)
    (updated : g₁.updateMatch id change = .ok g₂)
    (step : ∀ m m₁ m₂, g.findMatch? id = some m → m.clear = m₁.clear → R m m₁ →
      change m₁ = .ok m₂ → m.clear = m₂.clear ∧ R m m₂) : g.Alike R g₂ := by
  obtain ⟨m₁, hm₁, rest⟩ := bind_eq_ok.mp updated
  obtain ⟨m₂, changed, put⟩ := bind_eq_ok.mp rest
  cases put
  rw [getMatch_eq_ok] at hm₁
  rcases h.findMatch? id with ⟨-, none⟩ | ⟨m, m', hm, hm', clear, allowed⟩
  · simp [none] at hm₁
  · obtain rfl := Option.some.inj (hm'.symm.trans hm₁)
    obtain ⟨clear₂, allowed₂⟩ := step m m' m₂ hm clear allowed changed
    have found : m₂.id = id := by rw [← Match.id_eq_of_clear clear₂, id_of_findMatch? hm]
    refine ⟨forall₂_putFirst h.entries ?_ ?_, h.rest⟩
    · intro e e' he
      cases he with
      | fixture clear _ => simp [Entry.id?, Entry.match?, Match.id_eq_of_clear clear]
      | pause b => rfl
    · intro e he
      have asked : (Entry.fixture m₂).id? = some id := congrArg some found
      rw [asked, find?_entries, hm] at he
      obtain rfl := Option.some.inj he
      exact .fixture clear₂ allowed₂

theorem Competition.Alike.updateGroup {R : Ident → Ident → Match → Match → Prop}
    {c c₁ c₂ : Competition} {stage group : Ident} {change : Group → Except Error Group}
    (h : c.Alike R c₁) (updated : c₁.updateGroup stage group change = .ok c₂)
    (step : ∀ g g₁ g₂, c.getGroup stage group = .ok g → g.Alike (R stage group) g₁ →
      change g₁ = .ok g₂ → g.Alike (R stage group) g₂) : c.Alike R c₂ := by
  obtain ⟨s₁, hs₁, rest⟩ := bind_eq_ok.mp updated
  obtain ⟨s₂, inStage, put⟩ := bind_eq_ok.mp rest
  cases put
  obtain ⟨g₁, hg₁, rest⟩ := bind_eq_ok.mp inStage
  obtain ⟨g₂, changed, put⟩ := bind_eq_ok.mp rest
  cases put
  -- The stage and the group that are changed are found at the same address in both competitions.
  rw [getStage_eq_ok] at hs₁
  rw [Stage.getGroup_eq_ok] at hg₁
  rcases h.findStage? stage with ⟨-, none⟩ | ⟨s, s', hs, hs', stageId, alike⟩
  · simp [none] at hs₁
  obtain rfl := Option.some.inj (hs'.symm.trans hs₁)
  rcases alike.findGroup? group with ⟨-, none⟩ | ⟨g, g', hg, hg', groupId, alike'⟩
  · simp [none] at hg₁
  obtain rfl := Option.some.inj (hg'.symm.trans hg₁)
  have after : g.Alike (R stage group) g₂ :=
    step g g' g₂ (getGroup_eq_ok.mpr ⟨s, hs, hg⟩) alike' changed
  have stages : s.Alike (R stage) (s'.putGroup g₂) := by
    refine ⟨forall₂_putFirst alike.groups (fun _ _ => Group.Alike.id) ?_, alike.rest⟩
    intro x hx
    rw [← after.id, groupId] at hx
    obtain rfl := Option.some.inj (hg.symm.trans hx)
    exact groupId ▸ after
  refine ⟨forall₂_putFirst h.stages (fun _ _ => Stage.Alike.id) ?_, h.rest⟩
  intro x hx
  rw [← stages.id, stageId] at hx
  obtain rfl := Option.some.inj (hs.symm.trans hx)
  exact stageId ▸ stages

namespace Competition.Alike

variable {R : Ident → Ident → Match → Match → Prop} {c c₁ : Competition}

/-- An operation is allowed if any record is allowed for the match that it is aimed at. -/
def Allows (R : Ident → Ident → Match → Match → Prop) (c : Competition) (op : ScoreOp) : Prop :=
  ∀ m m', c.getMatch op.stage op.group op.fixture = .ok m → m.clear = m'.clear →
    R op.stage op.group m m'

theorem apply {op : ScoreOp} (h : c.Alike R c₁) (allows : Allows R c op) :
    c.Alike R (op.apply c₁) := by
  unfold ScoreOp.apply
  split
  · next c₂ attempted =>
      rw [op.attempt_eq] at attempted
      refine h.updateGroup attempted fun g g₁ g₂ found alike updated => ?_
      refine alike.updateMatch updated fun m m₁ m₂ hm clear _ changed => ?_
      have clear₂ : m.clear = m₂.clear := clear.trans (ScoreChange.clear_of_perform changed).symm
      have get : c.getMatch op.stage op.group op.fixture = .ok m :=
        bind_eq_ok.mpr ⟨g, found, Group.getMatch_eq_ok.mpr hm⟩
      exact ⟨clear₂, allows m m₂ get clear₂⟩
  · exact h

theorem run {ops : List ScoreOp} (h : c.Alike R c₁) (allows : ∀ op ∈ ops, Allows R c op) :
    c.Alike R (ScoreOp.run ops c₁) := by
  induction ops generalizing c₁ with
  | nil => exact h
  | cons op ops ih =>
      have first := h.apply (allows op List.mem_cons_self)
      exact ih first fun op' mem => allows op' (List.mem_cons_of_mem _ mem)

theorem refl (same : ∀ stage group m, R stage group m m) (c : Competition) : c.Alike R c := by
  have entries (stage group : Ident) : ∀ e, Entry.Alike (R stage group) e e := by
    rintro (m | b)
    · exact .fixture rfl (same stage group m)
    · exact .pause b
  have groups (stage : Ident) : ∀ g : Group, g.Alike (R stage g.id) g := fun g =>
    ⟨List.forall₂_same.mpr fun e _ => entries stage g.id e, rfl⟩
  have stages : ∀ s : Stage, s.Alike (R s.id) s := fun s =>
    ⟨List.forall₂_same.mpr fun g _ => groups s.id g, rfl⟩
  exact ⟨List.forall₂_same.mpr fun s _ => stages s, rfl⟩

end Competition.Alike

end Tourney
