import Tourney.Proofs.Competition.Recording
import Tourney.Proofs.Match.Recorded
import Tourney.Proofs.Scoring.Sets

/-!
# Draws stay in leagues

A group that does not allow draws refuses the score of one, and only a league can allow them. So a
group that is no league has no drawn match (`Group.Decisive`), whatever is recorded in it and
however its settings are changed in between.
-/

namespace Tourney

/-! ## Operations on groups -/

/-- What is done to a group: a score of one of its matches is recorded, or a setting is changed. -/
inductive GroupChange
  | record (fixture : Ident) (scores : List SetScore)
  | recordPartial (fixture : Ident) (scores : List SetScore)
  | setRules (rules : SetRules)
  | setDrawsAllowed (allowed : Bool)
deriving DecidableEq

def GroupChange.perform (change : GroupChange) (g : Group) : Except Error Group :=
  match change with
  | .record fixture scores => g.record fixture scores
  | .recordPartial fixture scores => g.recordPartial fixture scores
  | .setRules rules => g.setRules rules
  | .setDrawsAllowed allowed => g.setDrawsAllowed allowed

/-- What is done to the group at an address. -/
structure GroupOp where
  stage : Ident
  group : Ident
  change : GroupChange
deriving DecidableEq

namespace GroupOp

def attempt (op : GroupOp) (c : Competition) : Except Error Competition :=
  match op.change with
  | .record fixture scores => c.record op.stage op.group fixture scores
  | .recordPartial fixture scores => c.recordPartial op.stage op.group fixture scores
  | .setRules rules => c.updateGroup op.stage op.group (·.setRules rules)
  | .setDrawsAllowed allowed => c.updateGroup op.stage op.group (·.setDrawsAllowed allowed)

theorem attempt_eq (op : GroupOp) (c : Competition) :
    op.attempt c = c.updateGroup op.stage op.group op.change.perform := by
  obtain ⟨stage, group, change⟩ := op
  cases change <;> rfl

/-- The competition after an operation, which changes nothing if it fails. -/
def apply (op : GroupOp) (c : Competition) : Competition :=
  match op.attempt c with
  | .ok c' => c'
  | .error _ => c

/-- The competition after operations one after another. -/
def run (ops : List GroupOp) (c : Competition) : Competition :=
  ops.foldl (fun c op => op.apply c) c

end GroupOp

/-! ## Matches that are not drawn -/

namespace Match

variable {m m' : Match} {scoring : Scoring} {scores : List SetScore}

/-- If the match is complete, it is not drawn. -/
def Decided (m : Match) : Prop :=
  ∀ e, m.state = .complete e → e.outcome ≠ .draw

theorem decided_of_pending (pending : m.state = .pending) : m.Decided := by
  intro e complete
  cases pending.symm.trans complete

theorem decided_of_record (h : m.record scoring scores = .ok m')
    (refused : scoring.drawsAllowed ≠ true) : m'.Decided := by
  obtain ⟨e, evaluated, heq⟩ := bind_eq_ok.mp h
  rw [scored_eq_ok] at evaluated
  cases heq
  rintro e' ⟨⟩ drawn
  exact refused ((Scoring.evaluate_eq_ok.mp evaluated).2.2 drawn)

theorem decided_of_recordPartial (h : m.recordPartial scoring scores = .ok m') : m'.Decided := by
  obtain ⟨⟨⟩, -, heq⟩ := bind_eq_ok.mp h
  cases heq
  exact decided_of_pending rfl

theorem Decided.sides (decided : m.Decided) (complete : m.isComplete = true) :
    ∃ side, m.winnerSide = .ok side ∧ m.loserSide = .ok side.opposite := by
  obtain ⟨e, he⟩ := Option.isSome_iff_exists.mp complete
  rw [evaluation?_eq_some] at he
  obtain ⟨side, won⟩ := exists_winnerSide.mpr ⟨e, he, decided e he⟩
  obtain ⟨loser, lost⟩ := exists_loserSide.mpr ⟨e, he, decided e he⟩
  exact ⟨side, won, eq_opposite_of_sides won lost ▸ lost⟩

end Match

/-! ## Groups and competitions without draws outside leagues -/

/-- Only a league allows draws, and only a league has them. -/
structure Group.Decisive (g : Group) : Prop where
  league : g.drawsAllowed = true → g.kind.type = .league
  decided : g.kind.type ≠ .league → ∀ m ∈ g.games, m.Decided

def Competition.Decisive (c : Competition) : Prop :=
  ∀ s ∈ c.stages, ∀ g ∈ s.groups, g.Decisive

namespace Group

variable {g g' : Group}

theorem Decisive.refuses (h : g.Decisive) (other : g.kind.type ≠ .league) :
    g.scoring.drawsAllowed ≠ true :=
  fun allowed => other (h.league allowed)

theorem Decisive.updateMatch {id : Ident} {change : Match → Except Error Match} (h : g.Decisive)
    (updated : g.updateMatch id change = .ok g')
    (each : g.kind.type ≠ .league → ∀ m m', change m = .ok m' → m'.Decided) : g'.Decisive := by
  obtain ⟨m, -, rest⟩ := bind_eq_ok.mp updated
  obtain ⟨m', changed, put⟩ := bind_eq_ok.mp rest
  cases put
  refine ⟨h.league, fun other x mem => ?_⟩
  rcases mem_of_mem_putFirst (mem_games.mp mem) with put | kept
  · cases put
    exact each other m m' changed
  · exact h.decided other x (mem_games.mpr kept)

theorem setDrawsAllowed_eq_ok {allowed : Bool} :
    g.setDrawsAllowed allowed = .ok g' ↔
      (allowed = true → g.kind.type = .league) ∧ { g with drawsAllowed := allowed } = g' := by
  unfold setDrawsAllowed
  split <;> simp_all

theorem Decisive.perform {change : GroupChange} (h : g.Decisive)
    (changed : change.perform g = .ok g') : g'.Decisive := by
  cases change with
  | record fixture scores =>
      exact h.updateMatch changed fun other _ _ recorded =>
        Match.decided_of_record recorded (h.refuses other)
  | recordPartial fixture scores =>
      exact h.updateMatch changed fun _ _ _ recorded => Match.decided_of_recordPartial recorded
  | setRules rules =>
      obtain ⟨⟨⟩, -, heq⟩ := bind_eq_ok.mp changed
      cases heq
      exact ⟨h.league, h.decided⟩
  | setDrawsAllowed allowed =>
      obtain ⟨league, rfl⟩ := setDrawsAllowed_eq_ok.mp changed
      exact ⟨league, h.decided⟩

end Group

namespace Competition

variable {c c' : Competition} {stage group : Ident}

/-- What a change keeps of every group is kept of all groups if it is made at one address. -/
theorem forall_groups_of_updateGroup {P : Group → Prop} {change : Group → Except Error Group}
    (all : ∀ s ∈ c.stages, ∀ g ∈ s.groups, P g)
    (updated : c.updateGroup stage group change = .ok c')
    (step : ∀ g g', P g → change g = .ok g' → P g') : ∀ s ∈ c'.stages, ∀ g ∈ s.groups, P g := by
  obtain ⟨s, hs, rest⟩ := bind_eq_ok.mp updated
  obtain ⟨s', inStage, put⟩ := bind_eq_ok.mp rest
  cases put
  obtain ⟨g, hg, rest⟩ := bind_eq_ok.mp inStage
  obtain ⟨g', changed, put⟩ := bind_eq_ok.mp rest
  cases put
  have held := all s (List.mem_of_find?_eq_some (getStage_eq_ok.mp hs))
  have groups : ∀ x ∈ (s.putGroup g').groups, P x := by
    intro x mem
    rcases mem_of_mem_putFirst mem with rfl | kept
    · exact step g x (held g (Stage.mem_of_findGroup? (Stage.getGroup_eq_ok.mp hg))) changed
    · exact held x kept
  intro t mem
  rcases mem_of_mem_putFirst mem with rfl | kept
  · exact groups
  · exact all t kept

theorem Decisive.apply {op : GroupOp} (h : c.Decisive) : (op.apply c).Decisive := by
  unfold GroupOp.apply
  split
  · next c' attempted =>
      rw [op.attempt_eq] at attempted
      exact forall_groups_of_updateGroup h attempted fun g g' => Group.Decisive.perform
  · exact h

theorem Decisive.run {ops : List GroupOp} (h : c.Decisive) : (GroupOp.run ops c).Decisive := by
  induction ops generalizing c with
  | nil => exact h
  | cons op ops ih => exact ih h.apply

end Competition

end Tourney
