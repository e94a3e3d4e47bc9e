import Tourney.Proofs.Competition.Settling
import Tourney.Proofs.Competition.Structure

/-!
# Score operations are independent

Whether a score operation is accepted, and what it returns, depends on the rules of the group and on
the operation, and not on what has been recorded before. So operations that are refused can be left
out, operations at different addresses can be exchanged, and what is recorded for a match in the end
is what the last accepted operation on it has recorded (`ScoreOp.run_independent`).
-/

namespace Tourney

/-! ## A run of steps that commute -/

section Runs

variable {α β κ : Type} {key : α → κ} {step : β → α → β}

theorem foldl_comm (commute : ∀ b x y, key x ≠ key y → step (step b x) y = step (step b y) x)
    {x : α} {xs : List α} (apart : ∀ y ∈ xs, key y ≠ key x) (b : β) :
    xs.foldl step (step b x) = step (xs.foldl step b) x := by
  induction xs generalizing b with
  | nil => rfl
  | cons y ys ih =>
      obtain ⟨first, rest⟩ := List.forall_mem_cons.mp apart
      rw [List.foldl_cons, List.foldl_cons, commute b x y first.symm, ih rest]

/-- Steps with different keys commute, so only the order of those with the same key counts. -/
theorem foldl_eq_of_filter [DecidableEq κ]
    (commute : ∀ b x y, key x ≠ key y → step (step b x) y = step (step b y) x)
    {xs ys : List α} (same : ∀ k, ys.filter (fun y => decide (key y = k)) =
      xs.filter (fun x => decide (key x = k))) (b : β) :
    ys.foldl step b = xs.foldl step b := by
  induction xs generalizing ys b with
  | nil =>
      cases ys with
      | nil => rfl
      | cons y ys => simpa using same (key y)
  | cons x xs ih =>
      have first := same (key x)
      rw [List.filter_cons_of_pos (by simp)] at first
      obtain ⟨before, after, rfl, apart, -, rest⟩ := List.filter_eq_cons_iff.mp first
      replace apart : ∀ y ∈ before, key y ≠ key x := by simpa using apart
      -- The step is moved to the front, past those before it, which have other keys.
      have moved :
          (before ++ x :: after).foldl step b = (before ++ after).foldl step (step b x) := by
        rw [List.foldl_append, List.foldl_append, List.foldl_cons, foldl_comm commute apart]
      rw [moved, List.foldl_cons]
      refine ih (fun k => ?_) (step b x)
      have all := same k
      by_cases h : key x = k
      · have none : before.filter (fun y => decide (key y = k)) = [] :=
          List.filter_eq_nil_iff.mpr fun y hy => by simpa [← h] using apart y hy
        simpa [h, none] using all
      · simpa [h] using all

end Runs

/-! ## What decides on an operation -/

namespace ScoreOp

variable {op : ScoreOp} {ops : List ScoreOp} {c c' : Competition}

/-- What an operation returns: the outcome if it has recorded a complete score. -/
def answer (op : ScoreOp) (c : Competition) : Except Error (Option Outcome) := do
  let c' ← op.attempt c
  let m ← c'.getMatch op.stage op.group op.fixture
  return m.evaluation?.map (·.outcome)

def accepted (op : ScoreOp) (c : Competition) : Bool :=
  (op.attempt c).isOk

theorem accepted_iff : op.accepted c = true ↔ ∃ c', op.attempt c = .ok c' := by
  unfold accepted
  cases op.attempt c <;> simp [Except.isOk, Except.toBool]

/-- An operation answers with the outcome of the score that it records. -/
theorem answer_eq (op : ScoreOp) (c : Competition) :
    op.answer c = (do
      let g ← c.getGroup op.stage op.group
      let m ← g.getMatch op.fixture
      let m' ← op.change.perform g.scoring m
      return m'.evaluation?.map (·.outcome)) := by
  unfold answer
  rw [attempt_eq_bind]
  cases getGroup : c.getGroup op.stage op.group with
  | error e => rfl
  | ok g =>
      simp only [bind, Except.bind]
      cases getMatch : g.getMatch op.fixture with
      | error e => rfl
      | ok m =>
          simp only
          cases changed : op.change.perform g.scoring m with
          | error e => rfl
          | ok m' =>
              have before : c.matchAt? op.address = some (g.scoring, m) :=
                Competition.matchAt?_eq_some.mpr ⟨g, getGroup, rfl, getMatch⟩
              have after := op.matchAt?_apply c op.address
              rw [before, Option.map_some, if_pos rfl, ScoreChange.settle, changed] at after
              obtain ⟨g', getGroup', -, getMatch'⟩ := Competition.matchAt?_eq_some.mp after
              have found : (op.apply c).getMatch op.stage op.group op.fixture = .ok m' :=
                bind_eq_ok.mpr ⟨g', getGroup', getMatch'⟩
              simp only [pure, Except.pure, found]

theorem accepted_eq (op : ScoreOp) (c : Competition) : op.accepted c = (op.answer c).isOk := by
  rw [answer_eq, accepted, attempt_eq_bind]
  cases c.getGroup op.stage op.group with
  | error e => rfl
  | ok g =>
      simp only [bind, Except.bind]
      cases g.getMatch op.fixture with
      | error e => rfl
      | ok m =>
          simp only
          cases op.change.perform g.scoring m <;> rfl

theorem answer_cleared (op : ScoreOp) (c : Competition) : op.answer c.cleared = op.answer c := by
  rw [answer_eq, answer_eq, Competition.getGroup_cleared]
  cases c.getGroup op.stage op.group with
  | error e => rfl
  | ok g =>
      simp only [Except.map, bind, Except.bind, Group.getMatch_cleared, Group.scoring_cleared]
      cases g.getMatch op.fixture with
      | error e => rfl
      | ok m => simp only [op.change.perform_congr g.scoring m.clear_clear]

/-- What has been recorded has no part in what an operation returns. -/
theorem answer_congr (same : c.cleared = c'.cleared) (op : ScoreOp) :
    op.answer c = op.answer c' := by
  rw [← op.answer_cleared c, same, op.answer_cleared]

theorem accepted_congr (same : c.cleared = c'.cleared) (op : ScoreOp) :
    op.accepted c = op.accepted c' := by
  rw [accepted_eq, accepted_eq, answer_congr same]

theorem accepted_iff_of_matchAt? {scoring : Scoring} {m : Match}
    (found : c.matchAt? op.address = some (scoring, m)) :
    op.accepted c = true ↔ ∃ m', op.change.perform scoring m = .ok m' := by
  obtain ⟨g, getGroup, rfl, getMatch⟩ := Competition.matchAt?_eq_some.mp found
  replace getGroup : c.getGroup op.stage op.group = .ok g := getGroup
  replace getMatch : g.getMatch op.fixture = .ok m := getMatch
  rw [accepted_iff, attempt_eq_bind, getGroup]
  simp only [bind, Except.bind, getMatch]
  cases op.change.perform g.scoring m <;> simp [pure, Except.pure]

/-! ## What a run leaves -/

theorem cleared_run (ops : List ScoreOp) (c : Competition) : (run ops c).cleared = c.cleared := by
  induction ops generalizing c with
  | nil => rfl
  | cons op ops ih => exact (ih (op.apply c)).trans (op.cleared_apply c)

theorem apply_of_refused (refused : op.accepted c = false) : op.apply c = c := by
  unfold accepted at refused
  unfold apply
  cases attempted : op.attempt c with
  | error e => rfl
  | ok c' => simp [attempted, Except.isOk, Except.toBool] at refused

/-- Operations that are all accepted succeed one after another. -/
theorem foldlM_attempt (accepted : ∀ op ∈ ops, op.accepted c = true) :
    ops.foldlM (fun c op => op.attempt c) c = .ok (run ops c) := by
  induction ops generalizing c with
  | nil => rfl
  | cons op ops ih =>
      obtain ⟨first, rest⟩ := List.forall_mem_cons.mp accepted
      obtain ⟨c', attempted⟩ := accepted_iff.mp first
      have applied : op.apply c = c' := by rw [apply, attempted]
      have later := ih (c := c') fun op' mem => by
        rw [← applied, accepted_congr (op.cleared_apply c), rest op' mem]
      rw [List.foldlM_cons, attempted]
      exact applied ▸ later

/-- Operations that are refused can be left out. -/
theorem run_filter_accepted (ops : List ScoreOp) (c : Competition) :
    run (ops.filter (·.accepted c)) c = run ops c := by
  induction ops generalizing c with
  | nil => rfl
  | cons op ops ih =>
      have rest : run (ops.filter (·.accepted c)) (op.apply c) = run ops (op.apply c) := by
        rw [← ih, funext (accepted_congr (op.cleared_apply c))]
      cases decision : op.accepted c with
      | true =>
          rw [List.filter_cons_of_pos (by exact decision)]
          exact rest
      | false =>
          rw [List.filter_cons_of_neg (by simp [decision])]
          rw [apply_of_refused decision] at rest
          exact rest.trans (congrArg (run ops) (apply_of_refused decision).symm)

theorem run_eq_of_filter {ops' : List ScoreOp}
    (same : ∀ a, ops'.filter (fun op => decide (op.address = a)) =
      ops.filter (fun op => decide (op.address = a))) (c : Competition) :
    run ops' c = run ops c :=
  foldl_eq_of_filter (fun c _ _ apart => (apply_comm apart c).symm) same c

/-- The last operation at an address that is accepted. -/
def lastAccepted (ops : List ScoreOp) (c : Competition) (a : Ident × Ident × Ident) :
    Option ScoreOp :=
  ops.reverse.find? fun op => decide (op.address = a) && op.accepted c

theorem of_lastAccepted {a : Ident × Ident × Ident} (h : lastAccepted ops c a = some op) :
    op ∈ ops ∧ op.address = a := by
  have mem := List.mem_of_find?_eq_some h
  have found := List.find?_some h
  simp only [Bool.and_eq_true, decide_eq_true_eq] at found
  exact ⟨List.mem_reverse.mp mem, found.1⟩

theorem refused_of_lastAccepted {a : Ident × Ident × Ident} (h : lastAccepted ops c a = none)
    (mem : op ∈ ops) (aimed : op.address = a) : op.accepted c = false := by
  have notFound := List.find?_eq_none.mp h op (List.mem_reverse.mpr mem)
  simpa [aimed] using notFound

theorem lastAccepted_concat (ops : List ScoreOp) (op : ScoreOp) (c : Competition)
    (a : Ident × Ident × Ident) :
    lastAccepted (ops ++ [op]) c a =
      if op.address = a ∧ op.accepted c = true then some op else lastAccepted ops c a := by
  rw [lastAccepted, List.reverse_concat, List.find?_cons]
  by_cases aimed : op.address = a
  · cases decision : op.accepted c <;> simp [aimed, lastAccepted]
  · simp [aimed, lastAccepted]

/-- A match is found after a run as the last accepted operation at its address would leave it. -/
theorem exists_matchAt?_run {a : Ident × Ident × Ident} {scoring : Scoring} {m : Match}
    (found : c.matchAt? a = some (scoring, m)) (ops : List ScoreOp) :
    ∃ m', (run ops c).matchAt? a = some (scoring, m') ∧ m'.clear = m.clear ∧
      match lastAccepted ops c a with
      | some op => op.change.perform scoring m = .ok m'
      | none => m' = m := by
  induction ops using List.reverseRecOn with
  | nil => exact ⟨m, found, rfl, rfl⟩
  | append_singleton ops op ih =>
      obtain ⟨m', found', clear, last⟩ := ih
      have run_concat : run (ops ++ [op]) c = op.apply (run ops c) := List.foldl_concat ..
      have after := op.matchAt?_apply (run ops c) a
      rw [← run_concat, found', Option.map_some] at after
      refine ⟨_, after, ?_, ?_⟩
      · split
        · exact (ScoreChange.clear_settle ..).trans clear
        · exact clear
      · by_cases aimed : op.address = a
        · subst aimed
          have changed := op.change.perform_congr scoring clear
          have decides := accepted_iff_of_matchAt? found
          rw [if_pos rfl, lastAccepted_concat, ScoreChange.settle, changed]
          cases decision : op.accepted c with
          | true =>
              obtain ⟨m₁, accepted⟩ := decides.mp decision
              simp [accepted]
          | false =>
              cases refused : op.change.perform scoring m with
              | ok m₁ => simp [decides.mpr ⟨m₁, refused⟩] at decision
              | error e => simpa using last
        · rw [if_neg aimed, lastAccepted_concat, if_neg (fun h => aimed h.1)]
          exact last

/-- Score operations on different matches are independent. Whether an operation is accepted and what
it returns does not depend on those before it. Only the order of the operations at one address
counts. A match is left as the last accepted operation at its address makes it, and nothing else
changes. -/
theorem run_independent (c : Competition) (ops : List ScoreOp) :
    (∀ op : ScoreOp,
      op.accepted (run ops c) = op.accepted c ∧ op.answer (run ops c) = op.answer c) ∧
    (∀ ops', (∀ a, ops'.filter (fun op => decide (op.address = a)) =
        ops.filter (fun op => decide (op.address = a))) → run ops' c = run ops c) ∧
    (∀ stage group id g m, c.getGroup stage group = .ok g → g.getMatch id = .ok m →
      ∃ m', (run ops c).getMatch stage group id = .ok m' ∧
        match lastAccepted ops c (stage, group, id) with
        | some op => op.change.perform g.scoring m = .ok m'
        | none => m' = m) ∧
    c.Alike (fun stage group m m' =>
      m' = m ∨ ∃ op ∈ ops, op.address = (stage, group, m.id) ∧ op.accepted c = true)
      (run ops c) := by
  have cleared := cleared_run ops c
  refine ⟨fun op => ⟨accepted_congr cleared op, answer_congr cleared op⟩,
    fun ops' same => run_eq_of_filter same c, ?_, ?_⟩
  · intro stage group id g m getGroup getMatch
    have found : c.matchAt? (stage, group, id) = some (g.scoring, m) :=
      Competition.matchAt?_eq_some.mpr ⟨g, getGroup, rfl, getMatch⟩
    obtain ⟨m', found', -, last⟩ := exists_matchAt?_run found ops
    obtain ⟨g', getGroup', -, getMatch'⟩ := Competition.matchAt?_eq_some.mp found'
    exact ⟨m', bind_eq_ok.mpr ⟨g', getGroup', getMatch'⟩, last⟩
  · rw [← run_filter_accepted]
    refine (Competition.Alike.refl (fun _ _ _ => .inl rfl) c).run fun op mem m m' found same => ?_
    obtain ⟨mem, accepted⟩ := List.mem_filter.mp mem
    obtain ⟨g, -, getMatch⟩ := bind_eq_ok.mp found
    have id : m.id = op.fixture := Group.id_of_findMatch? (Group.getMatch_eq_ok.mp getMatch)
    exact .inr ⟨op, mem, by rw [address, id], accepted⟩

end ScoreOp

namespace SmallCup

def lost : List SetScore :=
  [⟨20, 25⟩, ⟨20, 25⟩, ⟨20, 25⟩]

/-- The opener is taken back and recorded again while the final is under way. The score of a single
set is not accepted for it, and there is no final in the pools. -/
def replay : List ScoreOp :=
  [⟨pools, pool, opener, .clear⟩, ⟨finals, final, final, .recordPartial [⟨25, 23⟩]⟩,
    ⟨pools, pool, opener, .record lost⟩, ⟨pools, pool, opener, .record [⟨25, 20⟩]⟩,
    ⟨pools, pool, final, .clear⟩]

/-- The same operations, with the opener last. -/
def replayLast : List ScoreOp :=
  [⟨pools, pool, final, .clear⟩, ⟨finals, final, final, .recordPartial [⟨25, 23⟩]⟩,
    ⟨pools, pool, opener, .clear⟩, ⟨pools, pool, opener, .record lost⟩,
    ⟨pools, pool, opener, .record [⟨25, 20⟩]⟩]

theorem replayLast_same (a : Ident × Ident × Ident) :
    replayLast.filter (fun op => decide (op.address = a)) =
      replay.filter (fun op => decide (op.address = a)) := by
  by_cases opened : (pools, pool, opener) = a
  · subst opened; rfl
  by_cases played : (finals, final, final) = a
  · subst played; rfl
  · simp [replay, replayLast, ScoreOp.address, List.filter_cons, opened, played]

theorem replay_lost :
    (∀ a, replayLast.filter (fun op => decide (op.address = a)) =
        replay.filter (fun op => decide (op.address = a))) ∧
      ScoreOp.run replayLast cup = ScoreOp.run replay cup ∧
      ∃ m, (ScoreOp.run replay cup).getMatch pools pool opener = .ok m ∧ m.scores = lost ∧
        m.state = .complete ⟨.wonBy .away, ⟨0, 3⟩⟩ := by
  obtain ⟨-, reorder, last, -⟩ := ScoreOp.run_independent cup replay
  obtain ⟨m, found, recorded⟩ := last pools pool opener league _ rfl rfl
  have accepted : ScoreOp.lastAccepted replay cup (pools, pool, opener) =
      some ⟨pools, pool, opener, .record lost⟩ := rfl
  rw [accepted] at recorded
  cases recorded
  exact ⟨replayLast_same, reorder replayLast replayLast_same, _, found, rfl, rfl⟩

end SmallCup

end Tourney
