import Mathlib.Data.List.SplitBy
import Tourney.Proofs.League.Values

/-!
# Runs of level values

Sorting keeps the order of equal values, so splitting a sorted block yields, for each value in falling
order, the rows of the block that have it, in the order of the block (`Table.exists_of_mem_runs`,
`Table.runs_falling`). This needs that level values are the same.
-/

namespace Tourney

namespace Table

variable {rows : List (RankValue × Row)} {v : RankValue}

/-- The rows with their values, by falling value. -/
def sorted (rows : List (RankValue × Row)) : List (RankValue × Row) :=
  rows.mergeSort fun a b => a.1.atLeast b.1

/-- Sorted rows, split where the value changes. -/
def splits (rows : List (RankValue × Row)) : List (List (RankValue × Row)) :=
  (sorted rows).splitBy fun a b => a.1.level b.1

/-! ## Sorting -/

theorem mem_sorted {a : RankValue × Row} : a ∈ sorted rows ↔ a ∈ rows :=
  (List.mergeSort_perm rows _).mem_iff

theorem sorted_falling (rows : List (RankValue × Row)) :
    (sorted rows).Pairwise fun a b => b.1.place ≤ a.1.place := by
  have falling := List.pairwise_mergeSort (fun a b c => RankValue.atLeast_trans a.1 b.1 c.1)
    (fun a b => RankValue.atLeast_total a.1 b.1) rows
  exact falling.imp fun h => by simpa [RankValue.atLeast] using h

/-- Sorting is stable: the rows with a value stay in their order. -/
theorem filter_sorted (rows : List (RankValue × Row)) (v : RankValue) :
    (sorted rows).filter (·.1 = v) = rows.filter (·.1 = v) := by
  have same : (rows.filter (·.1 = v)).Pairwise fun a b => a.1.atLeast b.1 = true := by
    refine List.pairwise_of_forall_mem_list fun a ha b hb => ?_
    simp only [List.mem_filter, decide_eq_true_eq] at ha hb
    simp [RankValue.atLeast, ha.2, hb.2]
  have kept := List.sublist_mergeSort (fun a b c => RankValue.atLeast_trans a.1 b.1 c.1)
    (fun a b => RankValue.atLeast_total a.1 b.1) same List.filter_sublist
  have inside := kept.filter (·.1 = v)
  simp only [List.filter_filter, Bool.and_self] at inside
  exact (inside.eq_of_length ((List.mergeSort_perm rows _).filter _).length_eq.symm).symm

/-! ## Splitting -/

/-- Level values are the same. -/
def Plain (rows : List (RankValue × Row)) : Prop :=
  ∀ a ∈ rows, ∀ b ∈ rows, a.1.level b.1 = true → a.1 = b.1

theorem flatten_splits (rows : List (RankValue × Row)) : (splits rows).flatten = sorted rows :=
  List.flatten_splitBy _ _

theorem mem_of_mem_splits {run : List (RankValue × Row)} (h : run ∈ splits rows)
    {a : RankValue × Row} (ha : a ∈ run) : a ∈ rows :=
  mem_sorted.mp (flatten_splits rows ▸ List.mem_flatten.mpr ⟨run, h, ha⟩)

/-- All rows of a run have the same value. -/
theorem eq_of_mem_splits (plain : Plain rows) {run : List (RankValue × Row)}
    (h : run ∈ splits rows) : ∀ a ∈ run, ∀ b ∈ run, a.1 = b.1 := by
  have neighbours := (List.isChain_of_mem_splitBy h).imp_of_mem_imp fun a b ha hb level =>
    plain a (mem_of_mem_splits h ha) b (mem_of_mem_splits h hb) level
  have values := ((List.isChain_map Prod.fst).mpr neighbours).pairwise
  intro a ha b hb
  exact values.forall_of_forall (fun _ _ => rfl) (List.mem_map_of_mem ha) (List.mem_map_of_mem hb)

/-- Where neighbouring runs differ in value, all later runs have smaller values. -/
theorem falling_of_change {runs : List (List (RankValue × Row))}
    (same : ∀ run ∈ runs, ∀ a ∈ run, ∀ b ∈ run, a.1 = b.1)
    (weak : runs.Pairwise fun run later => ∀ a ∈ run, ∀ b ∈ later, b.1.place ≤ a.1.place)
    (change : runs.IsChain fun run later => ∃ a ∈ run, ∃ b ∈ later, a.1 ≠ b.1) :
    runs.Pairwise fun run later => ∀ a ∈ run, ∀ b ∈ later, b.1.place < a.1.place := by
  induction runs with
  | nil => exact .nil
  | cons run later ih =>
      cases later with
      | nil => exact List.pairwise_singleton _ _
      | cons next later =>
          obtain ⟨⟨x, hx, y, hy, differ⟩, change⟩ := List.isChain_cons_cons.mp change
          obtain ⟨below, weak⟩ := List.pairwise_cons.mp weak
          have rest := ih (fun r hr => same r (List.mem_cons_of_mem _ hr)) weak change
          have first : ∀ a ∈ run, ∀ b ∈ next, b.1.place < a.1.place := by
            intro a ha b hb
            have le := below next List.mem_cons_self a ha b hb
            refine lt_of_le_of_ne le fun heq => differ ?_
            rw [same run List.mem_cons_self x hx a ha, ← RankValue.place_inj.mp heq]
            exact same next (List.mem_cons_of_mem _ List.mem_cons_self) b hb y hy
          refine List.pairwise_cons.mpr ⟨?_, rest⟩
          intro r hr a ha b hb
          rcases List.mem_cons.mp hr with rfl | hr
          · exact first a ha b hb
          · exact lt_of_le_of_lt ((List.pairwise_cons.mp weak).1 r hr y hy b hb) (first a ha y hy)

/-- Every run has larger values than the runs after it. -/
theorem splits_falling (plain : Plain rows) :
    (splits rows).Pairwise fun run later =>
      ∀ a ∈ run, ∀ b ∈ later, b.1.place < a.1.place := by
  have weak := (List.pairwise_flatten.mp (flatten_splits rows ▸ sorted_falling rows)).2
  refine falling_of_change (fun run => eq_of_mem_splits plain) weak ?_
  refine (List.isChain_getLast_head_splitBy _ _).imp fun run later => ?_
  rintro ⟨ha, hb, change⟩
  refine ⟨_, List.getLast_mem ha, _, List.head_mem hb, fun same => ?_⟩
  simp [RankValue.level, same] at change

/-- A run has all the rows with its value, in their order. -/
theorem eq_filter_of_mem_splits (plain : Plain rows) {run : List (RankValue × Row)}
    (h : run ∈ splits rows) {a : RankValue × Row} (ha : a ∈ run) :
    run = rows.filter (·.1 = a.1) := by
  have falling := splits_falling plain
  rw [← filter_sorted, ← flatten_splits]
  obtain ⟨earlier, later, split⟩ := List.append_of_mem h
  rw [split, List.pairwise_append, List.pairwise_cons] at falling
  obtain ⟨-, ⟨after, -⟩, before⟩ := falling
  have own : run.filter (·.1 = a.1) = run := by
    refine List.filter_eq_self.mpr fun b hb => ?_
    simpa using eq_of_mem_splits plain h b hb a ha
  have others {runs : List (List (RankValue × Row))}
      (differ : ∀ run' ∈ runs, ∀ b ∈ run', b.1 ≠ a.1) : runs.flatten.filter (·.1 = a.1) = [] := by
    simpa [List.filter_eq_nil_iff] using differ
  rw [split, List.flatten_append, List.flatten_cons, List.filter_append, List.filter_append, own,
    others, others, List.nil_append, List.append_nil]
  · intro run' mem b hb heq
    have := after run' mem a ha b hb
    simp [heq] at this
  · intro run' mem b hb heq
    have := before run' mem run List.mem_cons_self b hb a ha
    simp [heq] at this

/-! ## The runs of a block -/

variable {block : List Row} {value : Row → RankValue}

theorem exists_of_mem_runs (plain : Plain (block.map fun row => (value row, row))) {run : List Row}
    (h : run ∈ runs (block.map fun row => (value row, row))) :
    ∃ r ∈ run, run = block.filter (value · = value r) := by
  obtain ⟨pairs, mem, rfl⟩ := List.mem_map.mp h
  have filled : pairs ≠ [] := fun empty => List.nil_notMem_splitBy _ _ (empty ▸ mem)
  obtain ⟨a, ha⟩ := List.exists_mem_of_ne_nil _ filled
  obtain ⟨r, -, rfl⟩ := List.mem_map.mp (mem_of_mem_splits mem ha)
  refine ⟨r, List.mem_map_of_mem ha, ?_⟩
  rw [eq_filter_of_mem_splits plain mem ha, List.filter_map, List.map_map]
  exact List.map_id _

theorem runs_falling (plain : Plain (block.map fun row => (value row, row))) :
    (runs (block.map fun row => (value row, row))).Pairwise fun run later =>
      ∀ r ∈ run, ∀ s ∈ later, (value s).place < (value r).place := by
  have own {run : List (RankValue × Row)} (mem : run ∈ splits (block.map fun row => (value row, row)))
      {a : RankValue × Row} (ha : a ∈ run) : a.1 = value a.2 := by
    obtain ⟨r, -, rfl⟩ := List.mem_map.mp (mem_of_mem_splits mem ha)
    rfl
  refine List.pairwise_map.mpr ((splits_falling plain).imp_of_mem fun hrun hlater falling => ?_)
  intro r hr s hs
  obtain ⟨a, ha, rfl⟩ := List.mem_map.mp hr
  obtain ⟨b, hb, rfl⟩ := List.mem_map.mp hs
  rw [← own hrun ha, ← own hlater hb]
  exact falling a ha b hb

end Table

end Tourney
