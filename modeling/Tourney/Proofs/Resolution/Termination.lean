import Mathlib.Data.List.Dedup
import Mathlib.Data.List.Perm.Subperm
import Tourney.Proofs.Competition.Structure
import Tourney.Proofs.Resolution.Reads
import Tourney.Resolution.Resolver

/-!
# Resolvers finish

Whatever refers to whatever in a competition, the path of a resolver holds no reference twice, and
all references below the outermost are held by slots (`Competition.Nested`). So the path is never
longer than the number of different references and one more. A resolver that may go that deep never
gives up, and it finds what the rule of following finds (`Resolver.resolve_finishes`).
-/

namespace Tourney

variable {path : List Reference}

/-- What is put on the path is taken off again. -/
theorem Pass.gives_within {α : Type} {r : Reference} {pass : Pass α} {answer : Except Error α}
    (h : Gives pass (path ++ [r]) answer) : Gives (within r pass) path answer := by
  let inner := (ExceptT.run pass).run (path ++ [r])
  have run : (ExceptT.run (within r pass)).run path = (inner.1, inner.2.dropLast) := rfl
  have inside : inner = (answer, path ++ [r]) := h
  rw [Gives, run, inside, List.dropLast_concat]

/-! ## Following one reference -/

namespace Competition

open Pass

variable {c : Competition} {g : Group} {r : Reference} {source : Group.Source}

theorem gives_fixtureVia {lookup : TeamSlot → Pass Ident} {answer : TeamSlot → Except Error Ident}
    {m : Match} (each : ∀ side, Gives (lookup (m.slot side)) path (answer (m.slot side))) :
    Gives (fixtureVia lookup m) path (fixtureVia answer m) := by
  refine gives_bind (each .home) fun home _ => ?_
  exact gives_bind (each .away) fun away _ => rfl

theorem gives_lookupVia {follow : Reference → Pass Ident} {answer : Reference → Except Error Ident}
    {s : TeamSlot} (each : ∀ r, s = .reference r → Gives (follow r) path (answer r)) :
    Gives (c.lookupVia follow s) path (c.lookupVia answer s) := by
  cases s with
  | literal id =>
      rw [lookupVia_literal]
      exact gives_ofExcept _
  | reference r => exact each r rfl

theorem gives_answerVia {lookup : TeamSlot → Pass Ident} {answer : TeamSlot → Except Error Ident}
    (each : ∀ s, g.Queries source s → Gives (lookup s) path (answer s)) :
    Gives (answerVia g lookup source) path (answerVia g answer source) := by
  cases source with
  | slot s => exact each s (.slot s)
  | row config n =>
      refine gives_bind (gives_mapM fun m counted => gives_fixtureVia fun side => ?_)
        fun fixtures _ => ?_
      · exact each _ (.row counted side)
      · rw [ofExcept_eq]
        exact gives_ofExcept _

/-- Follows a reference, given how to follow those that its group reads. -/
def followOnce (c : Competition) (inner : Reference → Pass Ident) (r : Reference) : Pass Ident := do
  let path ← get
  if r ∈ path then throw (cycleError path r)
  let g ← MonadExcept.ofExcept (c.getGroup r.stage r.group)
  within r do
    let source ← MonadExcept.ofExcept (g.source r)
    answerVia g (c.lookupVia inner) source

/-- A reference is followed as the references are that its group reads, one step further along the
path. -/
theorem gives_followOnce {inner : Reference → Pass Ident}
    (each : ∀ g next, r ∉ path → c.getGroup r.stage r.group = .ok g →
      g.Reads r.target (.reference next) →
      Gives (inner next) (path ++ [r]) (c.follow (path ++ [r]) next)) :
    Gives (c.followOnce inner r) path (c.follow path r) := by
  rw [follow_eq]
  refine gives_get_bind ?_
  by_cases onPath : r ∈ path
  · simp only [if_pos onPath]
    rfl
  · simp only [if_neg onPath]
    refine gives_bind (gives_ofExcept _) fun g found => ?_
    refine gives_within (gives_bind (gives_ofExcept _) fun source pointed => ?_)
    refine gives_answerVia fun s queries => ?_
    exact gives_lookupVia fun next held =>
      each g next onPath found (held ▸ queries.reads pointed)

/-! ## Nesting -/

/-- The number of different references in the competition. -/
def distinct (c : Competition) : Nat :=
  c.references.dedup.length

/-- Where a reference is followed, no reference is on the path twice, all but the outermost are held
by slots, and the path is longer than their number by at most one. -/
def Nested (c : Competition) (path : List Reference) (r : Reference) : Prop :=
  path.Nodup ∧ (∀ q ∈ (path ++ [r]).tail, q ∈ c.references) ∧ path.length ≤ c.distinct + 1

instance (c : Competition) (path : List Reference) (r : Reference) : Decidable (c.Nested path r) :=
  inferInstanceAs (Decidable (_ ∧ _ ∧ _))

theorem nested_nil (r : Reference) : c.Nested [] r :=
  ⟨.nil, by simp, by simp⟩

/-- A path without repetition has at most as many references below its first as there are. -/
theorem length_le_distinct (nodup : path.Nodup) (held : ∀ q ∈ path.tail, q ∈ c.references) :
    path.length ≤ c.distinct + 1 := by
  have sub : path.tail ⊆ c.references.dedup := fun q mem => List.mem_dedup.mpr (held q mem)
  have short := (nodup.tail.subperm sub).length_le
  rw [List.length_tail] at short
  unfold distinct
  omega

theorem Nested.next {next : Reference} (nested : c.Nested path r) (fresh : r ∉ path)
    (held : next ∈ c.references) : c.Nested (path ++ [r]) next := by
  obtain ⟨nodup, below, -⟩ := nested
  have nodup' : (path ++ [r]).Nodup := by
    rw [← List.concat_eq_append]
    exact nodup.concat fresh
  refine ⟨nodup', fun q mem => ?_, length_le_distinct nodup' below⟩
  rw [List.tail_append_of_ne_nil (by simp)] at mem
  rcases List.mem_append.mp mem with mem | mem
  · exact below q mem
  · obtain rfl := List.mem_singleton.mp mem
    exact held

/-- How many references can still join the path, each counted once. -/
def unvisited (c : Competition) (path : List Reference) (r : Reference) : Nat :=
  c.references.dedup.countP (· ∉ path) + if r ∈ c.references.dedup then 0 else 1

theorem unvisited_lt {next : Reference} (fresh : r ∉ path) (held : next ∈ c.references) :
    c.unvisited (path ++ [r]) next < c.unvisited path r :=
  countP_notMem_add_lt fresh (List.mem_dedup.mpr held)

theorem unvisited_lt_of_distinct {depth : Nat} (enough : c.distinct + 2 ≤ depth) :
    c.unvisited path r < depth := by
  have : c.references.dedup.countP (· ∉ path) ≤ c.distinct := List.countP_le_length
  unfold unvisited
  split <;> omega

/-- What follows a reference by the rule if it follows those below it by the rule, does so wherever it
may go deep enough. `Held` is what may be relied on along the way. -/
theorem gives_follow_of_step (Held : List Reference → Reference → Prop)
    {visit : Nat → Reference → Pass Ident} {depth : Nat}
    (next : ∀ path r next, Held path r → r ∉ path → next ∈ c.references → Held (path ++ [r]) next)
    (step : ∀ depth path r, Held path r →
      (∀ g next, r ∉ path → c.getGroup r.stage r.group = .ok g →
        g.Reads r.target (.reference next) →
        Gives (visit depth next) (path ++ [r]) (c.follow (path ++ [r]) next)) →
      Gives (visit (depth + 1) r) path (c.follow path r))
    (start : Held path r) (enough : c.unvisited path r < depth) :
    Gives (visit depth r) path (c.follow path r) := by
  induction depth generalizing path r with
  | zero => exact absurd enough (Nat.not_lt_zero _)
  | succ depth ih =>
      refine step depth path r start fun g onward fresh found reads => ?_
      have held : onward ∈ c.references :=
        mem_references (mem_slots_of_getGroup found reads.mem_slots)
      have closer := unvisited_lt fresh held
      exact ih (next path r onward start fresh held) (by omega)

/-- What follows references like the resolver wherever it is nested comes to the answers of the rule
by which references are followed, if it may go deep enough. -/
theorem gives_follow {visit : Nat → Reference → Pass Ident} {depth : Nat}
    (like : ∀ depth path r answer, c.Nested path r →
      Gives (c.followOnce (visit depth) r) path answer → Gives (visit (depth + 1) r) path answer)
    (nested : c.Nested path r) (enough : c.unvisited path r < depth) :
    Gives (visit depth r) path (c.follow path r) :=
  gives_follow_of_step c.Nested (fun _ _ _ nested fresh held => nested.next fresh held)
    (fun depth path r nested inner => like depth path r _ nested (gives_followOnce inner))
    nested enough

end Competition

namespace Resolver

open Competition

variable {c : Competition} {s : TeamSlot} {depth : Nat}

theorem visit_succ (c : Competition) (depth : Nat) (r : Reference) :
    visit c (depth + 1) r = c.followOnce (visit c depth) r :=
  rfl

/-- Follows a reference like the resolver where it is nested. Where it is not, or may not go deeper,
something else is done instead. -/
def visitNested (c : Competition) (other : Reference → Pass Ident) : Nat → Reference → Pass Ident
  | 0, r => other r
  | depth + 1, r => do
      let path ← get
      if c.Nested path r then c.followOnce (visitNested c other depth) r else other r

theorem distinct_le_depth (c : Competition) : c.distinct + 2 ≤ Resolver.depth c := by
  have := (List.dedup_sublist c.references).length_le
  exact Nat.add_le_add_right this 2

theorem run_eq_of_gives {α : Type} {resolver : Resolver} {pass : Pass α} {answer : Except Error α}
    (gives : Gives pass resolver.path answer) : resolver.run pass = (answer, resolver) := by
  unfold Gives at gives
  simp only [run, gives]

theorem run_of_gives {visit : Reference → Pass Ident}
    (each : ∀ r, Gives (visit r) [] (c.follow [] r)) :
    (new c).run (c.lookupVia visit s) = (c.resolve s, new c) :=
  run_eq_of_gives (gives_lookupVia fun r _ => each r)

/-- Whatever refers to whatever in a competition, to resolve a slot comes to an end. A resolver that
may go two references deeper than there are different ones, or any deeper, finds the answer and is
left as it was. What it would do instead where it may not go deeper, where the path held a reference
twice or where it came to one that no slot holds does not matter: it never gets there. -/
theorem resolve_finishes (c : Competition) (s : TeamSlot) (enough : c.distinct + 2 ≤ depth)
    (other : Reference → Pass Ident) :
    (new c).resolve s = (c.resolve s, new c) ∧
      (new c).run (c.lookupVia (visit c depth) s) = (c.resolve s, new c) ∧
      (new c).run (c.lookupVia (visitNested c other depth) s) = (c.resolve s, new c) := by
  have visits {depth : Nat} (enough : c.distinct + 2 ≤ depth) :
      (new c).run (c.lookupVia (visit c depth) s) = (c.resolve s, new c) := by
    refine run_of_gives fun r => ?_
    refine gives_follow (fun depth path r answer _ h => ?_) (nested_nil r)
      (unvisited_lt_of_distinct enough)
    rwa [visit_succ]
  refine ⟨visits (distinct_le_depth c), visits enough, run_of_gives fun r => ?_⟩
  · refine gives_follow (fun depth path r answer nested h => ?_) (nested_nil r)
      (unvisited_lt_of_distinct enough)
    refine gives_get_bind ?_
    rwa [if_pos nested]

end Resolver

namespace TangledCup

open SmallCup (teamA teamB pools pool opener)

def rematch : Ident := ⟨"M2", by decide, by decide, List.all_eq_true.mp rfl⟩

def winner (id : Ident) : Reference := ⟨pools, pool, .winner id⟩

/-- A match that was won by the winner of another one. -/
def wonBy (rival id : Ident) (away : Ident) : Match :=
  { Match.new id (.reference (winner rival)) (.literal away) with
    scores := [⟨25, 20⟩, ⟨25, 20⟩, ⟨25, 20⟩]
    state := .complete ⟨.wonBy .home, ⟨3, 0⟩⟩ }

/-- Both matches were won by the winner of the other one. -/
def crossover : Group :=
  { Group.new pool .crossover .sets with
    entries := [.fixture (wonBy rematch opener teamA), .fixture (wonBy opener rematch teamB)] }

def cup : Competition :=
  { Competition.new "Tangled cup" with
    teams := [.new teamA "A", .new teamB "B"]
    stages := [{ Stage.new pools with groups := [crossover] }] }

def error : Error :=
  .cycle ["\x7bL:P:M1:winner\x7d", "\x7bL:P:M2:winner\x7d", "\x7bL:P:M1:winner\x7d"]

theorem tangled_finishes :
    cup.distinct + 2 ≤ 4 ∧
      (Resolver.new cup).resolve (.reference (winner opener)) = (.error error, .new cup) ∧
      (Resolver.new cup).run
        (cup.lookupVia (Resolver.visitNested cup (fun _ => pure teamA) 4)
          (.reference (winner opener))) = (.error error, .new cup) := by
  have enough : cup.distinct + 2 ≤ 4 := by decide
  have cycle : cup.resolve (.reference (winner opener)) = .error error := by cbv
  obtain ⟨resolved, -, nested⟩ :=
    Resolver.resolve_finishes cup (.reference (winner opener)) enough fun _ => pure teamA
  rw [cycle] at resolved nested
  exact ⟨enough, resolved, nested⟩

end TangledCup

end Tourney
