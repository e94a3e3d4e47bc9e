import Tourney.Proofs.Resolution.Refusal
import Tourney.Proofs.Resolution.Termination
import Tourney.Proofs.Slot.Reading

/-!
# Reported cycles

A reference on a path was put there because the group of the one before it consults it. The path of
a reported cycle is cut where the last reference is written first. As no two references are written
alike, that is where the same reference was followed before, and the cycle is one of references that
consult each other (`Competition.cycle_of_resolve`).
-/

namespace Tourney

/-! ## What a group consults -/

namespace Group

/-- The slots that a group consults for a target. -/
inductive Consults (g : Group) : Target → TeamSlot → Prop
  | winner {id : Ident} {m : Match} {side : Side} :
      g.findMatch? id = some m → m.winnerSide = .ok side → Consults g (.winner id) (m.slot side)
  | loser {id : Ident} {m : Match} {side : Side} :
      g.findMatch? id = some m → m.loserSide = .ok side → Consults g (.loser id) (m.slot side)
  /-- A table is made of all matches but the friendly ones. -/
  | league {config : LeagueConfig} {n : Nat} {t : Target} {m : Match} (side : Side) :
      g.kind = .league config → g.isComplete = true → n ≠ 0 → t = .rank n ∨ t = .position n →
        m ∈ g.games → m.friendly = false → Consults g t (m.slot side)
  /-- The winners of a crossover have the odd positions. -/
  | odd {k : Nat} {m : Match} {side : Side} :
      g.kind = .crossover → g.isComplete = true → g.games[k]? = some m → m.winnerSide = .ok side →
        Consults g (.position (2 * k + 1)) (m.slot side)
  /-- The losers of a crossover have the even positions. -/
  | even {k : Nat} {m : Match} {side : Side} :
      g.kind = .crossover → g.isComplete = true → g.games[k]? = some m → m.loserSide = .ok side →
        Consults g (.position (2 * k + 2)) (m.slot side)
  | knockout {standing : List TeamSlot} {k : Nat} {s : TeamSlot} :
      g.kind = .knockout standing → g.isComplete = true → standing[k]? = some s →
        Consults g (.position (k + 1)) s

variable {g : Group} {r : Reference} {s : TeamSlot} {source : Source} {t : Target} {n : Nat}
  {config : LeagueConfig} {standing : List TeamSlot}

theorem Queries.consults_league (queries : g.Queries source s) (kind : g.kind = .league config)
    (hn : n ≠ 0) (asked : t = .rank n ∨ t = .position n)
    (pointed : g.leagueSource r config n = .ok source) : g.Consults t s := by
  obtain ⟨complete, rfl⟩ := leagueSource_eq_ok.mp pointed
  cases queries with
  | row counted side =>
      obtain ⟨played, counts⟩ := List.mem_filter.mp counted
      exact .league side kind complete hn asked played (by simpa using counts)

theorem Queries.consults_crossover (queries : g.Queries source s) (kind : g.kind = .crossover)
    (hn : n ≠ 0) (pointed : g.crossoverSource r n = .ok source) :
    g.Consults (.position n) s := by
  obtain ⟨m, found, complete, decided⟩ := crossoverSource_eq_ok.mp pointed
  obtain ⟨side, which, rfl⟩ := decidedSlot_eq_ok.mp decided
  cases queries
  by_cases odd : n % 2 = 1
  · rw [if_pos odd] at which
    have number : n = 2 * ((n - 1) / 2) + 1 := by omega
    exact number ▸ .odd kind complete found which
  · rw [if_neg odd] at which
    have number : n = 2 * ((n - 1) / 2) + 2 := by omega
    exact number ▸ .even kind complete found which

theorem Queries.consults_knockout (queries : g.Queries source s)
    (kind : g.kind = .knockout standing) (hn : n ≠ 0)
    (pointed : g.knockoutSource r standing n = .ok source) : g.Consults (.position n) s := by
  obtain ⟨s', found, complete, rfl⟩ := knockoutSource_eq_ok.mp pointed
  cases queries
  exact Nat.sub_one_add_one hn ▸ .knockout kind complete found

theorem Queries.consults (queries : g.Queries source s) (pointed : g.source r = .ok source) :
    g.Consults r.target s := by
  obtain ⟨stage, group, target⟩ := r
  cases target with
  | winner id =>
      obtain ⟨m, found, -, decided⟩ := matchSource_eq_ok.mp pointed
      obtain ⟨side, won, rfl⟩ := decidedSlot_eq_ok.mp decided
      cases queries
      exact .winner found won
  | loser id =>
      obtain ⟨m, found, -, decided⟩ := matchSource_eq_ok.mp pointed
      obtain ⟨side, lost, rfl⟩ := decidedSlot_eq_ok.mp decided
      cases queries
      exact .loser found lost
  | rank n =>
      simp only [Group.source] at pointed
      split at pointed
      · cases pointed
      · next hn =>
          split at pointed
          · next kind => exact queries.consults_league kind hn (.inl rfl) pointed
          · cases pointed
  | position n =>
      simp only [Group.source] at pointed
      split at pointed
      · cases pointed
      · next hn =>
          split at pointed
          · next kind => exact queries.consults_league kind hn (.inr rfl) pointed
          · next kind => exact queries.consults_crossover kind hn pointed
          · next kind => exact queries.consults_knockout kind hn pointed

theorem source_ne_cycle {texts : List String} : g.source r ≠ .error (.cycle texts) := by
  intro h
  rcases refuses_or_lacks_of_source (c := .new "") h with refuses | ⟨id, lacks⟩ | lacks
  · cases refuses
  · cases lacks
  · cases lacks

end Group

namespace Competition

variable {c : Competition} {g : Group} {path : List Reference} {r : Reference} {s : TeamSlot}
  {texts : List String}

/-- The group of a reference consults another reference for it. -/
def Consults (c : Competition) (q next : Reference) : Prop :=
  ∃ g, c.getGroup q.stage q.group = .ok g ∧ g.Consults q.target (.reference next)

/-! ## Paths -/

/-- How the references on a path got there. -/
structure Trail (c : Competition) (path : List Reference) (r : Reference) : Prop where
  nodup : path.Nodup
  found : ∀ q ∈ path, ∃ g, c.getGroup q.stage q.group = .ok g
  chain : (path ++ [r]).IsChain c.Consults

theorem trail_nil (r : Reference) : c.Trail [] r :=
  ⟨.nil, by simp, .singleton r⟩

theorem Trail.next {next : Reference} (trail : c.Trail path r) (fresh : r ∉ path)
    (found : c.getGroup r.stage r.group = .ok g) (consults : g.Consults r.target (.reference next)) :
    c.Trail (path ++ [r]) next where
  nodup := by
    rw [← List.concat_eq_append]
    exact trail.nodup.concat fresh
  found := List.forall_mem_append.mpr ⟨trail.found, List.forall_mem_singleton.mpr ⟨g, found⟩⟩
  chain := by
    refine trail.chain.append (.singleton next) fun q last next' first => ?_
    obtain rfl : r = q := by simpa using last
    obtain rfl : next = next' := by simpa using first
    exact ⟨g, found, consults⟩

/-! ## Cycles -/

/-- References to groups that each consult the next one, from one reference back to it. -/
structure IsCycle (c : Competition) (cycle : List Reference) : Prop where
  long : 2 ≤ cycle.length
  closed : cycle.head? = cycle.getLast?
  nodup : cycle.dropLast.Nodup
  found : ∀ q ∈ cycle, ∃ g, c.getGroup q.stage q.group = .ok g
  chain : cycle.IsChain c.Consults

/-- The path of a cycle is cut where the reference itself is on it. -/
theorem cycleError_eq_cut (path : List Reference) (r : Reference) :
    cycleError path r = .cycle (((path ++ [r]).drop ((path ++ [r]).idxOf r)).map (·.text)) := by
  have inj : Function.Injective Reference.text := fun _ _ => Reference.text_injective
  rw [cycleError, idxOf_map_of_injective inj, List.map_drop]

theorem cycleError_eq {before after : List Reference} (fresh : r ∉ before) :
    cycleError (before ++ r :: after) r = .cycle ((r :: after ++ [r]).map (·.text)) := by
  have place : (before ++ (r :: after ++ [r])).idxOf r = before.length := by
    rw [List.idxOf_append_of_notMem fresh]
    simp
  rw [cycleError_eq_cut, List.append_assoc, place, List.drop_left]

theorem Trail.cycle (trail : c.Trail path r) (onPath : r ∈ path) :
    ∃ cycle, c.IsCycle cycle ∧ cycleError path r = .cycle (cycle.map (·.text)) := by
  obtain ⟨before, after, rfl, fresh⟩ := List.eq_append_cons_of_mem onPath
  have found : ∀ q ∈ r :: after, ∃ g, c.getGroup q.stage q.group = .ok g :=
    fun q mem => trail.found q (List.mem_append_right before mem)
  refine ⟨r :: after ++ [r], ⟨by simp, ?_, ?_, ?_, ?_⟩, cycleError_eq fresh⟩
  · rw [List.getLast?_concat]
    rfl
  · rw [List.dropLast_concat]
    exact trail.nodup.of_append_right
  · refine List.forall_mem_append.mpr ⟨found, List.forall_mem_singleton.mpr ?_⟩
    exact found r List.mem_cons_self
  · have chain := trail.chain
    rw [List.append_assoc] at chain
    exact chain.right_of_append

theorem cycle_of_follow (trail : c.Trail path r) (h : c.follow path r = .error (.cycle texts)) :
    ∃ cycle, c.IsCycle cycle ∧ cycle.map (·.text) = texts := by
  induction path, r using follow_induct (c := c) with
  | step path r ih =>
      rcases follow_eq_error.mp h with
        ⟨onPath, cut⟩ | ⟨fresh, missing | ⟨g, found, refused | ⟨source, pointed, failed⟩⟩⟩
      · obtain ⟨cycle, isCycle, written⟩ := trail.cycle onPath
        exact ⟨cycle, isCycle, Error.cycle.inj (written.symm.trans cut)⟩
      · rcases getGroup_eq_error missing with unknown | unknown <;> cases unknown
      · exact absurd refused Group.source_ne_cycle
      · rcases answerVia_lookupVia_eq_error failed with ⟨next, queries, hn⟩ | ⟨_, _, missing⟩
        · have onward := trail.next fresh found (queries.consults pointed)
          exact ih g next fresh found (queries.reads pointed) onward hn
        · cases missing

theorem isCycle_of_resolve (h : c.resolve s = .error (.cycle texts)) :
    ∃ cycle, c.IsCycle cycle ∧ cycle.map (·.text) = texts := by
  cases s with
  | literal id =>
      rw [resolve_literal] at h
      cases registered_eq_error h
  | reference r => exact cycle_of_follow (trail_nil r) h

/-- A cycle that is reported is one. Its first entry is its last, no other entry occurs twice, and
the entries are written for references to groups that each consult the next one. -/
theorem cycle_of_resolve (h : c.resolve s = .error (.cycle texts)) :
    2 ≤ texts.length ∧ texts.head? = texts.getLast? ∧ texts.dropLast.Nodup ∧
      ∃ cycle : List Reference, cycle.map (·.text) = texts ∧
        (∀ q ∈ cycle, ∃ g, c.getGroup q.stage q.group = .ok g) ∧ cycle.IsChain c.Consults := by
  obtain ⟨cycle, ⟨long, closed, nodup, found, chain⟩, rfl⟩ := isCycle_of_resolve h
  refine ⟨by simpa using long, ?_, ?_, cycle, rfl, found, chain⟩
  · rw [List.head?_map, List.getLast?_map, closed]
  · rw [← List.map_dropLast]
    exact nodup.map fun _ _ => Reference.text_injective

end Competition

namespace TangledCup

open SmallCup (opener)

/-- The winner of each match is the winner of the other one. -/
theorem tangled_cycle :
    cup.resolve (.reference (winner opener)) = .error error ∧
      ∃ cycle : List Reference,
        cycle.map (·.text) = [(winner opener).text, (winner rematch).text, (winner opener).text] ∧
          cycle.IsChain cup.Consults := by
  have reported : cup.resolve (.reference (winner opener)) = .error error := by cbv
  obtain ⟨-, -, -, cycle, written, -, chain⟩ := Competition.cycle_of_resolve reported
  exact ⟨reported, cycle, written, chain⟩

end TangledCup

end Tourney
