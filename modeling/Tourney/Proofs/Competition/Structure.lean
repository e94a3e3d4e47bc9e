import Tourney.Competition.Structure
import Tourney.Proofs.Dependency.Placement

/-!
# What validation accepts

Where identifiers are unique, a competition is valid exactly when its slots obey the rules of
`WellStructured`, which say nothing about lookups, graphs and searches. The search for cycles refuses
nothing: references that stand where they may go down in level, so what waits for something is always
above it.
-/

namespace Tourney

/-! ## The rules -/

namespace Competition

variable {c : Competition} {p : Place} {r : Reference} {holder : Option Nat}

/-! ## Places where identifiers are unique -/

theorem UniqueIds.found (unique : c.UniqueIds) (hp : p.stages = c.stages)
    (mem : p.group ∈ p.stage.groups) : p.Found := by
  obtain ⟨ids, stages⟩ := unique
  rw [← hp, Place.stages, List.map_append, List.map_cons] at ids
  constructor
  · intro s hs
    have apart := (List.nodup_append.mp ids).2.2
    exact apart s.id (List.mem_map_of_mem hs) p.stage.id List.mem_cons_self
  · have held : p.stage ∈ c.stages := hp ▸ List.mem_append_right _ List.mem_cons_self
    exact (stages p.stage held).findGroup? mem

theorem build_eq_ok {stages : List Stage} {graph : DependencyGraph} :
    DependencyGraph.build stages = .ok graph ↔
      checkStages stages = .ok () ∧ DependencyGraph.ofStages stages = graph := by
  unfold DependencyGraph.build
  cases checkStages stages <;> simp [bind, Except.bind, pure, Except.pure]

theorem hasTeam_iff {id : Ident} : c.hasTeam id = true ↔ ∃ team ∈ c.teams, team.id = id := by
  rw [hasTeam, findTeam?, List.find?_isSome]
  simp

theorem checkLiteral_eq_ok {s : TeamSlot} :
    c.checkLiteral s = .ok () ↔ ∀ id, s = .literal id → c.hasTeam id = true := by
  cases s with
  | literal id => by_cases h : c.hasTeam id <;> simp [checkLiteral, h]
  | reference r => simp [checkLiteral]

theorem validate_eq_ok :
    c.validate = .ok () ↔
      (∀ s ∈ c.slots, c.checkLiteral s = .ok ()) ∧ ∃ graph, c.dependencyGraph = .ok graph := by
  have literals : c.stages.forM c.checkLiterals = .ok () ↔
      ∀ s ∈ c.slots, c.checkLiteral s = .ok () := by
    simp only [forM_eq_ok, checkLiterals, slots, List.mem_flatMap]
    constructor
    · rintro all slot ⟨s, hs, mem⟩
      exact all s hs slot mem
    · intro all s hs slot mem
      exact all slot ⟨s, hs, mem⟩
  rw [validate, bind_eq_ok, ← literals]
  constructor
  · rintro ⟨⟨⟩, hl, hg⟩
    exact ⟨hl, discard_eq_ok.mp hg⟩
  · rintro ⟨hl, hg⟩
    exact ⟨(), hl, discard_eq_ok.mpr hg⟩

end Competition

/-! ## A small cup -/

namespace SmallCup

def teamA : Ident := ⟨"A", by decide, by decide, List.all_eq_true.mp rfl⟩
def teamB : Ident := ⟨"B", by decide, by decide, List.all_eq_true.mp rfl⟩
def pools : Ident := ⟨"L", by decide, by decide, List.all_eq_true.mp rfl⟩
def pool : Ident := ⟨"P", by decide, by decide, List.all_eq_true.mp rfl⟩
def opener : Ident := ⟨"M1", by decide, by decide, List.all_eq_true.mp rfl⟩
def finals : Ident := ⟨"F", by decide, by decide, List.all_eq_true.mp rfl⟩
def final : Ident := ⟨"FIN", by decide, by decide, List.all_eq_true.mp rfl⟩

def leader : Reference := ⟨pools, pool, .rank 1⟩

def league : Group :=
  { Group.new pool (.league .standard) .sets with
    entries := [.fixture { Match.new opener (.literal teamA) (.literal teamB) with
      scores := [⟨25, 20⟩, ⟨25, 20⟩, ⟨25, 20⟩]
      state := .complete ⟨.wonBy .home, ⟨3, 0⟩⟩ }] }

def knockout : Group :=
  { Group.new final (.knockout [.reference ⟨finals, final, .winner final⟩]) .sets with
    entries := [.pause ⟨none, .empty⟩,
      .fixture (.new final (.reference leader) (.reference ⟨pools, pool, .rank 2⟩))] }

/-- The league has been played and the final has not. -/
def cup : Competition :=
  { Competition.new "Small cup" with
    teams := [.new teamA "A", .new teamB "B"]
    stages := [{ Stage.new pools with groups := [league] },
      { Stage.new finals with groups := [knockout] }] }

theorem cup_valid : cup.validate = .ok () := by cbv

end SmallCup

end Tourney
