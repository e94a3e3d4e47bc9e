import Tourney.Document.Building
import Tourney.Proofs.Competition.Recording
import Tourney.Proofs.Competition.Structure
import Tourney.Proofs.Match.Sides
import Tourney.Proofs.Resolution.Reads

/-!
# The teams of a decided match

The winner and the loser of a match are the teams that its own two slots lead to, one each: a
reference that leads somewhere along a path leads there along any part of the path, so it does not
matter that the slots are looked up on the way (`Competition.follow_of_subset`). Nothing keeps the
two slots of a match apart. Where they lead to the same team, that team is both the winner and the
loser, and nowhere else (`Competition.outcome_teams`).
-/

namespace Tourney

/-! ## Matches -/

namespace Match

variable {m m' : Match} {side : Side}

theorem slot_eq_of_clear (h : m.clear = m'.clear) (side : Side) : m.slot side = m'.slot side :=
  (congrArg (slot · side) h : m.clear.slot side = m'.clear.slot side)

end Match

namespace Competition

variable {c : Competition} {r : Reference} {path path' : List Reference} {t w l : Ident}
  {stage group id : Ident} {m : Match}

/-! ## Paths -/

/-- A reference that leads to a team along a path leads to it along any part of the path. -/
theorem follow_of_subset (sub : path' ⊆ path) (h : c.follow path r = .ok t) :
    c.follow path' r = .ok t := by
  induction path, r using follow_induct (c := c) generalizing path' t with
  | step path r ih =>
      -- What is not on a path is not on a part of it, so the same group is asked the same.
      obtain ⟨fresh, g, found, source, pointed, answer⟩ := follow_eq_ok.mp h
      refine follow_eq_ok.mpr ⟨fun mem => fresh (sub mem), g, found, source, pointed, ?_⟩
      refine answerVia_ok_of_ok (fun s queries t ht => ?_) answer
      cases s with
      | literal id => exact ht
      | reference next =>
          have longer : path' ++ [r] ⊆ path ++ [r] :=
            List.append_subset.mpr
              ⟨List.subset_append_of_subset_left _ sub, List.subset_append_right _ _⟩
          exact ih g next fresh found (queries.reads pointed) longer ht

theorem resolve_of_lookupVia {s : TeamSlot} (h : c.lookupVia (c.follow path) s = .ok t) :
    c.resolve s = .ok t := by
  cases s with
  | literal id => exact h
  | reference r => exact follow_of_subset (List.nil_subset path) h

/-! ## Outcomes -/

/-- A reference to the outcome of a match leads where the slot of the decided side leads. -/
theorem resolve_of_outcome {side : Match → Except Error Side}
    (asked : ∀ g : Group, g.source r = g.matchSource r id side)
    (h : c.resolve (.reference r) = .ok t) :
    ∃ m d, c.getMatch r.stage r.group id = .ok m ∧ side m = .ok d ∧ c.resolve (m.slot d) = .ok t := by
  obtain ⟨-, g, found, source, pointed, answer⟩ := follow_eq_ok.mp h
  rw [asked] at pointed
  obtain ⟨m, hm, -, decided⟩ := Group.matchSource_eq_ok.mp pointed
  obtain ⟨d, hd, rfl⟩ := Group.decidedSlot_eq_ok.mp decided
  have get : c.getMatch r.stage r.group id = .ok m :=
    bind_eq_ok.mpr ⟨g, found, Group.getMatch_eq_ok.mpr hm⟩
  exact ⟨m, d, get, hd, resolve_of_lookupVia answer⟩

/-- After any operations the match at an address is the declared one, but for what is recorded. -/
theorem clear_eq_of_run {ops : List ScoreOp} {m' : Match}
    (declared : c.getMatch stage group id = .ok m)
    (current : (ScoreOp.run ops c).getMatch stage group id = .ok m') : m.clear = m'.clear := by
  have alike : c.Alike (fun _ _ _ _ => True) (ScoreOp.run ops c) :=
    (Alike.refl (fun _ _ _ => trivial) c).run fun _ _ _ _ _ _ => trivial
  obtain ⟨g, hg, hm⟩ := bind_eq_ok.mp declared
  obtain ⟨g', hg', hm'⟩ := bind_eq_ok.mp current
  rw [Group.getMatch_eq_ok] at hm hm'
  rcases alike.getGroup stage group with ⟨e, none, -⟩ | ⟨g₁, g₂, hg₁, hg₂, -, groups⟩
  · simp [none] at hg
  obtain rfl := Except.ok.inj (hg.symm.trans hg₁)
  obtain rfl := Except.ok.inj (hg'.symm.trans hg₂)
  rcases groups.findMatch? id with ⟨none, -⟩ | ⟨m₁, m₂, hm₁, hm₂, clear, -⟩
  · simp [none] at hm
  obtain rfl := Option.some.inj (hm.symm.trans hm₁)
  obtain rfl := Option.some.inj (hm'.symm.trans hm₂)
  exact clear

/-- Whatever is recorded, the winner and the loser of a match are the teams that its two slots, as
they were declared, lead to, by the sides that won and lost. They are one and the same team exactly
if the two slots lead to the same team. -/
theorem outcome_teams {ops : List ScoreOp} (declared : c.getMatch stage group id = .ok m)
    (won : (ScoreOp.run ops c).resolve (.reference ⟨stage, group, .winner id⟩) = .ok w)
    (lost : (ScoreOp.run ops c).resolve (.reference ⟨stage, group, .loser id⟩) = .ok l) :
    ∃ m' side, (ScoreOp.run ops c).getMatch stage group id = .ok m' ∧ m'.winnerSide = .ok side ∧
      (ScoreOp.run ops c).resolve (m.slot side) = .ok w ∧
      (ScoreOp.run ops c).resolve (m.slot side.opposite) = .ok l ∧
      (w = l ↔ (ScoreOp.run ops c).resolve m.home = (ScoreOp.run ops c).resolve m.away) := by
  obtain ⟨m', side, current, winner, hw⟩ := resolve_of_outcome (fun _ => rfl) won
  obtain ⟨m₂, other, current₂, loser, hl⟩ := resolve_of_outcome (fun _ => rfl) lost
  obtain rfl := Except.ok.inj (current.symm.trans current₂)
  obtain rfl := Match.eq_opposite_of_sides winner loser
  have clear := clear_eq_of_run declared current
  rw [← Match.slot_eq_of_clear clear] at hw hl
  refine ⟨m', side, current, winner, hw, hl, ?_⟩
  cases side with
  | home =>
      simp only [Match.slot, Side.opposite] at hw hl
      rw [hw, hl, Except.ok.injEq]
  | away =>
      simp only [Match.slot, Side.opposite] at hw hl
      rw [hw, hl, Except.ok.injEq, eq_comm]

end Competition

namespace SmallCup

/-- The opener is recorded again, and then its score is refused. -/
def openerOps : List ScoreOp :=
  [⟨pools, pool, opener, .record [⟨20, 25⟩, ⟨20, 25⟩, ⟨20, 25⟩]⟩, ⟨pools, pool, opener, .record []⟩]

def overturnedLeague : Group :=
  { league with
    entries := [.fixture { Match.new opener (.literal teamA) (.literal teamB) with
      scores := [⟨20, 25⟩, ⟨20, 25⟩, ⟨20, 25⟩]
      state := .complete ⟨.wonBy .away, ⟨0, 3⟩⟩ }] }

def openerFixture : Match :=
  { Match.new opener (.literal teamA) (.literal teamB) with
    scores := [⟨25, 20⟩, ⟨25, 20⟩, ⟨25, 20⟩]
    state := .complete ⟨.wonBy .home, ⟨3, 0⟩⟩ }

theorem resolve_opener_winner :
    (ScoreOp.run openerOps cup).resolve (.reference ⟨pools, pool, .winner opener⟩) = .ok teamB :=
  Competition.follow_eq_ok.mpr
    ⟨List.not_mem_nil, overturnedLeague, rfl, .slot (.literal teamB), rfl, rfl⟩

theorem resolve_opener_loser :
    (ScoreOp.run openerOps cup).resolve (.reference ⟨pools, pool, .loser opener⟩) = .ok teamA :=
  Competition.follow_eq_ok.mpr
    ⟨List.not_mem_nil, overturnedLeague, rfl, .slot (.literal teamA), rfl, rfl⟩

theorem opener_outcome_teams :
    cup.getMatch pools pool opener = .ok openerFixture ∧
      (ScoreOp.run openerOps cup).resolve (.reference ⟨pools, pool, .winner opener⟩) = .ok teamB ∧
      (ScoreOp.run openerOps cup).resolve (.reference ⟨pools, pool, .loser opener⟩) = .ok teamA ∧
      ∃ m side, (ScoreOp.run openerOps cup).getMatch pools pool opener = .ok m ∧
        m.winnerSide = .ok side ∧
        (ScoreOp.run openerOps cup).resolve (openerFixture.slot side) = .ok teamB ∧
        (ScoreOp.run openerOps cup).resolve (openerFixture.slot side.opposite) = .ok teamA ∧
        (teamB = teamA ↔ (ScoreOp.run openerOps cup).resolve openerFixture.home =
          (ScoreOp.run openerOps cup).resolve openerFixture.away) :=
  ⟨rfl, resolve_opener_winner, resolve_opener_loser,
    Competition.outcome_teams rfl resolve_opener_winner resolve_opener_loser⟩

end SmallCup

/-! ## A match against itself -/

namespace SoloCup

open SmallCup (teamA pools pool opener)

/-- A document in which a team plays against itself. -/
def sheet : CompetitionSheet where
  name := "Solo cup"
  notes := none
  clubs := []
  teams := [⟨teamA, "A", none, none, []⟩]
  players := []
  stages := [⟨pools, none, none, [{
    id := pool
    type := .crossover
    name := none
    notes := none
    form := .sets
    rules := .standard
    drawsAllowed := false
    league := none
    standing := []
    entries := [.fixture {
      id := opener
      home := "A"
      away := "A"
      scores := ⟨[25, 25, 25], [20, 20, 20]⟩
      complete := none
      friendly := false
      court := none
      venue := none
      schedule := ⟨none, none, none, none⟩
      manager := none
      officials := none
      mvp := none
      notes := none }] }]⟩]

def solo : Match :=
  { Match.new opener (.literal teamA) (.literal teamA) with
    scores := [⟨25, 20⟩, ⟨25, 20⟩, ⟨25, 20⟩]
    state := .complete ⟨.wonBy .home, ⟨3, 0⟩⟩ }

def stage : Stage :=
  { Stage.new pools with
    groups := [{ Group.new pool .crossover .sets with entries := [.fixture solo] }] }

/-- The competition of the document before its stage is added. -/
def squad : Competition :=
  { Competition.new "Solo cup" with teams := [.new teamA "A"] }

def cup : Competition :=
  { squad with stages := [stage] }

/-- The document loads, the match is complete, and its winner and its loser are the same team. -/
theorem winner_is_loser :
    sheet.build = .ok cup ∧ cup.getMatch pools pool opener = .ok solo ∧ solo.isComplete = true ∧
      cup.resolve (.reference ⟨pools, pool, .winner opener⟩) = .ok teamA ∧
      cup.resolve (.reference ⟨pools, pool, .loser opener⟩) = .ok teamA := by
  have built : sheet.build = squad.addStage stage >>= pure := rfl
  have added : squad.addStage stage = .ok cup := by cbv
  refine ⟨?_, rfl, rfl, ?_, ?_⟩
  · rw [built, added]
    rfl
  · cbv
  · cbv

end SoloCup

end Tourney
