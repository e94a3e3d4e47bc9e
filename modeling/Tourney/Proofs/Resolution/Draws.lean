import Tourney.Proofs.Competition.Decisive
import Tourney.Proofs.Document.Listing
import Tourney.Proofs.Resolution.Refusal

/-!
# Draws and resolution

A competition that is loaded from a document has drawn matches in leagues only, and this stays so.
So no other group refuses to say who won or lost or has a position because of a draw. Whoever stands
in a slot of a crossover may still be unknown because of one: the slots can refer to the winner of a
league match, and if that match was drawn, whatever is asked of the crossover fails with it
(`CompetitionSheet.decided_outside_leagues`).
-/

namespace Tourney

/-! ## Loading -/

namespace MatchSheet

variable {s : MatchSheet} {scoring : Scoring} {m : Match}

theorem change?_eq_some {change : ScoreChange} (h : s.change? = some change) :
    change = .recordPartial s.sets ∨ change = .record s.sets := by
  unfold change? at h
  split at h
  · cases h; exact .inl rfl
  · cases h; exact .inr rfl
  · split at h
    · cases h
    · cases h; exact .inr rfl

theorem decided_of_build (h : s.build scoring = .ok m) (refused : scoring.drawsAllowed ≠ true) :
    m.Decided := by
  obtain ⟨-, p, pending, recorded⟩ := build_eq_ok.mp h
  cases asked : s.change? with
  | none =>
      rw [asked] at recorded
      subst recorded
      exact Match.decided_of_pending (congrArg (·.state) (of_buildPending pending).2).symm
  | some change =>
      rw [asked] at recorded
      rcases change?_eq_some asked with rfl | rfl
      · exact Match.decided_of_recordPartial recorded
      · exact Match.decided_of_record recorded refused

end MatchSheet

namespace GroupSheet

variable {s : GroupSheet} {g g' : Group}

theorem decisive_of_frame (h : s.frame = .ok g) : g.Decisive := by
  have none (m : Match) : m ∉ g.games := by simp [Group.games, (of_frame h).2.2]
  obtain ⟨kind, -, h⟩ := bind_eq_ok.mp h
  obtain ⟨g', ruled, drawn⟩ := bind_eq_ok.mp h
  obtain ⟨league, rfl⟩ := Group.setDrawsAllowed_eq_ok.mp drawn
  exact ⟨league, fun _ m mem => absurd mem (none m)⟩

theorem decisive_of_addEntry {e : EntrySheet} (h : g.Decisive) (added : addEntry g e = .ok g') :
    g'.Decisive := by
  obtain ⟨e', built, rfl, -⟩ := addEntry_eq_ok added
  refine ⟨h.league, fun other m mem => ?_⟩
  rcases List.mem_append.mp (Group.mem_games.mp mem) with old | new
  · exact h.decided other m (Group.mem_games.mpr old)
  · obtain rfl := List.mem_singleton.mp new
    cases built with
    | fixture built => exact MatchSheet.decided_of_build built (h.refuses other)

theorem decisive_of_build (h : s.build = .ok g) : g.Decisive := by
  rw [build_eq] at h
  obtain ⟨g₀, framed, added⟩ := bind_eq_ok.mp h
  exact foldlM_keeps (fun _ _ _ => decisive_of_addEntry) (decisive_of_frame framed) added

end GroupSheet

theorem StageSheet.decisive_of_build {s : StageSheet} {t : Stage} (h : s.build = .ok t) :
    ∀ g ∈ t.groups, g.Decisive := by
  refine foldlM_keeps (P := fun t => ∀ g ∈ t.groups, g.Decisive) (fun t sheet t' kept added => ?_)
    (fun g mem => nomatch mem) h
  obtain ⟨g, built, added⟩ := bind_eq_ok.mp added
  obtain ⟨-, rfl⟩ := Stage.addGroup_eq_ok.mp added
  intro g' mem
  rcases List.mem_append.mp mem with old | new
  · exact kept g' old
  · exact List.mem_singleton.mp new ▸ GroupSheet.decisive_of_build built

theorem CompetitionSheet.decisive_of_build {s : CompetitionSheet} {c : Competition}
    (h : s.build = .ok c) : c.Decisive := by
  obtain ⟨c₀, registered, added⟩ := build_eq_ok.mp h
  obtain ⟨stages, built, rfl⟩ := Competition.stages_of_addSheets added
  intro t mem
  rw [stages_registers registered, List.nil_append] at mem
  obtain ⟨sheet, -, stage⟩ := exists_of_forall₂_right built mem
  exact StageSheet.decisive_of_build stage

/-! ## Errors about drawn matches -/

namespace Group

variable {g : Group} {r : Reference} {text : String}

theorem drawn_of_source (h : g.source r = .error (.invalid (.drawn text))) :
    ∃ m, g.AsksMatch r.target m ∧ m.outcome = .ok .draw ∧ m.id.text = text := by
  rcases refuses_or_lacks_of_source (c := .new "") h with refuses | ⟨id, lacks⟩ | lacks
  · cases refuses with
    | drawn asks draw => exact ⟨_, asks, draw, rfl⟩
  · cases lacks
  · cases lacks

theorem AsksMatch.mem_games {t : Target} {m : Match} (asks : g.AsksMatch t m) : m ∈ g.games := by
  cases asks with
  | named _ found => exact mem_games_of_findMatch? found
  | crossover _ _ found => exact List.mem_of_getElem? found

theorem AsksMatch.of_league {t : Target} {m : Match} (asks : g.AsksMatch t m)
    (league : g.kind.type = .league) : t.fixture? = some m.id ∧ g.findMatch? m.id = some m := by
  cases asks with
  | named asked found =>
      obtain rfl := id_of_findMatch? found
      exact ⟨asked, found⟩
  | crossover kind _ _ =>
      rw [kind] at league
      cases league

theorem Decisive.league_of_drawn {m : Match} (h : g.Decisive) (mem : m ∈ g.games)
    (drawn : m.outcome = .ok .draw) : g.kind.type = .league := by
  by_contra other
  obtain ⟨e, complete, draw⟩ := Match.outcome_eq_ok.mp drawn
  exact h.decided other m mem e complete draw

theorem Decisive.source_ne_drawn (h : g.Decisive) (other : g.kind.type ≠ .league) :
    g.source r ≠ .error (.invalid (.drawn text)) := by
  intro refused
  obtain ⟨m, asks, drawn, -⟩ := drawn_of_source refused
  exact other (h.league_of_drawn asks.mem_games drawn)

end Group

namespace Competition

variable {c : Competition} {path : List Reference} {r : Reference} {s : TeamSlot} {text : String}

/-- A reference that fails because of a draw leads to a group that refuses to name the winner or
loser of a drawn match. -/
theorem drawn_of_follow (h : c.follow path r = .error (.invalid (.drawn text))) :
    ∃ q, (q = r ∨ q ∈ c.references) ∧ ∃ g, c.getGroup q.stage q.group = .ok g ∧
      g.source q = .error (.invalid (.drawn text)) := by
  induction path, r using follow_induct (c := c) with
  | step path r ih =>
      rcases follow_eq_error.mp h with
        ⟨-, cycle⟩ | ⟨fresh, missing | ⟨g, found, refused | ⟨source, pointed, failed⟩⟩⟩
      · cases cycle
      · rcases getGroup_eq_error missing with unknown | unknown <;> cases unknown
      · exact ⟨r, .inl rfl, g, found, refused⟩
      · rcases answerVia_lookupVia_eq_error failed with ⟨next, queries, hn⟩ | ⟨_, _, missing⟩
        · have reads := queries.reads pointed
          have held := mem_references (mem_slots_of_getGroup found reads.mem_slots)
          obtain ⟨q, which, refuses⟩ := ih g next fresh found reads hn
          exact ⟨q, .inr (which.elim (· ▸ held) id), refuses⟩
        · cases missing

end Competition

theorem Competition.Decisive.of_getGroup {c : Competition} {stage group : Ident} {g : Group}
    (h : c.Decisive) (found : c.getGroup stage group = .ok g) : g.Decisive := by
  obtain ⟨s, hs, -, hg, -⟩ := exists_stage_of_getGroup found
  exact h s hs g hg

/-- In a competition from a document, whatever is recorded and set in its groups afterwards, only
leagues allow draws, and every complete match of another group has a winning and a losing side. No
such group refuses a winner, a loser or a position because of a draw. Where a reference fails
because of one, a reference asks a league for the winner or loser of a match that was drawn. -/
theorem CompetitionSheet.decided_outside_leagues {s : CompetitionSheet} {c : Competition}
    (built : s.build = .ok c) (ops : List GroupOp) :
    let c' := GroupOp.run ops c
    (∀ stage ∈ c'.stages, ∀ g ∈ stage.groups,
      (g.drawsAllowed = true → g.kind.type = .league) ∧
        (g.kind.type ≠ .league →
          (∀ m ∈ g.games, m.isComplete = true →
            ∃ side, m.winnerSide = .ok side ∧ m.loserSide = .ok side.opposite) ∧
          ∀ r text, g.source r ≠ .error (.invalid (.drawn text)))) ∧
    ∀ r text, c'.resolve (.reference r) = .error (.invalid (.drawn text)) →
      ∃ q, (q = r ∨ q ∈ c'.references) ∧
        ∃ g, c'.getGroup q.stage q.group = .ok g ∧ g.kind.type = .league ∧
          ∃ m, q.target.fixture? = some m.id ∧ g.findMatch? m.id = some m ∧
            m.outcome = .ok .draw ∧ m.id.text = text := by
  intro c'
  have decisive : c'.Decisive := (decisive_of_build built).run
  refine ⟨fun stage hs g hg => ?_, fun r text failed => ?_⟩
  · have held := decisive stage hs g hg
    refine ⟨held.league, fun other => ⟨fun m mem complete => ?_, fun r text => ?_⟩⟩
    · exact (held.decided other m mem).sides complete
    · exact held.source_ne_drawn other
  · obtain ⟨q, which, g, found, refused⟩ := Competition.drawn_of_follow failed
    obtain ⟨m, asks, drawn, named⟩ := Group.drawn_of_source refused
    have league := (decisive.of_getGroup found).league_of_drawn asks.mem_games drawn
    obtain ⟨asked, declared⟩ := asks.of_league league
    exact ⟨q, which, g, found, league, m, asked, declared, drawn, named⟩

/-! ## A crossover behind a drawn match -/

namespace DrawnCup

open SmallCup (teamA teamB pools pool opener finals final poolsOnly groupSheet fixtureSheet)

def drawnLeague : GroupSheet :=
  { groupSheet pool .league [] [.fixture (fixtureSheet opener "A" "B" ⟨[2], [2]⟩ none)] with
    form := .continuous
    drawsAllowed := true }

def crossoverSheet : GroupSheet :=
  groupSheet final .crossover []
    [.fixture (fixtureSheet final "\x7bL:P:M1:winner\x7d" "B" ⟨[25, 25, 25], [20, 20, 20]⟩ none)]

/-- A document in which the winner of a drawn match has won a crossover. -/
def sheet : CompetitionSheet :=
  { poolsOnly with
    stages := [⟨pools, none, none, [drawnLeague]⟩, ⟨finals, none, none, [crossoverSheet]⟩] }

def league : Group :=
  { Group.new pool (.league .standard) .continuous with
    drawsAllowed := true
    entries := [.fixture { Match.new opener (.literal teamA) (.literal teamB) with
      scores := [⟨2, 2⟩]
      state := .complete ⟨.draw, .zero⟩ }] }

def decider : Match :=
  { Match.new final (.reference ⟨pools, pool, .winner opener⟩) (.literal teamB) with
    scores := [⟨25, 20⟩, ⟨25, 20⟩, ⟨25, 20⟩]
    state := .complete ⟨.wonBy .home, ⟨3, 0⟩⟩ }

def crossover : Group :=
  { Group.new final .crossover .sets with entries := [.fixture decider] }

def squad : Competition :=
  { SmallCup.cup with stages := [] }

def poolStage : Stage :=
  { Stage.new pools with groups := [league] }

def finalStage : Stage :=
  { Stage.new finals with groups := [crossover] }

def cup : Competition :=
  { squad with stages := [poolStage, finalStage] }

theorem sheet_build : sheet.build = .ok cup := by
  have pools : StageSheet.build ⟨pools, none, none, [drawnLeague]⟩ = .ok poolStage := rfl
  have finals : StageSheet.build ⟨finals, none, none, [crossoverSheet]⟩ = .ok finalStage := rfl
  have first : squad.addStage poolStage = .ok { squad with stages := [poolStage] } := by cbv
  have second : ({ squad with stages := [poolStage] } : Competition).addStage finalStage =
      .ok cup := by cbv
  refine CompetitionSheet.build_eq_ok.mpr ⟨squad, rfl, ?_⟩
  exact foldlM_cons_eq_ok.mpr ⟨_, bind_eq_ok.mpr ⟨_, pools, first⟩,
    foldlM_cons_eq_ok.mpr ⟨_, bind_eq_ok.mpr ⟨_, finals, second⟩, rfl⟩⟩

theorem resolve_decider :
    cup.resolve (.reference ⟨finals, final, .winner final⟩) = .error (.invalid (.drawn "M1")) := by
  cbv

/-- The match of the crossover is complete, but who won it is unknown because of the draw. -/
theorem winner_behind_draw :
    sheet.build = .ok cup ∧ cup.getGroup finals final = .ok crossover ∧
      crossover.kind.type = .crossover ∧ crossover.getMatch final = .ok decider ∧
      decider.isComplete = true ∧
      cup.resolve (.reference ⟨finals, final, .winner final⟩) =
        .error (.invalid (.drawn "M1")) :=
  ⟨sheet_build, rfl, rfl, rfl, rfl, resolve_decider⟩

/-- Draws are to be allowed in the crossover, its rules are changed, and the decider is to end level
under the new rules before the other side wins it. -/
def ops : List GroupOp :=
  [⟨finals, final, .setDrawsAllowed true⟩,
    ⟨finals, final, .setRules { SetRules.standard with maxSets := 2, setsToWin := 2 }⟩,
    ⟨finals, final, .recordPartial final [⟨25, 20⟩]⟩,
    ⟨finals, final, .record final [⟨25, 20⟩, ⟨13, 15⟩]⟩,
    ⟨pools, pool, .setDrawsAllowed false⟩,
    ⟨finals, final, .record final [⟨20, 25⟩, ⟨13, 15⟩]⟩]

theorem crossover_decided :
    sheet.build = .ok cup ∧
      (∀ stage ∈ (GroupOp.run ops cup).stages, ∀ g ∈ stage.groups, g.kind.type ≠ .league →
        ∀ m ∈ g.games, m.isComplete = true →
          ∃ side, m.winnerSide = .ok side ∧ m.loserSide = .ok side.opposite) ∧
      ∃ (q : Reference) (g : Group) (m : Match), cup.getGroup q.stage q.group = .ok g ∧
        g.kind.type = .league ∧ q.target.fixture? = some m.id ∧ g.findMatch? m.id = some m ∧
        m.outcome = .ok .draw := by
  obtain ⟨decided, -⟩ := CompetitionSheet.decided_outside_leagues sheet_build ops
  obtain ⟨-, behind⟩ := CompetitionSheet.decided_outside_leagues sheet_build []
  obtain ⟨q, -, g, found, league, m, asked, declared, drawn, -⟩ := behind _ _ resolve_decider
  refine ⟨sheet_build, fun stage hs g hg other => ((decided stage hs g hg).2 other).1, ?_⟩
  exact ⟨q, g, m, found, league, asked, declared, drawn⟩

end DrawnCup

end Tourney
