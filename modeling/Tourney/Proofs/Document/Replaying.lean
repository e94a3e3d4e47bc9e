import Tourney.Proofs.Competition.Independence
import Tourney.Proofs.Document.Listing

/-!
# Loading and recording afterwards

The scores of a sheet can be recorded while its matches are built, or afterwards in the competition
that the sheet without scores builds. Both accept the same sheets, and the order of the recordings
does not matter: the competition is the same in the end (`CompetitionSheet.build_iff_replay`).
-/

namespace Tourney

/-! ## Sheets with nothing recorded -/

def MatchSheet.unrecorded (s : MatchSheet) : MatchSheet :=
  { s with scores := ⟨[], []⟩, complete := none }

def EntrySheet.unrecorded : EntrySheet → EntrySheet
  | .fixture s => .fixture s.unrecorded
  | .pause s => .pause s

def GroupSheet.unrecorded (s : GroupSheet) : GroupSheet :=
  { s with entries := s.entries.map EntrySheet.unrecorded }

def StageSheet.unrecorded (s : StageSheet) : StageSheet :=
  { s with groups := s.groups.map GroupSheet.unrecorded }

def CompetitionSheet.unrecorded (s : CompetitionSheet) : CompetitionSheet :=
  { s with stages := s.stages.map StageSheet.unrecorded }

/-- The match is built with what it has to record. -/
def MatchSheet.Loads (scoring : Scoring) (s : MatchSheet) : Prop :=
  ∃ m, s.build scoring = .ok m

theorem MatchSheet.build_unrecorded (scoring : Scoring) (s : MatchSheet) :
    s.unrecorded.build scoring = s.buildPending := by
  have pending : s.unrecorded.buildPending = s.buildPending := rfl
  unfold build
  rw [pending]
  cases s.buildPending <;> rfl

theorem MatchSheet.Loads.build_unrecorded {scoring : Scoring} {s : MatchSheet}
    (loads : s.Loads scoring) :
    s.unrecorded.build scoring = (s.build scoring).map Match.clear := by
  obtain ⟨m, built⟩ := loads
  rw [MatchSheet.build_unrecorded, buildPending_of_build built, built]
  rfl

/-! ## What they build -/

theorem GroupSheet.addEntry_unrecorded {g : Group} {e : EntrySheet}
    (loads : ∀ m, e.match? = some m → m.Loads g.scoring) :
    addEntry g.cleared e.unrecorded = (addEntry g e).map Group.cleared := by
  cases e with
  | pause b =>
      rw [EntrySheet.unrecorded, addEntry_pause, addEntry_pause]
      cases b.build with
      | error e => rfl
      | ok b' => exact congrArg Except.ok (g.addBreak_cleared b')
  | fixture s =>
      rw [EntrySheet.unrecorded, addEntry_fixture, addEntry_fixture, Group.scoring_cleared,
        (loads s rfl).build_unrecorded]
      cases s.build g.scoring with
      | error e => rfl
      | ok m => exact g.addMatch_cleared m

theorem GroupSheet.build_unrecorded {s : GroupSheet} (loads : ∀ m ∈ s.games, m.Loads s.scoring) :
    s.unrecorded.build = s.build.map Group.cleared := by
  have frame : s.unrecorded.frame = s.frame := rfl
  rw [build_eq, build_eq, frame]
  cases framed : s.frame with
  | error e => rfl
  | ok g =>
      obtain ⟨-, scoring, empty⟩ := of_frame framed
      have cleared : g.cleared = g := by rw [Group.cleared, empty, List.map_nil, ← empty]
      have added : (s.entries.map EntrySheet.unrecorded).foldlM addEntry g.cleared =
          (s.entries.foldlM addEntry g).map Group.cleared := by
        refine foldlM_map (P := fun g => g.scoring = s.scoring) (fun g e g' scoring added => ?_)
          (fun g scoring e mem => ?_) scoring
        · obtain ⟨e', -, rfl, -⟩ := addEntry_eq_ok added
          exact scoring
        · refine addEntry_unrecorded fun m hm => ?_
          rw [scoring]
          exact loads m (List.mem_filterMap.mpr ⟨e, mem, hm⟩)
      rw [cleared] at added
      exact added

theorem Stage.addSheet_unrecorded {s : GroupSheet} (loads : ∀ m ∈ s.games, m.Loads s.scoring)
    (t : Stage) : t.cleared.addSheet s.unrecorded = (t.addSheet s).map Stage.cleared := by
  unfold addSheet
  rw [GroupSheet.build_unrecorded loads]
  cases s.build with
  | error e => rfl
  | ok g => exact t.addGroup_cleared g

theorem StageSheet.build_unrecorded {s : StageSheet}
    (loads : ∀ group ∈ s.groups, ∀ m ∈ group.games, m.Loads group.scoring) :
    s.unrecorded.build = s.build.map Stage.cleared := by
  have added := foldlM_map (f := Stage.addSheet) (g := Stage.addSheet) (φ := Stage.cleared)
    (ψ := GroupSheet.unrecorded) (P := fun _ => True) (fun _ _ _ _ _ => trivial)
    (fun t _ group mem => t.addSheet_unrecorded (loads group mem))
    (s := { Stage.new s.id with name := s.name, notes := s.notes }) trivial
  exact added

theorem Competition.addSheet_unrecorded {s : StageSheet}
    (loads : ∀ group ∈ s.groups, ∀ m ∈ group.games, m.Loads group.scoring) (c : Competition) :
    c.cleared.addSheet s.unrecorded = (c.addSheet s).map Competition.cleared := by
  unfold addSheet
  rw [StageSheet.build_unrecorded loads]
  cases s.build with
  | error e => rfl
  | ok t => exact c.addStage_cleared t

namespace CompetitionSheet

variable {s : CompetitionSheet} {c : Competition}

theorem build_unrecorded (loads : ∀ l ∈ s.listings, l.game.Loads l.scoring) :
    s.unrecorded.build = s.build.map Competition.cleared := by
  have registers : s.unrecorded.registers = s.registers := rfl
  rw [build_eq, build_eq, registers]
  cases registered : s.registers with
  | error e => rfl
  | ok c =>
      have cleared : c.cleared = c := by
        rw [Competition.cleared, stages_registers registered, List.map_nil,
          ← stages_registers registered]
      have stageLoads (stage : StageSheet) (mem : stage ∈ s.stages) :
          ∀ group ∈ stage.groups, ∀ m ∈ group.games, m.Loads group.scoring :=
        fun group hg m hm => loads ⟨(stage.id, group.id, m.id), group.scoring, m⟩
          (mem_listings.mpr ⟨stage, mem, group, hg, m, hm, rfl⟩)
      have added := foldlM_map (f := Competition.addSheet) (g := Competition.addSheet)
        (φ := Competition.cleared) (ψ := StageSheet.unrecorded) (P := fun _ => True)
        (fun _ _ _ _ _ => trivial)
        (fun c _ stage mem => c.addSheet_unrecorded (stageLoads stage mem)) (s := c) trivial
      rw [cleared] at added
      exact added

theorem loads_of_build (h : s.build = .ok c) : ∀ l ∈ s.listings, l.game.Loads l.scoring := by
  intro l listed
  obtain ⟨stage, inSheet, group, inStage, m, inGroup, rfl⟩ := mem_listings.mp listed
  obtain ⟨t, -, stageBuilt⟩ := exists_of_forall₂_left (builds_of_build h).stages inSheet
  obtain ⟨g, -, groupBuilt⟩ := exists_of_forall₂_left stageBuilt.groups inStage
  obtain ⟨m', -, built⟩ := exists_of_forall₂_left groupBuilt.games inGroup
  exact ⟨m', built⟩

/-! ## Recordings -/

/-- What a sheet asks to record, match by match. -/
def recordings (s : CompetitionSheet) : List ScoreOp :=
  s.listings.filterMap fun l =>
    l.game.change?.map fun change => ⟨l.address.1, l.address.2.1, l.address.2.2, change⟩

theorem mem_recordings {op : ScoreOp} :
    op ∈ s.recordings ↔
      ∃ l ∈ s.listings, l.game.change? = some op.change ∧ l.address = op.address := by
  obtain ⟨stage, group, fixture, change⟩ := op
  simp only [recordings, List.mem_filterMap, Option.map_eq_some_iff, ScoreOp.mk.injEq,
    ScoreOp.address, Prod.ext_iff]
  constructor
  · rintro ⟨l, listed, _, asked, stage, group, fixture, rfl⟩
    exact ⟨l, listed, asked, stage, group, fixture⟩
  · rintro ⟨l, listed, asked, stage, group, fixture⟩
    exact ⟨l, listed, _, asked, stage, group, fixture, rfl⟩

theorem mem_listings_unrecorded {l : Listing} (listed : l ∈ s.listings) :
    { l with game := l.game.unrecorded } ∈ s.unrecorded.listings := by
  obtain ⟨stage, inSheet, group, inStage, m, inGroup, rfl⟩ := mem_listings.mp listed
  refine mem_listings.mpr ⟨stage.unrecorded, List.mem_map_of_mem inSheet, group.unrecorded,
    List.mem_map_of_mem inStage, m.unrecorded, ?_, rfl⟩
  have games : group.unrecorded.games = group.games.map MatchSheet.unrecorded := by
    simp only [GroupSheet.games, GroupSheet.unrecorded, List.filterMap_map, List.map_filterMap]
    congr 1
    funext e
    cases e <;> rfl
  rw [games]
  exact List.mem_map_of_mem inGroup

/-- A match that is listed is found in the competition that is built without scores. -/
theorem matchAt?_of_unrecorded {c₀ : Competition} (h : s.unrecorded.build = .ok c₀) {l : Listing}
    (listed : l ∈ s.listings) :
    ∃ p, l.game.buildPending = .ok p ∧ c₀.matchAt? l.address = some (l.scoring, p) := by
  have listed₀ := mem_listings_unrecorded listed
  obtain ⟨p, built⟩ := loads_of_build h _ listed₀
  refine ⟨p, (l.game.build_unrecorded l.scoring).symm.trans built, ?_⟩
  exact (builds_of_build h).matchAt?_iff.mpr ⟨_, listed₀, rfl, rfl, built⟩

/-- A sheet builds a competition if it does so without scores, and if these are accepted there. -/
theorem loads_of_accepted {c₀ : Competition} (paired : ∀ l ∈ s.listings, l.game.Paired)
    (h : s.unrecorded.build = .ok c₀) (accepted : ∀ op ∈ s.recordings, op.accepted c₀ = true) :
    ∀ l ∈ s.listings, l.game.Loads l.scoring := by
  intro l listed
  obtain ⟨p, pending, found⟩ := matchAt?_of_unrecorded h listed
  cases asked : l.game.change? with
  | none => exact ⟨p, MatchSheet.build_eq_ok.mpr ⟨paired l listed, p, pending, by rw [asked]⟩⟩
  | some change =>
      have op := accepted ⟨l.address.1, l.address.2.1, l.address.2.2, change⟩
        (mem_recordings.mpr ⟨l, listed, asked, rfl⟩)
      obtain ⟨m, recorded⟩ := (ScoreOp.accepted_iff_of_matchAt? found).mp op
      exact ⟨m, MatchSheet.build_eq_ok.mpr ⟨paired l listed, p, pending, by rwa [asked]⟩⟩

section Loaded

variable (h : s.build = .ok c)

include h

theorem build_unrecorded_of_build : s.unrecorded.build = .ok c.cleared := by
  rw [build_unrecorded (loads_of_build h), h]
  rfl

/-- A recording leads to the match that is loaded. -/
theorem perform_of_mem_recordings {op : ScoreOp} (mem : op ∈ s.recordings) :
    ∃ scoring m, c.matchAt? op.address = some (scoring, m) ∧
      op.change.perform scoring m.clear = .ok m := by
  obtain ⟨l, listed, asked, aimed⟩ := mem_recordings.mp mem
  obtain ⟨m, built⟩ := loads_of_build h l listed
  have found := (builds_of_build h).matchAt?_iff.mpr ⟨l, listed, aimed, rfl, built⟩
  refine ⟨l.scoring, m, found, ?_⟩
  obtain ⟨-, p, pending, recorded⟩ := MatchSheet.build_eq_ok.mp built
  rw [MatchSheet.buildPending_of_build built] at pending
  obtain rfl := Except.ok.inj pending
  rwa [asked] at recorded

theorem accepted_of_mem_recordings {op : ScoreOp} (mem : op ∈ s.recordings) :
    op.accepted c.cleared = true := by
  obtain ⟨scoring, m, found, recorded⟩ := perform_of_mem_recordings h mem
  have found₀ : c.cleared.matchAt? op.address = some (scoring, m.clear) := by
    rw [Competition.matchAt?_cleared, found]
    rfl
  exact (ScoreOp.accepted_iff_of_matchAt? found₀).mpr ⟨m, recorded⟩

theorem run_recordings {ops : List ScoreOp} (perm : ops.Perm s.recordings) :
    ScoreOp.run ops c.cleared = c := by
  refine Competition.eq_of_matchAt? (ScoreOp.cleared_run ops c.cleared |>.trans c.cleared_cleared)
    (builds_of_build h).unique fun a scoring m found => ?_
  have found₀ : c.cleared.matchAt? a = some (scoring, m.clear) := by
    rw [Competition.matchAt?_cleared, found]
    rfl
  obtain ⟨m', after, -, last⟩ := ScoreOp.exists_matchAt?_run found₀ ops
  rw [after]
  cases decided : ScoreOp.lastAccepted ops c.cleared a with
  | some op =>
      rw [decided] at last
      obtain ⟨mem, rfl⟩ := ScoreOp.of_lastAccepted decided
      obtain ⟨scoring', m₁, found₁, recorded⟩ :=
        perform_of_mem_recordings h (perm.mem_iff.mp mem)
      obtain ⟨rfl, rfl⟩ := Prod.mk.inj (Option.some.inj (found.symm.trans found₁))
      rw [Except.ok.inj (last.symm.trans recorded)]
  | none =>
      rw [decided] at last
      obtain ⟨l, listed, aimed, rfl, built⟩ := (builds_of_build h).matchAt?_iff.mp found
      obtain ⟨-, p, pending, recorded⟩ := MatchSheet.build_eq_ok.mp built
      cases asked : l.game.change? with
      | none =>
          rw [asked] at recorded
          rw [last, ← recorded, (MatchSheet.of_buildPending pending).2]
      | some change =>
          -- What the sheet asks to record would have been the last, or followed by another.
          have mem : (⟨l.address.1, l.address.2.1, l.address.2.2, change⟩ : ScoreOp) ∈
              s.recordings := mem_recordings.mpr ⟨l, listed, asked, rfl⟩
          have refused := ScoreOp.refused_of_lastAccepted decided (perm.mem_iff.mpr mem) aimed
          rw [accepted_of_mem_recordings h mem] at refused
          cases refused

end Loaded

/-- A sheet builds a competition if and only if its scores are paired, it does so without scores,
and the scores are accepted afterwards. Recorded in any order, they lead to the same competition. -/
theorem build_iff_replay (s : CompetitionSheet) :
    ((∃ c, s.build = .ok c) ↔
      (∀ l ∈ s.listings, l.game.Paired) ∧ ∃ c₀, s.unrecorded.build = .ok c₀ ∧
        ∀ op ∈ s.recordings, ∃ c', op.attempt c₀ = .ok c') ∧
    ∀ (c c₀ : Competition) (ops : List ScoreOp),
      s.build = .ok c → s.unrecorded.build = .ok c₀ → ops.Perm s.recordings →
        ops.foldlM (fun c op => op.attempt c) c₀ = .ok c := by
  constructor
  · constructor
    · rintro ⟨c, h⟩
      refine ⟨fun l listed => ?_, c.cleared, build_unrecorded_of_build h, fun op mem => ?_⟩
      · obtain ⟨m, built⟩ := loads_of_build h l listed
        exact (MatchSheet.build_eq_ok.mp built).1
      · exact ScoreOp.accepted_iff.mp (accepted_of_mem_recordings h mem)
    · rintro ⟨paired, c₀, h, accepted⟩
      have loads := loads_of_accepted paired h fun op mem =>
        ScoreOp.accepted_iff.mpr (accepted op mem)
      rw [build_unrecorded loads] at h
      cases built : s.build with
      | ok c => exact ⟨c, rfl⟩
      | error e => rw [built] at h; cases h
  · intro c c₀ ops h h₀ perm
    obtain rfl := Except.ok.inj ((build_unrecorded_of_build h).symm.trans h₀)
    have accepted : ∀ op ∈ ops, op.accepted c.cleared = true :=
      fun op mem => accepted_of_mem_recordings h (perm.mem_iff.mp mem)
    rw [ScoreOp.foldlM_attempt accepted, run_recordings h perm]

end CompetitionSheet

namespace SmallCup

/-- The scores of the document, those of the final first. -/
def finalFirst : List ScoreOp :=
  [⟨finals, final, final, .recordPartial [⟨25, 23⟩]⟩,
    ⟨pools, pool, opener, .record [⟨25, 20⟩, ⟨25, 20⟩, ⟨25, 20⟩]⟩]

theorem finalFirst_perm : finalFirst.Perm sheet.recordings :=
  List.Perm.swap ..

theorem sheet_replayed :
    sheet.build = .ok cupUnderWay ∧ sheet.unrecorded.build = .ok cupUnderWay.cleared ∧
      finalFirst.Perm sheet.recordings ∧
      (∀ op ∈ sheet.recordings, ∃ c, op.attempt cupUnderWay.cleared = .ok c) ∧
      finalFirst.foldlM (fun c op => op.attempt c) cupUnderWay.cleared = .ok cupUnderWay := by
  obtain ⟨loads, replay⟩ := CompetitionSheet.build_iff_replay sheet
  obtain ⟨-, c₀, built, accepted⟩ := loads.mp ⟨_, sheet_build⟩
  have cleared := CompetitionSheet.build_unrecorded_of_build sheet_build
  obtain rfl := Except.ok.inj (built.symm.trans cleared)
  exact ⟨sheet_build, built, finalFirst_perm, accepted,
    replay _ _ finalFirst sheet_build built finalFirst_perm⟩

end SmallCup

end Tourney
