import Tourney.Proofs.Competition.Settling
import Tourney.Proofs.Document.Building

/-!
# Where the matches of a sheet are

The matches that a sheet lists are found in the competition that it builds, each at its address and
with the rules of its group, and nothing else is found there
(`CompetitionSheet.Builds.matchAt?_iff`).
-/

namespace Tourney

/-! ## Matches -/

namespace MatchSheet

variable {s : MatchSheet} {scoring : Scoring} {m : Match}

/-- There are as many points for either side. -/
def Paired (s : MatchSheet) : Prop :=
  s.scores.home.length = s.scores.away.length

def sets (s : MatchSheet) : List SetScore :=
  List.zipWith SetScore.mk s.scores.home s.scores.away

/-- What a sheet asks to record, if anything. -/
def change? (s : MatchSheet) : Option ScoreChange :=
  match s.complete with
  | some false => some (.recordPartial s.sets)
  | some true => some (.record s.sets)
  | none => if s.sets = [] then none else some (.record s.sets)

theorem of_buildPending (h : s.buildPending = .ok m) : m.id = s.id ∧ m.clear = m := by
  obtain ⟨home, -, h⟩ := bind_eq_ok.mp h
  obtain ⟨away, -, h⟩ := bind_eq_ok.mp h
  obtain ⟨schedule, -, h⟩ := bind_eq_ok.mp h
  obtain ⟨manager, -, h⟩ := bind_eq_ok.mp h
  obtain ⟨officials, -, h⟩ := bind_eq_ok.mp h
  cases h
  exact ⟨rfl, rfl⟩

theorem setScores_eq_ok {sets : List SetScore} :
    s.setScores = .ok sets ↔ s.Paired ∧ s.sets = sets := by
  unfold setScores Paired
  by_cases paired : s.scores.home.length = s.scores.away.length <;> simp [paired, MatchSheet.sets]

/-- A sheet builds its match as it is before the recording, and then records. -/
theorem build_eq_ok :
    s.build scoring = .ok m ↔
      s.Paired ∧ ∃ p, s.buildPending = .ok p ∧
        match s.change? with
        | none => p = m
        | some change => change.perform scoring p = .ok m := by
  have recorded (p : Match) : s.recordOn scoring p s.sets = .ok m ↔
      match s.change? with
      | none => p = m
      | some change => change.perform scoring p = .ok m := by
    unfold recordOn change?
    cases s.complete with
    | none => by_cases none : s.sets = [] <;> simp [none, ScoreChange.perform]
    | some complete => cases complete <;> rfl
  unfold build
  simp only [bind_eq_ok, setScores_eq_ok]
  constructor
  · rintro ⟨p, pending, _, ⟨paired, rfl⟩, h⟩
    exact ⟨paired, p, pending, (recorded p).mp h⟩
  · rintro ⟨paired, p, pending, h⟩
    exact ⟨p, pending, _, ⟨paired, rfl⟩, (recorded p).mpr h⟩

theorem buildPending_of_build (h : s.build scoring = .ok m) : s.buildPending = .ok m.clear := by
  obtain ⟨-, p, pending, recorded⟩ := build_eq_ok.mp h
  have clear := (of_buildPending pending).2
  cases change : s.change? with
  | none =>
      rw [change] at recorded
      exact recorded ▸ clear.symm ▸ pending
  | some change' =>
      rw [change] at recorded
      rw [ScoreChange.clear_of_perform recorded, clear, pending]

theorem id_of_build (h : s.build scoring = .ok m) : m.id = s.id :=
  (of_buildPending (buildPending_of_build h)).1

end MatchSheet

/-! ## Listings -/

def EntrySheet.match? : EntrySheet → Option MatchSheet
  | .fixture m => some m
  | .pause _ => none

def GroupSheet.games (s : GroupSheet) : List MatchSheet :=
  s.entries.filterMap EntrySheet.match?

/-- What every score of the group is checked against. -/
def GroupSheet.scoring (s : GroupSheet) : Scoring :=
  ⟨s.rules, s.form, s.drawsAllowed⟩

/-- A match sheet with its address and with what its scores are checked against. -/
structure Listing where
  address : Ident × Ident × Ident
  scoring : Scoring
  game : MatchSheet

def CompetitionSheet.listings (s : CompetitionSheet) : List Listing :=
  s.stages.flatMap fun stage => stage.groups.flatMap fun group =>
    group.games.map fun m => ⟨(stage.id, group.id, m.id), group.scoring, m⟩

theorem CompetitionSheet.mem_listings {s : CompetitionSheet} {l : Listing} :
    l ∈ s.listings ↔
      ∃ stage ∈ s.stages, ∃ group ∈ stage.groups, ∃ m ∈ group.games,
        ⟨(stage.id, group.id, m.id), group.scoring, m⟩ = l := by
  simp only [listings, List.mem_flatMap, List.mem_map]

/-! ## What is built -/

inductive EntrySheet.Builds (scoring : Scoring) : EntrySheet → Entry → Prop
  | fixture {s : MatchSheet} {m : Match} :
      s.build scoring = .ok m → Builds scoring (.fixture s) (.fixture m)
  | pause {s : BreakSheet} {b : Break} : s.build = .ok b → Builds scoring (.pause s) (.pause b)

structure GroupSheet.Builds (s : GroupSheet) (g : Group) : Prop where
  id : g.id = s.id
  scoring : g.scoring = s.scoring
  unique : g.UniqueIds
  entries : List.Forall₂ (EntrySheet.Builds s.scoring) s.entries g.entries

structure StageSheet.Builds (s : StageSheet) (t : Stage) : Prop where
  id : t.id = s.id
  unique : t.UniqueIds
  groups : List.Forall₂ GroupSheet.Builds s.groups t.groups

structure CompetitionSheet.Builds (s : CompetitionSheet) (c : Competition) : Prop where
  unique : c.UniqueIds
  stages : List.Forall₂ StageSheet.Builds s.stages c.stages

namespace GroupSheet

variable {s : GroupSheet} {g g' : Group}

/-- The group of a sheet before its entries are added. -/
def frame (s : GroupSheet) : Except Error Group := do
  let kind ← s.kind
  let g := { Group.new s.id kind s.form with name := s.name, notes := s.notes }
  let g ← g.setRules s.rules
  g.setDrawsAllowed s.drawsAllowed

theorem build_eq (s : GroupSheet) : s.build = s.frame >>= s.entries.foldlM addEntry := by
  unfold build frame
  simp only [bind_assoc]

theorem addEntry_fixture (g : Group) (s : MatchSheet) :
    addEntry g (.fixture s) = s.build g.scoring >>= g.addMatch := rfl

theorem addEntry_pause (g : Group) (s : BreakSheet) :
    addEntry g (.pause s) = s.build >>= fun b => pure (g.addBreak b) := rfl

theorem of_frame (h : s.frame = .ok g) : g.id = s.id ∧ g.scoring = s.scoring ∧ g.entries = [] := by
  obtain ⟨kind, -, h⟩ := bind_eq_ok.mp h
  obtain ⟨g', ruled, drawn⟩ := bind_eq_ok.mp h
  obtain ⟨⟨⟩, -, ruled⟩ := bind_eq_ok.mp ruled
  cases ruled
  unfold Group.setDrawsAllowed at drawn
  split at drawn
  · cases drawn
  · cases drawn
    exact ⟨rfl, rfl, rfl⟩

theorem addEntry_eq_ok {e : EntrySheet} (h : addEntry g e = .ok g') :
    ∃ e', e.Builds g.scoring e' ∧ { g with entries := g.entries ++ [e'] } = g' ∧
      (g.UniqueIds → g'.UniqueIds) := by
  cases e with
  | pause b =>
      obtain ⟨b', built, h⟩ := bind_eq_ok.mp h
      cases h
      refine ⟨_, .pause built, rfl, fun unique => ?_⟩
      have games : (g.addBreak b').games = g.games := by
        simp [Group.games, Group.addBreak, List.filterMap_cons, Entry.match?]
      rwa [Group.UniqueIds, games]
  | fixture sheet =>
      obtain ⟨m, built, added⟩ := bind_eq_ok.mp h
      unfold Group.addMatch at added
      split at added
      · cases added
      · next fresh =>
          cases added
          refine ⟨_, .fixture built, rfl, fun unique => ?_⟩
          have games := nodup_map_concat (x := m) unique (Bool.eq_false_iff.mpr fresh)
          simpa [Group.UniqueIds, Group.games, Entry.match?] using games

theorem builds_of_build (h : s.build = .ok g) : s.Builds g := by
  rw [build_eq] at h
  obtain ⟨g₀, framed, added⟩ := bind_eq_ok.mp h
  obtain ⟨id, scoring, empty⟩ := of_frame framed
  have grown := foldlM_grows Group.entries
    (P := fun g => g.id = s.id ∧ g.scoring = s.scoring ∧ g.UniqueIds)
    (Q := EntrySheet.Builds s.scoring) (fun g e g' kept added => ?_)
    ⟨id, scoring, by simp [Group.UniqueIds, Group.games, empty]⟩ added
  · obtain ⟨⟨id, scoring, unique⟩, entries, built, appended⟩ := grown
    rw [empty, List.nil_append] at appended
    exact ⟨id, scoring, unique, appended ▸ built⟩
  · obtain ⟨id, scoring, unique⟩ := kept
    obtain ⟨e', built, rfl, keeps⟩ := addEntry_eq_ok added
    exact ⟨⟨id, scoring, keeps unique⟩, e', scoring ▸ built, rfl⟩

end GroupSheet

theorem StageSheet.builds_of_build {s : StageSheet} {t : Stage} (h : s.build = .ok t) :
    s.Builds t := by
  have grown := foldlM_grows Stage.groups (P := fun t => t.id = s.id ∧ t.UniqueIds)
    (Q := GroupSheet.Builds) (fun t sheet t' kept added => ?_)
    ⟨rfl, by simp [Stage.UniqueIds, Stage.new]⟩ h
  · obtain ⟨⟨id, unique⟩, groups, built, appended⟩ := grown
    exact ⟨id, unique, appended ▸ built⟩
  · obtain ⟨id, unique⟩ := kept
    obtain ⟨g, built, added⟩ := bind_eq_ok.mp added
    have builds := GroupSheet.builds_of_build built
    obtain ⟨fresh, rfl⟩ := Stage.addGroup_eq_ok.mp added
    refine ⟨⟨id, nodup_map_concat unique.1 fresh, ?_⟩, g, builds, rfl⟩
    intro g' mem
    rcases List.mem_append.mp mem with mem | mem
    · exact unique.2 g' mem
    · exact List.mem_singleton.mp mem ▸ builds.unique

theorem CompetitionSheet.builds_of_build {s : CompetitionSheet} {c : Competition}
    (h : s.build = .ok c) : s.Builds c := by
  obtain ⟨c₀, registered, added⟩ := build_eq_ok.mp h
  have empty := stages_registers registered
  have grown := foldlM_grows Competition.stages (P := Competition.UniqueIds)
    (Q := StageSheet.Builds) (fun c sheet c' unique added => ?_)
    (by simp [Competition.UniqueIds, empty]) added
  · obtain ⟨unique, stages, built, appended⟩ := grown
    rw [empty, List.nil_append] at appended
    exact ⟨unique, appended ▸ built⟩
  · obtain ⟨t, built, added⟩ := bind_eq_ok.mp added
    have builds := StageSheet.builds_of_build built
    obtain ⟨fresh, -, -, rfl⟩ := Competition.addStage_eq_ok.mp added
    exact ⟨(Competition.uniqueIds_append unique builds.unique).mpr fresh, t, builds, rfl⟩

/-! ## What is found -/

theorem GroupSheet.Builds.games {s : GroupSheet} {g : Group} (h : s.Builds g) :
    List.Forall₂ (fun sheet m => sheet.build s.scoring = .ok m) s.games g.games := by
  refine List.rel_filterMap ?_ h.entries
  intro e e' he
  cases he with
  | fixture built => exact .some built
  | pause built => exact .none

/-- Exactly the matches that are listed are found, each at its address. -/
theorem CompetitionSheet.Builds.matchAt?_iff {s : CompetitionSheet} {c : Competition}
    (h : s.Builds c) {a : Ident × Ident × Ident} {scoring : Scoring} {m : Match} :
    c.matchAt? a = some (scoring, m) ↔
      ∃ l ∈ s.listings, l.address = a ∧ l.scoring = scoring ∧ l.game.build scoring = .ok m := by
  rw [Competition.matchAt?_iff_mem h.unique]
  constructor
  · rintro ⟨t, ht, g, hg, hm, rfl, rfl⟩
    obtain ⟨stage, inSheet, stageBuilt⟩ := exists_of_forall₂_right h.stages ht
    obtain ⟨group, inStage, groupBuilt⟩ := exists_of_forall₂_right stageBuilt.groups hg
    obtain ⟨sheet, inGroup, built⟩ := exists_of_forall₂_right groupBuilt.games hm
    refine ⟨_, mem_listings.mpr ⟨stage, inSheet, group, inStage, sheet, inGroup, rfl⟩, ?_⟩
    rw [stageBuilt.id, groupBuilt.id, groupBuilt.scoring, MatchSheet.id_of_build built]
    exact ⟨rfl, rfl, built⟩
  · rintro ⟨l, listed, rfl, rfl, built⟩
    obtain ⟨stage, inSheet, group, inStage, sheet, inGroup, rfl⟩ := mem_listings.mp listed
    obtain ⟨t, ht, stageBuilt⟩ := exists_of_forall₂_left h.stages inSheet
    obtain ⟨g, hg, groupBuilt⟩ := exists_of_forall₂_left stageBuilt.groups inStage
    obtain ⟨m', hm, built'⟩ := exists_of_forall₂_left groupBuilt.games inGroup
    obtain rfl := Except.ok.inj (built'.symm.trans built)
    refine ⟨t, ht, g, hg, hm, ?_, groupBuilt.scoring⟩
    rw [stageBuilt.id, groupBuilt.id, MatchSheet.id_of_build built]

end Tourney
