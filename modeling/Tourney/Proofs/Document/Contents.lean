import Tourney.Proofs.Competition.Integrity
import Tourney.Proofs.Document.Listing

/-!
# What a document lists

Every list in a document is built by appending, and an element whose identifier occurs in its scope
already is refused. So a competition that is built lists what its document lists, in order and under
the same identifiers, and a document with a duplicate builds nothing
(`CompetitionSheet.contents_of_build`).
-/

namespace Tourney

/-! ## Teams -/

theorem ContactSheet.id_of_build {s : ContactSheet} {c : Contact} (h : s.build = .ok c) :
    c.id = s.id := by
  obtain ⟨c', made, h⟩ := bind_eq_ok.mp h
  cases h
  unfold Contact.new at made
  split at made
  · cases made
  · cases made
    rfl

theorem Team.addContact_eq_ok {t t' : Team} {c : Contact} :
    t.addContact c = .ok t' ↔
      t.hasContact c.id = false ∧ { t with contacts := t.contacts ++ [c] } = t' := by
  unfold addContact
  split <;> simp_all

structure TeamSheet.Builds (s : TeamSheet) (t : Team) : Prop where
  id : t.id = s.id
  unique : (t.contacts.map (·.id)).Nodup
  contacts : List.Forall₂ (fun sheet c => sheet.build = .ok c) s.contacts t.contacts

theorem TeamSheet.builds_of_build {s : TeamSheet} {t : Team} (h : s.build = .ok t) :
    s.Builds t := by
  have grown := foldlM_grows Team.contacts
    (P := fun t => t.id = s.id ∧ (t.contacts.map (·.id)).Nodup)
    (Q := fun sheet c => ContactSheet.build sheet = .ok c) (fun t sheet t' kept added => ?_)
    ⟨rfl, by simp [Team.new]⟩ h
  · obtain ⟨⟨id, unique⟩, contacts, built, appended⟩ := grown
    exact ⟨id, unique, appended ▸ built⟩
  · obtain ⟨id, unique⟩ := kept
    obtain ⟨c, built, added⟩ := bind_eq_ok.mp added
    obtain ⟨fresh, rfl⟩ := Team.addContact_eq_ok.mp added
    exact ⟨⟨id, nodup_map_concat unique fresh⟩, c, built, rfl⟩

/-! ## Players -/

theorem setFrom_keeps {α β : Type} (key : α → β) {set : α → String → Except Error α}
    (keeps : ∀ x text y, set x text = .ok y → key y = key x) {text : Option String} {x y : α}
    (h : setFrom set text x = .ok y) : key y = key x := by
  cases text with
  | none =>
      cases h
      rfl
  | some text => exact keeps x text y h

theorem AffiliationSheet.team_of_build {s : AffiliationSheet} {a : Affiliation}
    (h : s.build = .ok a) : a.team = s.team := by
  obtain ⟨a₁, first, h⟩ := bind_eq_ok.mp h
  obtain ⟨a₂, last, h⟩ := bind_eq_ok.mp h
  cases h
  have since : a₁.team = s.team := by
    refine setFrom_keeps Affiliation.team (fun a text a' set => ?_) first
    obtain ⟨date, -, set⟩ := bind_eq_ok.mp set
    cases set
    rfl
  have until' : a₂.team = a₁.team := by
    refine setFrom_keeps Affiliation.team (fun a text a' set => ?_) last
    obtain ⟨date, -, set⟩ := bind_eq_ok.mp set
    cases set
    rfl
  exact until'.trans since

structure PlayerSheet.Builds (s : PlayerSheet) (p : Player) : Prop where
  id : p.id = s.id
  teams : List.Forall₂ (fun sheet a => sheet.build = .ok a) s.teams p.teams

theorem PlayerSheet.builds_of_build {s : PlayerSheet} {p : Player} (h : s.build = .ok p) :
    s.Builds p := by
  obtain ⟨teams, built, h⟩ := bind_eq_ok.mp h
  cases h
  exact ⟨rfl, mapM_eq_ok.mp built⟩

/-! ## Registers -/

namespace Competition

variable {c c' : Competition}

theorem clubs_of_addSheets {sheets : List ClubSheet}
    (h : sheets.foldlM (fun c club => c.addClub club.build) c = .ok c') :
    c' = { c with clubs := c.clubs ++ sheets.map (·.build) } := by
  obtain ⟨clubs, built, appended⟩ := foldlM_appends
    (fun c clubs => { c with clubs := c.clubs ++ clubs }) (by simp) (by simp)
    (Q := fun sheet club => ClubSheet.build sheet = club)
    (fun c sheet c' added => ⟨_, rfl, (addClub_eq_ok.mp added).2.symm⟩) h
  rw [← List.forall₂_map_left_iff, List.forall₂_eq_eq_eq] at built
  rw [appended, built]

theorem teams_of_addSheets {sheets : List TeamSheet}
    (h : sheets.foldlM (fun c team => do c.addTeam (← team.build)) c = .ok c') :
    ∃ teams, List.Forall₂ TeamSheet.Builds sheets teams ∧
      c' = { c with teams := c.teams ++ teams } := by
  refine foldlM_appends (fun c teams => { c with teams := c.teams ++ teams }) (by simp) (by simp)
    (fun c sheet c' added => ?_) h
  obtain ⟨team, built, added⟩ := bind_eq_ok.mp added
  obtain ⟨-, -, rfl⟩ := addTeam_eq_ok.mp added
  exact ⟨team, TeamSheet.builds_of_build built, rfl⟩

theorem players_of_addSheets {sheets : List PlayerSheet}
    (h : sheets.foldlM (fun c player => do c.addPlayer (← player.build)) c = .ok c') :
    ∃ players, List.Forall₂ PlayerSheet.Builds sheets players ∧
      c' = { c with players := c.players ++ players } := by
  refine foldlM_appends (fun c players => { c with players := c.players ++ players }) (by simp)
    (by simp) (fun c sheet c' added => ?_) h
  obtain ⟨player, built, added⟩ := bind_eq_ok.mp added
  obtain ⟨-, -, rfl⟩ := addPlayer_eq_ok.mp added
  exact ⟨player, PlayerSheet.builds_of_build built, rfl⟩

end Competition

/-- What a competition has that is built from a sheet: one part from each part of the sheet, in
order. -/
structure CompetitionSheet.Lists (s : CompetitionSheet) (c : Competition) : Prop where
  clubs : c.clubs = s.clubs.map (·.build)
  teams : List.Forall₂ TeamSheet.Builds s.teams c.teams
  players : List.Forall₂ PlayerSheet.Builds s.players c.players
  stages : List.Forall₂ StageSheet.Builds s.stages c.stages

namespace CompetitionSheet

variable {s : CompetitionSheet} {c : Competition}

theorem integral_registers (h : s.registers = .ok c) : c.Integral := by
  refine registers_keeps ?_ ?_ ?_ { Competition.integral_new s.name with } h
  · exact fun c x c' kept added => Competition.Integral.addClub kept added
  · exact fun c x c' kept added => Competition.Integral.addTeam kept added
  · exact fun c x c' kept added => Competition.Integral.addPlayer kept added

theorem lists_of_registers (h : s.registers = .ok c) :
    c.clubs = s.clubs.map (·.build) ∧ List.Forall₂ TeamSheet.Builds s.teams c.teams ∧
      List.Forall₂ PlayerSheet.Builds s.players c.players := by
  obtain ⟨c₁, clubs, h⟩ := bind_eq_ok.mp h
  obtain ⟨c₂, teams, players⟩ := bind_eq_ok.mp h
  obtain rfl := Competition.clubs_of_addSheets clubs
  obtain ⟨teams, teamsBuilt, rfl⟩ := Competition.teams_of_addSheets teams
  obtain ⟨players, playersBuilt, rfl⟩ := Competition.players_of_addSheets players
  exact ⟨rfl, teamsBuilt, playersBuilt⟩

theorem lists_of_build (h : s.build = .ok c) : s.Lists c := by
  have stages := (builds_of_build h).stages
  obtain ⟨c₀, registered, added⟩ := build_eq_ok.mp h
  obtain ⟨clubs, teams, players⟩ := lists_of_registers registered
  obtain ⟨built, -, rfl⟩ := Competition.stages_of_addSheets added
  exact ⟨clubs, teams, players, stages⟩

end CompetitionSheet

/-! ## Outlines -/

/-- The identifiers in a competition, every list in its order: teams with their contacts, players
with the teams of their affiliations, and stages with their groups and these with their entries. A
break has no identifier. -/
structure Outline where
  clubs : List Ident
  teams : List (Ident × List Ident)
  players : List (Ident × List Ident)
  stages : List (Ident × List (Ident × List (Option Ident)))
deriving DecidableEq

/-- No identifier occurs twice in its scope. -/
@[mk_iff]
structure Outline.Unique (o : Outline) : Prop where
  clubs : o.clubs.Nodup
  teams : (o.teams.map (·.1)).Nodup
  contacts : ∀ team ∈ o.teams, team.2.Nodup
  players : (o.players.map (·.1)).Nodup
  stages : (o.stages.map (·.1)).Nodup
  groups : ∀ stage ∈ o.stages, (stage.2.map (·.1)).Nodup
  games : ∀ stage ∈ o.stages, ∀ group ∈ stage.2, (group.2.filterMap id).Nodup

instance (o : Outline) : Decidable o.Unique :=
  decidable_of_iff' _ (Outline.unique_iff o)

def EntrySheet.id? (e : EntrySheet) : Option Ident :=
  e.match?.map (·.id)

def TeamSheet.outline (s : TeamSheet) : Ident × List Ident :=
  (s.id, s.contacts.map (·.id))

def PlayerSheet.outline (s : PlayerSheet) : Ident × List Ident :=
  (s.id, s.teams.map (·.team))

def GroupSheet.outline (s : GroupSheet) : Ident × List (Option Ident) :=
  (s.id, s.entries.map (·.id?))

def StageSheet.outline (s : StageSheet) : Ident × List (Ident × List (Option Ident)) :=
  (s.id, s.groups.map (·.outline))

def CompetitionSheet.outline (s : CompetitionSheet) : Outline :=
  ⟨s.clubs.map (·.id), s.teams.map (·.outline), s.players.map (·.outline), s.stages.map (·.outline)⟩

def Team.outline (t : Team) : Ident × List Ident :=
  (t.id, t.contacts.map (·.id))

def Player.outline (p : Player) : Ident × List Ident :=
  (p.id, p.teams.map (·.team))

def Group.outline (g : Group) : Ident × List (Option Ident) :=
  (g.id, g.entries.map (·.id?))

def Stage.outline (s : Stage) : Ident × List (Ident × List (Option Ident)) :=
  (s.id, s.groups.map (·.outline))

def Competition.outline (c : Competition) : Outline :=
  ⟨c.clubs.map (·.id), c.teams.map (·.outline), c.players.map (·.outline), c.stages.map (·.outline)⟩

theorem TeamSheet.Builds.outline_eq {s : TeamSheet} {t : Team} (h : s.Builds t) :
    s.outline = t.outline := by
  have contacts : s.contacts.map (·.id) = t.contacts.map (·.id) :=
    map_eq_of_forall₂ h.contacts fun _ _ built => (ContactSheet.id_of_build built).symm
  rw [TeamSheet.outline, Team.outline, h.id, contacts]

theorem PlayerSheet.Builds.outline_eq {s : PlayerSheet} {p : Player} (h : s.Builds p) :
    s.outline = p.outline := by
  have teams : s.teams.map (·.team) = p.teams.map (·.team) :=
    map_eq_of_forall₂ h.teams fun _ _ built => (AffiliationSheet.team_of_build built).symm
  rw [PlayerSheet.outline, Player.outline, h.id, teams]

theorem EntrySheet.Builds.id?_eq {scoring : Scoring} {e : EntrySheet} {e' : Entry}
    (h : e.Builds scoring e') : e.id? = e'.id? := by
  cases h with
  | fixture built => exact congrArg some (MatchSheet.id_of_build built).symm
  | pause built => rfl

theorem GroupSheet.Builds.outline_eq {s : GroupSheet} {g : Group} (h : s.Builds g) :
    s.outline = g.outline := by
  have entries : s.entries.map (·.id?) = g.entries.map (·.id?) :=
    map_eq_of_forall₂ h.entries fun _ _ => EntrySheet.Builds.id?_eq
  rw [GroupSheet.outline, Group.outline, h.id, entries]

theorem StageSheet.Builds.outline_eq {s : StageSheet} {t : Stage} (h : s.Builds t) :
    s.outline = t.outline := by
  have groups : s.groups.map (·.outline) = t.groups.map (·.outline) :=
    map_eq_of_forall₂ h.groups fun _ _ => GroupSheet.Builds.outline_eq
  rw [StageSheet.outline, Stage.outline, h.id, groups]

theorem CompetitionSheet.Lists.outline_eq {s : CompetitionSheet} {c : Competition}
    (h : s.Lists c) : s.outline = c.outline := by
  have clubs : s.clubs.map (·.id) = c.clubs.map (·.id) := by
    rw [h.clubs, List.map_map]
    rfl
  have teams := map_eq_of_forall₂ h.teams fun _ _ => TeamSheet.Builds.outline_eq
  have players := map_eq_of_forall₂ h.players fun _ _ => PlayerSheet.Builds.outline_eq
  have stages := map_eq_of_forall₂ h.stages fun _ _ => StageSheet.Builds.outline_eq
  rw [CompetitionSheet.outline, Competition.outline, clubs, teams, players, stages]

/-! ## No duplicates -/

theorem filterMap_outline (g : Group) :
    g.outline.2.filterMap id = g.games.map (·.id) := by
  rw [Group.outline, List.filterMap_map, Group.games, List.map_filterMap]
  rfl

namespace CompetitionSheet

variable {s : CompetitionSheet} {c : Competition}

theorem Lists.unique_outline (h : s.Lists c) (integral : c.Integral) (unique : c.UniqueIds) :
    c.outline.Unique where
  clubs := integral.clubIds
  teams := by
    rw [Competition.outline, List.map_map]
    exact integral.teamIds
  contacts := by
    refine List.forall_mem_map.mpr fun t mem => ?_
    obtain ⟨sheet, -, built⟩ := exists_of_forall₂_right h.teams mem
    exact built.unique
  players := by
    rw [Competition.outline, List.map_map]
    exact integral.playerIds
  stages := by
    rw [Competition.outline, List.map_map]
    exact unique.1
  groups := by
    refine List.forall_mem_map.mpr fun t mem => ?_
    rw [Stage.outline, List.map_map]
    exact (unique.2 t mem).1
  games := by
    refine List.forall_mem_map.mpr fun t mem => List.forall_mem_map.mpr fun g mem' => ?_
    rw [filterMap_outline]
    exact (unique.2 t mem).2 g mem'

theorem integral_of_build (h : s.build = .ok c) : c.Integral := by
  obtain ⟨c₀, registered, added⟩ := build_eq_ok.mp h
  obtain ⟨stages, -, rfl⟩ := Competition.stages_of_addSheets added
  exact { integral_registers registered with }

/-- A document that builds a competition has no identifier twice in its scope. The competition lists
what the document lists, in its order, and each part is built from its own sheet. So a document with
a duplicate, wherever it is, builds nothing. -/
theorem contents_of_build :
    (∀ (s : CompetitionSheet) (c : Competition), s.build = .ok c →
      s.outline.Unique ∧ c.outline = s.outline ∧ s.Lists c) ∧
    ∀ s : CompetitionSheet, ¬ s.outline.Unique → ∃ e, s.build = .error e := by
  have contents (s : CompetitionSheet) (c : Competition) (built : s.build = .ok c) :
      s.outline.Unique ∧ c.outline = s.outline ∧ s.Lists c := by
    have lists := lists_of_build built
    have unique := lists.unique_outline (integral_of_build built) (builds_of_build built).unique
    exact ⟨lists.outline_eq ▸ unique, lists.outline_eq.symm, lists⟩
  refine ⟨contents, fun s duplicate => ?_⟩
  cases built : s.build with
  | error e => exact ⟨e, rfl⟩
  | ok c => exact absurd (contents s c built).1 duplicate

end CompetitionSheet

namespace SmallCup

/-- The document of the small cup, in which another final follows after a break. -/
def finalTwice : CompetitionSheet :=
  let final := fixtureSheet final "A" "B" ⟨[], []⟩ none
  let pause := ⟨none, ⟨none, none, none, none⟩⟩
  { poolsOnly with
    stages := [poolsSheet, ⟨finals, none, none,
      [groupSheet pool .crossover [] [.fixture final, .pause pause, .fixture final]]⟩] }

theorem sheet_listed_and_final_refused :
    sheet.build = .ok cupUnderWay ∧ cupUnderWay.outline = sheet.outline ∧
      ¬ finalTwice.outline.Unique ∧ ∃ e, finalTwice.build = .error e := by
  obtain ⟨contents, refused⟩ := CompetitionSheet.contents_of_build
  have duplicate : ¬ finalTwice.outline.Unique := by decide
  exact ⟨sheet_build, (contents _ _ sheet_build).2.1, duplicate, refused _ duplicate⟩

end SmallCup

end Tourney
