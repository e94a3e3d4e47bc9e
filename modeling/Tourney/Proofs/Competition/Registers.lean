import Tourney.Proofs.Competition.Appending

/-!
# Registers and the structure

What each registration checks, and what it writes. Clubs, teams and players are registered without a
change to the stages, and no registered team is lost. So a competition that is valid stays valid when
something is registered (`Competition.Enrolls.validate`).
-/

namespace Tourney

namespace Competition

variable {c c' : Competition} {club : Club} {team : Team} {player : Player} {id : Ident}
  {a : Affiliation}

/-! ## What is checked and written -/

theorem hasClub_iff : c.hasClub id = true ↔ ∃ club ∈ c.clubs, club.id = id := by
  rw [hasClub, findClub?, List.find?_isSome]
  simp

theorem getClub_eq_ok : c.getClub id = .ok club ↔ c.findClub? id = some club := by
  unfold getClub
  split <;> simp_all

theorem getTeam_eq_ok : c.getTeam id = .ok team ↔ c.findTeam? id = some team := by
  unfold getTeam
  split <;> simp_all

theorem getPlayer_eq_ok : c.getPlayer id = .ok player ↔ c.findPlayer? id = some player := by
  unfold getPlayer
  split <;> simp_all

theorem checkClub_eq_ok {club : Option Ident} :
    c.checkClub club = .ok () ↔ ∀ id, club = some id → c.hasClub id = true := by
  cases club with
  | none => simp [checkClub]
  | some id => simp [checkClub, discard_eq_ok, getClub_eq_ok, hasClub, Option.isSome_iff_exists]

theorem discard_getTeam_eq_ok : discard (c.getTeam id) = .ok () ↔ c.hasTeam id = true := by
  simp [discard_eq_ok, getTeam_eq_ok, hasTeam, Option.isSome_iff_exists]

theorem addClub_eq_ok :
    c.addClub club = .ok c' ↔
      c.hasClub club.id = false ∧ { c with clubs := c.clubs ++ [club] } = c' := by
  unfold addClub
  split <;> simp_all

theorem addTeam_eq_ok :
    c.addTeam team = .ok c' ↔
      c.hasTeam team.id = false ∧ (∀ id, team.club = some id → c.hasClub id = true) ∧
        { c with teams := c.teams ++ [team] } = c' := by
  unfold addTeam
  rw [refuse_bind_eq_ok, check_bind_eq_ok, Bool.not_eq_true, checkClub_eq_ok]
  simp [pure, Except.pure]

theorem setTeamClub_eq_ok {club : Option Ident} :
    c.setTeamClub id club = .ok c' ↔
      (∀ id, club = some id → c.hasClub id = true) ∧
        ∃ team, c.findTeam? id = some team ∧ c.putTeam { team with club := club } = c' := by
  rw [setTeamClub, check_bind_eq_ok, checkClub_eq_ok]
  simp [updateTeam, bind_eq_ok, getTeam_eq_ok, pure, Except.pure]

theorem addPlayer_eq_ok :
    c.addPlayer player = .ok c' ↔
      (c.findPlayer? player.id).isSome = false ∧
        (∀ a ∈ player.teams, c.hasTeam a.team = true) ∧
        { c with players := c.players ++ [player] } = c' := by
  have teams : (player.teams.forM fun a => discard (c.getTeam a.team)) = .ok () ↔
      ∀ a ∈ player.teams, c.hasTeam a.team = true := by
    simp only [forM_eq_ok, discard_getTeam_eq_ok]
  unfold addPlayer
  rw [refuse_bind_eq_ok, ← teams, check_bind_eq_ok, Bool.not_eq_true]
  simp [pure, Except.pure]

theorem addPlayerTeam_eq_ok :
    c.addPlayerTeam id a = .ok c' ↔
      c.hasTeam a.team = true ∧
        ∃ player, c.findPlayer? id = some player ∧ c.putPlayer (player.append a) = c' := by
  rw [addPlayerTeam, check_bind_eq_ok, discard_getTeam_eq_ok]
  simp [updatePlayer, bind_eq_ok, getPlayer_eq_ok, pure, Except.pure]

/-! ## What stays -/

/-- The stages are the same and no team is lost. -/
structure Enrolls (c c' : Competition) : Prop where
  stages : c'.stages = c.stages
  teams : ∀ id, c.hasTeam id = true → c'.hasTeam id = true

theorem Enrolls.of_teams (stages : c'.stages = c.stages) (teams : c'.teams = c.teams) :
    c.Enrolls c' where
  stages := stages
  teams id h := by rwa [hasTeam, findTeam?, teams]

theorem Enrolls.validate (grown : c.Enrolls c') (valid : c.validate = .ok ()) :
    c'.validate = .ok () := by
  obtain ⟨literals, graph⟩ := validate_eq_ok.mp valid
  refine validate_eq_ok.mpr ⟨fun slot mem => ?_, ?_⟩
  · rw [slots, grown.stages] at mem
    have named := checkLiteral_eq_ok.mp (literals slot mem)
    exact checkLiteral_eq_ok.mpr fun id h => grown.teams id (named id h)
  · rwa [dependencyGraph_congr grown.stages]

theorem enrolls_of_addClub (h : c.addClub club = .ok c') : c.Enrolls c' := by
  obtain ⟨-, rfl⟩ := addClub_eq_ok.mp h
  exact .of_teams rfl rfl

theorem enrolls_of_addTeam (h : c.addTeam team = .ok c') : c.Enrolls c' := by
  obtain ⟨-, -, rfl⟩ := addTeam_eq_ok.mp h
  refine ⟨rfl, fun id h => ?_⟩
  obtain ⟨t, mem, found⟩ := hasTeam_iff.mp h
  exact hasTeam_iff.mpr ⟨t, List.mem_append_left _ mem, found⟩

theorem hasTeam_putTeam : (c.putTeam team).hasTeam id = c.hasTeam id := by
  rw [Bool.eq_iff_iff, hasTeam_iff, hasTeam_iff, ← List.mem_map, ← List.mem_map, putTeam,
    map_putFirst]

theorem enrolls_of_setTeamClub {club : Option Ident} (h : c.setTeamClub id club = .ok c') :
    c.Enrolls c' := by
  obtain ⟨-, team, -, rfl⟩ := setTeamClub_eq_ok.mp h
  exact ⟨rfl, fun id registered => hasTeam_putTeam.trans registered⟩

theorem enrolls_of_addPlayer (h : c.addPlayer player = .ok c') : c.Enrolls c' := by
  obtain ⟨-, -, rfl⟩ := addPlayer_eq_ok.mp h
  exact .of_teams rfl rfl

theorem enrolls_of_addPlayerTeam (h : c.addPlayerTeam id a = .ok c') : c.Enrolls c' := by
  obtain ⟨-, player, -, rfl⟩ := addPlayerTeam_eq_ok.mp h
  exact .of_teams rfl rfl

end Competition

end Tourney
