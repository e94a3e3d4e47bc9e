import Tourney.Proofs.Competition.Registers

/-!
# Registers without loose ends

Identifiers are unique in each register, and whoever is named is registered: the club of every team
and the team of every affiliation (`Competition.Integral`). Every registration keeps this. So each
team with a club is listed by one club, and by one only (`Competition.Integral.clubTeams`).
-/

namespace Tourney

namespace Competition

variable {c c' : Competition} {club : Club} {team : Team} {player : Player} {id : Ident}
  {a : Affiliation}

/-- Identifiers are unique in each register, and whoever is named is registered. -/
structure Integral (c : Competition) : Prop where
  clubIds : (c.clubs.map (·.id)).Nodup
  teamIds : (c.teams.map (·.id)).Nodup
  playerIds : (c.players.map (·.id)).Nodup
  clubs : ∀ team ∈ c.teams, ∀ id, team.club = some id → c.hasClub id = true
  teams : ∀ player ∈ c.players, ∀ a ∈ player.teams, c.hasTeam a.team = true

theorem integral_new (name : String) : (new name).Integral where
  clubIds := .nil
  teamIds := .nil
  playerIds := .nil
  clubs _ mem := nomatch mem
  teams _ mem := nomatch mem

/-! ## Registrations -/

theorem Integral.addClub (h : c.Integral) (added : c.addClub club = .ok c') : c'.Integral := by
  obtain ⟨fresh, rfl⟩ := addClub_eq_ok.mp added
  refine { h with clubIds := nodup_map_concat h.clubIds fresh, clubs := ?_ }
  intro team mem id named
  obtain ⟨old, held, same⟩ := hasClub_iff.mp (h.clubs team mem id named)
  exact hasClub_iff.mpr ⟨old, List.mem_append_left _ held, same⟩

theorem Integral.addTeam (h : c.Integral) (added : c.addTeam team = .ok c') : c'.Integral := by
  have grown := enrolls_of_addTeam added
  obtain ⟨fresh, registered, rfl⟩ := addTeam_eq_ok.mp added
  refine { h with teamIds := nodup_map_concat h.teamIds fresh, clubs := ?_, teams := ?_ }
  · intro t mem id named
    rcases List.mem_append.mp mem with old | new
    · exact h.clubs t old id named
    · obtain rfl := List.mem_singleton.mp new
      exact registered id named
  · exact fun player mem a ha => grown.teams a.team (h.teams player mem a ha)

theorem Integral.setTeamClub {club : Option Ident} (h : c.Integral)
    (moved : c.setTeamClub id club = .ok c') : c'.Integral := by
  have grown := enrolls_of_setTeamClub moved
  obtain ⟨registered, team, -, rfl⟩ := setTeamClub_eq_ok.mp moved
  refine { h with teamIds := ?_, clubs := ?_, teams := ?_ }
  · rw [putTeam, map_putFirst]
    exact h.teamIds
  · intro t mem id named
    rcases mem_of_mem_putFirst mem with rfl | old
    · exact registered id named
    · exact h.clubs t old id named
  · exact fun player mem a ha => grown.teams a.team (h.teams player mem a ha)

theorem Integral.addPlayer (h : c.Integral) (added : c.addPlayer player = .ok c') :
    c'.Integral := by
  obtain ⟨fresh, registered, rfl⟩ := addPlayer_eq_ok.mp added
  refine { h with playerIds := nodup_map_concat h.playerIds fresh, teams := ?_ }
  intro p mem a ha
  rcases List.mem_append.mp mem with old | new
  · exact h.teams p old a ha
  · obtain rfl := List.mem_singleton.mp new
    exact registered a ha

theorem Integral.addPlayerTeam (h : c.Integral) (added : c.addPlayerTeam id a = .ok c') :
    c'.Integral := by
  obtain ⟨registered, player, found, rfl⟩ := addPlayerTeam_eq_ok.mp added
  refine { h with playerIds := ?_, teams := ?_ }
  · rw [putPlayer, map_putFirst]
    exact h.playerIds
  · intro p mem b hb
    rcases mem_of_mem_putFirst mem with rfl | old
    · rcases List.mem_append.mp hb with earlier | last
      · exact h.teams player (List.mem_of_find?_eq_some found) b earlier
      · obtain rfl := List.mem_singleton.mp last
        exact registered
    · exact h.teams p old b hb

/-! ## The teams of the clubs -/

/-- The teams of a club, in the order of their declaration. -/
def teamsOf (c : Competition) (club : Club) : List Team :=
  c.teams.filter (·.club == some club.id)

theorem mem_teamsOf : team ∈ c.teamsOf club ↔ team ∈ c.teams ∧ team.club = some club.id := by
  simp [teamsOf]

/-- The lists of different clubs have no team in common. -/
theorem Integral.pairwise_teamsOf (h : c.Integral) :
    (c.clubs.map c.teamsOf).Pairwise List.Disjoint := by
  rw [List.pairwise_map]
  refine (List.pairwise_map.mp h.clubIds).imp ?_
  intro club club' apart team mem mem'
  have named := (mem_teamsOf.mp mem).2.symm.trans (mem_teamsOf.mp mem').2
  exact apart (Option.some.inj named)

/-- Each team that has a club is in the list of one club, once. -/
theorem Integral.flatten_teamsOf (h : c.Integral) :
    (c.clubs.map c.teamsOf).flatten.Perm (c.teams.filter (·.club.isSome)) := by
  have distinct : c.teams.Nodup := h.teamIds.of_map _
  have once : (c.clubs.map c.teamsOf).flatten.Nodup := by
    refine List.nodup_flatten.mpr ⟨fun l mem => ?_, h.pairwise_teamsOf⟩
    obtain ⟨club, -, rfl⟩ := List.mem_map.mp mem
    exact distinct.filter _
  refine (List.perm_ext_iff_of_nodup once (distinct.filter _)).mpr fun team => ?_
  simp only [List.mem_flatten, List.mem_map, exists_exists_and_eq_and, mem_teamsOf,
    List.mem_filter, Option.isSome_iff_exists]
  constructor
  · rintro ⟨club, -, mem, named⟩
    exact ⟨mem, club.id, named⟩
  · rintro ⟨mem, id, named⟩
    obtain ⟨club, held, rfl⟩ := hasClub_iff.mp (h.clubs team mem id named)
    exact ⟨club, held, mem, named⟩

end Competition

end Tourney
