import Tourney.Competition.Roster
import Tourney.Proofs.Competition.Integrity

/-!
# Rosters in order

In a roster that starts empty and is changed by calls, successful or failing, the indexes are right at
every moment, so each call does what registering does, or leaves no trace (`Roster.Indexed.perform`).
What is looked up is found exactly if it is registered, and nobody who is named is missing
(`Roster.run_in_order`).
-/

namespace Tourney

/-! ## Indexes -/

/-- The index has the place of the first element with each identifier. -/
def Places.Indexes {α : Type} (key : α → Ident) (places : Places) (xs : List α) : Prop :=
  ∀ id, places id = xs.findIdx? (key · == id)

namespace Places.Indexes

variable {α : Type} {key : α → Ident} {places : Places} {xs ys : List α} {x : α} {id : Ident}

theorem empty : Places.Indexes key .empty ([] : List α) :=
  fun _ => rfl

theorem isSome_eq (h : places.Indexes key xs) (id : Ident) :
    (places id).isSome = (xs.find? (key · == id)).isSome := by
  rw [h id, List.findIdx?_isSome, List.isSome_find?]

theorem isSome_iff (h : places.Indexes key xs) (id : Ident) :
    (places id).isSome = true ↔ id ∈ xs.map key := by
  rw [h.isSome_eq]
  simp

theorem get_eq (h : places.Indexes key xs) (entity : Entity) (id : Ident) :
    places.get entity xs id =
      (xs.find? (key · == id)).elim (.error (.notFound entity id.text)) .ok := by
  rw [Places.get, h id, ← List.find?_eq_bind_findIdx?_getElem?]
  cases xs.find? (key · == id) <;> rfl

theorem concat (h : places.Indexes key xs) (fresh : (places (key x)).isSome = false) :
    (places.insert (key x) xs.length).Indexes key (xs ++ [x]) := by
  intro id
  rw [Places.insert, List.findIdx?_append]
  by_cases same : id = key x
  · subst same
    have absent : xs.findIdx? (key · == key x) = none := by
      rw [← h]
      simpa using fresh
    simp [absent]
  · simp [same, Ne.symm same, h id]

theorem of_map_eq (h : places.Indexes key xs) (same : ys.map key = xs.map key) :
    places.Indexes key ys := by
  have keys (zs : List α) (id : Ident) :
      zs.findIdx? (key · == id) = (zs.map key).findIdx? (· == id) := by
    rw [List.findIdx?_map]
    rfl
  intro id
  rw [h id, keys, keys, same]

theorem modify {n : Nat} {f : α → α} (h : places.Indexes key xs) (keeps : ∀ x, key (f x) = key x) :
    places.Indexes key (xs.modify n f) := by
  refine h.of_map_eq (List.ext_getElem? fun k => ?_)
  rw [List.getElem?_map, List.getElem?_map, List.getElem?_modify]
  cases xs[k]? with
  | none => rfl
  | some x => by_cases h : n = k <;> simp [h, keeps]

/-- A change at the place of an identifier is a change of what is found under it. -/
theorem modify_eq {n : Nat} {f : α → α} (found : xs.findIdx? (key · == id) = some n)
    (keeps : ∀ x, key (f x) = key x) :
    ∃ x, xs.find? (key · == id) = some x ∧ xs.modify n f = putFirst key (f x) xs := by
  induction xs generalizing n with
  | nil => cases found
  | cons y ys ih =>
      rw [List.findIdx?_cons] at found
      by_cases same : key y = id
      · simp only [same, beq_self_eq_true, ↓reduceIte, Option.some.injEq] at found
        subst found
        exact ⟨y, by simp [same], by simp [putFirst, keeps]⟩
      · simp only [same, beq_iff_eq, ↓reduceIte, Option.map_eq_some_iff] at found
        obtain ⟨m, later, rfl⟩ := found
        obtain ⟨x, hx, modified⟩ := ih later
        have apart : key y ≠ key (f x) := by
          rw [keeps, key_of_find? hx]
          exact same
        refine ⟨x, ?_, ?_⟩
        · rw [List.find?_cons_of_neg (by simpa using same), hx]
        · rw [List.modify_succ_cons, modified, putFirst, if_neg apart]

end Places.Indexes

namespace Roster

variable {r : Roster} {club : Club} {team : Team} {player : Player} {id : Ident} {a : Affiliation}

structure Indexed (r : Roster) : Prop where
  clubs : r.clubPlaces.Indexes (·.id) r.competition.clubs
  teams : r.teamPlaces.Indexes (·.id) r.competition.teams
  players : r.playerPlaces.Indexes (·.id) r.competition.players

theorem indexed_new (name : String) : (new name).Indexed :=
  ⟨.empty, .empty, .empty⟩

theorem Indexed.getClub (indexed : r.Indexed) (id : Ident) :
    r.getClub id = r.competition.getClub id := by
  rw [Roster.getClub, indexed.clubs.get_eq, Competition.getClub, Competition.findClub?]
  cases r.competition.clubs.find? (·.id == id) <;> rfl

theorem Indexed.getTeam (indexed : r.Indexed) (id : Ident) :
    r.getTeam id = r.competition.getTeam id := by
  rw [Roster.getTeam, indexed.teams.get_eq, Competition.getTeam, Competition.findTeam?]
  cases r.competition.teams.find? (·.id == id) <;> rfl

theorem Indexed.getPlayer (indexed : r.Indexed) (id : Ident) :
    r.getPlayer id = r.competition.getPlayer id := by
  rw [Roster.getPlayer, indexed.players.get_eq, Competition.getPlayer, Competition.findPlayer?]
  cases r.competition.players.find? (·.id == id) <;> rfl

theorem Indexed.checkClub (indexed : r.Indexed) (club : Option Ident) :
    r.checkClub club = r.competition.checkClub club := by
  cases club with
  | none => rfl
  | some id => exact congrArg discard (indexed.getClub id)

/-! ## Changes in place -/

/-- From a roster, a change ends with a competition and indexes of its registers, or it fails and
leaves the roster as it was. -/
def Makes (change : RosterChange Unit) (r : Roster) : Except Error Competition → Prop
  | .ok c => ∃ r', (ExceptT.run change).run r = (.ok (), r') ∧ r'.competition = c ∧ r'.Indexed
  | .error e => (ExceptT.run change).run r = (.error e, r)

section Steps

variable {α : Type} {first : RosterChange α} {next : α → RosterChange Unit} {check : Except Error α}
  {after : α → Except Error Competition} {result : Except Error Competition} {f g : Roster → Roster}

theorem makes_get_bind {next : Roster → RosterChange Unit} (h : Makes (next r) r result) :
    Makes (get >>= next) r result :=
  h

theorem makes_bind (passes : Gives first r check)
    (rest : ∀ x, check = .ok x → Makes (next x) r (after x)) :
    Makes (first >>= next) r (check >>= after) := by
  cases check with
  | error e =>
      unfold Makes
      rw [ExceptT.run_bind, StateT.run_bind, passes]
      rfl
  | ok x =>
      have run : (ExceptT.run (first >>= next)).run r = (ExceptT.run (next x)).run r := by
        rw [ExceptT.run_bind, StateT.run_bind, passes]
        rfl
      have made := rest x rfl
      unfold Makes at made ⊢
      rwa [← run] at made

theorem makes_modify_modify (indexed : (g (f r)).Indexed) :
    Makes (modify f >>= fun _ => modify g) r (.ok (g (f r)).competition) :=
  ⟨g (f r), rfl, rfl, indexed⟩

end Steps

theorem refuseTaken_eq_ok {places : Places} {entity : Entity} {u : Unit} :
    refuseTaken places entity id = .ok u ↔ (places id).isSome = false := by
  unfold refuseTaken
  split <;> simp_all

/-! ## Calls -/

theorem Indexed.addClub (indexed : r.Indexed) (club : Club) :
    Makes (Roster.addClub club) r (r.competition.addClub club) := by
  have checked : r.competition.addClub club =
      refuseTaken r.clubPlaces .club club.id >>= fun _ =>
        .ok { r.competition with clubs := r.competition.clubs ++ [club] } := by
    rw [Competition.addClub, Competition.hasClub, Competition.findClub?, refuseTaken,
      indexed.clubs.isSome_eq]
    split <;> rfl
  rw [checked]
  refine makes_get_bind (makes_bind (gives_ofExcept _) fun _ fresh => makes_modify_modify ?_)
  exact { indexed with clubs := indexed.clubs.concat (refuseTaken_eq_ok.mp fresh) }

theorem Indexed.addTeam (indexed : r.Indexed) (team : Team) :
    Makes (Roster.addTeam team) r (r.competition.addTeam team) := by
  have checked : r.competition.addTeam team =
      refuseTaken r.teamPlaces .team team.id >>= fun _ => r.checkClub team.club >>= fun _ =>
        .ok { r.competition with teams := r.competition.teams ++ [team] } := by
    rw [Competition.addTeam, Competition.hasTeam, Competition.findTeam?, refuseTaken,
      indexed.teams.isSome_eq, indexed.checkClub]
    split <;> rfl
  rw [checked]
  refine makes_get_bind (makes_bind (gives_ofExcept _) fun _ fresh => ?_)
  refine makes_get_bind (makes_bind (gives_ofExcept _) fun _ _ => makes_modify_modify ?_)
  exact { indexed with teams := indexed.teams.concat (refuseTaken_eq_ok.mp fresh) }

theorem Indexed.addPlayer (indexed : r.Indexed) (player : Player) :
    Makes (Roster.addPlayer player) r (r.competition.addPlayer player) := by
  have checked : r.competition.addPlayer player =
      refuseTaken r.playerPlaces .player player.id >>= fun _ =>
        (player.teams.forM fun a => discard (r.getTeam a.team)) >>= fun _ =>
          .ok { r.competition with players := r.competition.players ++ [player] } := by
    rw [Competition.addPlayer, Competition.findPlayer?, refuseTaken, indexed.players.isSome_eq]
    simp only [indexed.getTeam]
    split <;> rfl
  rw [checked]
  refine makes_get_bind (makes_bind (gives_ofExcept _) fun _ fresh => ?_)
  refine makes_bind (gives_forM fun a _ => ?_) fun _ _ => makes_modify_modify ?_
  · exact gives_get_bind (gives_discard (gives_ofExcept _))
  · exact { indexed with players := indexed.players.concat (refuseTaken_eq_ok.mp fresh) }

/-- An index leads to the place where an update puts what it changes. -/
theorem makes_update {α : Type} {places : Places} {entity : Entity} {key : α → Ident}
    {xs : List α} {f : α → α} (put : List α → Competition) (write : Nat → Roster → Roster)
    (index : places.Indexes key xs) (keeps : ∀ x, key (f x) = key x)
    (writes : ∀ n, (write n r).competition = put (xs.modify n f))
    (indexed : ∀ n, (write n r).Indexed) :
    Makes (MonadExcept.ofExcept (places.place entity id) >>= fun n => modify (write n)) r
      ((xs.find? (key · == id)).elim (.error (.notFound entity id.text)) fun x =>
        .ok (put (putFirst key (f x) xs))) := by
  cases place : places id with
  | none =>
      have missing : xs.find? (key · == id) = none := by
        rw [← Option.isNone_iff_eq_none, ← Option.not_isSome, ← index.isSome_eq, place]
        simp
      rw [missing, Places.place, place]
      rfl
  | some n =>
      obtain ⟨x, found, modified⟩ := Places.Indexes.modify_eq ((index id).symm.trans place) keeps
      rw [found, Places.place, place, Option.elim, ← modified, ← writes]
      exact ⟨write n r, rfl, rfl, indexed n⟩

theorem Indexed.setTeamClub (indexed : r.Indexed) (id : Ident) (club : Option Ident) :
    Makes (Roster.setTeamClub id club) r (r.competition.setTeamClub id club) := by
  have checked : r.competition.setTeamClub id club =
      r.checkClub club >>= fun _ =>
        (r.competition.teams.find? (·.id == id)).elim (.error (.notFound .team id.text)) fun team =>
          .ok { r.competition with
            teams := putFirst (·.id) { team with club := club } r.competition.teams } := by
    rw [Competition.setTeamClub, Competition.updateTeam, Competition.getTeam,
      Competition.findTeam?, indexed.checkClub]
    cases r.competition.teams.find? (·.id == id) <;> rfl
  rw [checked]
  refine makes_get_bind (makes_bind (gives_ofExcept _) fun _ _ => makes_get_bind ?_)
  refine makes_update (fun teams => { r.competition with teams := teams })
    (fun n r =>
      { r with competition.teams := r.competition.teams.modify n ({ · with club := club }) })
    indexed.teams (fun _ => rfl) (fun _ => rfl) fun n => ?_
  exact { indexed with teams := indexed.teams.modify fun _ => rfl }

theorem Indexed.addPlayerTeam (indexed : r.Indexed) (id : Ident) (a : Affiliation) :
    Makes (Roster.addPlayerTeam id a) r (r.competition.addPlayerTeam id a) := by
  have checked : r.competition.addPlayerTeam id a =
      discard (r.getTeam a.team) >>= fun _ =>
        (r.competition.players.find? (·.id == id)).elim (.error (.notFound .player id.text))
          fun player => .ok { r.competition with
            players := putFirst (·.id) (player.append a) r.competition.players } := by
    rw [Competition.addPlayerTeam, Competition.updatePlayer, Competition.getPlayer,
      Competition.findPlayer?, indexed.getTeam]
    cases r.competition.players.find? (·.id == id) <;> rfl
  rw [checked]
  refine makes_get_bind (makes_bind (gives_discard (gives_ofExcept _)) fun _ _ =>
    makes_get_bind ?_)
  refine makes_update (fun players => { r.competition with players := players })
    (fun n r =>
      { r with competition.players := r.competition.players.modify n (·.append a) })
    indexed.players (fun _ => rfl) (fun _ => rfl) fun n => ?_
  exact { indexed with players := indexed.players.modify fun _ => rfl }

/-- What a call does where nothing is indexed. -/
def Call.attempt : Call → Competition → Except Error Competition
  | .addClub club, c => c.addClub club
  | .addTeam team, c => c.addTeam team
  | .setTeamClub team club, c => c.setTeamClub team club
  | .addPlayer player, c => c.addPlayer player
  | .addPlayerTeam player a, c => c.addPlayerTeam player a

theorem Indexed.makes (indexed : r.Indexed) (call : Call) :
    Makes call.change r (call.attempt r.competition) := by
  cases call with
  | addClub club => exact indexed.addClub club
  | addTeam team => exact indexed.addTeam team
  | setTeamClub team club => exact indexed.setTeamClub team club
  | addPlayer player => exact indexed.addPlayer player
  | addPlayerTeam player a => exact indexed.addPlayerTeam player a

/-- A call does to an indexed roster what registering does, or it fails and leaves no trace. -/
theorem Indexed.perform (indexed : r.Indexed) (call : Call) :
    (∃ r', call.perform r = (.ok (), r') ∧ call.attempt r.competition = .ok r'.competition ∧
        r'.Indexed) ∨
      ∃ e, call.perform r = (.error e, r) ∧ call.attempt r.competition = .error e := by
  have made := indexed.makes call
  cases attempted : call.attempt r.competition with
  | ok c =>
      rw [attempted] at made
      obtain ⟨r', performed, rfl, indexed'⟩ := made
      exact .inl ⟨r', performed, rfl, indexed'⟩
  | error e =>
      rw [attempted] at made
      exact .inr ⟨e, made, rfl⟩

theorem integral_of_attempt {c c' : Competition} {call : Call} (h : c.Integral)
    (attempted : call.attempt c = .ok c') : c'.Integral := by
  cases call with
  | addClub club => exact h.addClub attempted
  | addTeam team => exact h.addTeam attempted
  | setTeamClub team club => exact h.setTeamClub attempted
  | addPlayer player => exact h.addPlayer attempted
  | addPlayerTeam player a => exact h.addPlayerTeam attempted

/-! ## Runs -/

structure Sound (r : Roster) : Prop where
  indexed : r.Indexed
  integral : r.competition.Integral

theorem sound_new (name : String) : (new name).Sound :=
  ⟨indexed_new name, Competition.integral_new name⟩

theorem Sound.perform (sound : r.Sound) (call : Call) : (call.perform r).2.Sound := by
  rcases sound.indexed.perform call with ⟨r', performed, attempted, indexed⟩ | ⟨e, performed, -⟩
  · rw [performed]
    exact ⟨indexed, integral_of_attempt sound.integral attempted⟩
  · rw [performed]
    exact sound

theorem Sound.run (sound : r.Sound) (calls : List Call) : (run calls r).Sound := by
  induction calls generalizing r with
  | nil => exact sound
  | cons call calls ih => exact ih (sound.perform call)

/-! ## What is found -/

/-- A lookup finds what is in a list, each element under its own identifier, and nothing else. -/
def Finds {α : Type} (entity : Entity) (key : α → Ident) (xs : List α)
    (lookup : Ident → Except Error α) : Prop :=
  (∀ id x, lookup id = .ok x ↔ x ∈ xs ∧ key x = id) ∧
    ∀ id, id ∉ xs.map key → lookup id = .error (.notFound entity id.text)

theorem finds_get {α : Type} {key : α → Ident} {places : Places} {xs : List α}
    (index : places.Indexes key xs) (unique : (xs.map key).Nodup) (entity : Entity) :
    Finds entity key xs (places.get entity xs) := by
  refine ⟨fun id x => ?_, fun id missing => ?_⟩
  · have found : places.get entity xs id = .ok x ↔ xs.find? (key · == id) = some x := by
      rw [index.get_eq]
      cases xs.find? (key · == id) <;> simp
    rw [found]
    constructor
    · exact fun h => ⟨List.mem_of_find?_eq_some h, key_of_find? h⟩
    · rintro ⟨mem, rfl⟩
      exact find?_id_eq_some unique mem
  · have none : xs.find? (key · == id) = none := by
      simpa using missing
    rw [index.get_eq, none]
    rfl

theorem Sound.getClub (sound : r.Sound) : Finds .club (·.id) r.competition.clubs r.getClub :=
  finds_get sound.indexed.clubs sound.integral.clubIds .club

theorem Sound.getTeam (sound : r.Sound) : Finds .team (·.id) r.competition.teams r.getTeam :=
  finds_get sound.indexed.teams sound.integral.teamIds .team

theorem Sound.getPlayer (sound : r.Sound) :
    Finds .player (·.id) r.competition.players r.getPlayer :=
  finds_get sound.indexed.players sound.integral.playerIds .player

theorem Sound.teamClub (sound : r.Sound) (mem : team ∈ r.competition.teams) :
    ∃ club, r.teamClub team.id = .ok club ∧ club.map (·.id) = team.club := by
  have found := (sound.getTeam.1 team.id team).mpr ⟨mem, rfl⟩
  cases named : team.club with
  | none =>
      refine ⟨none, ?_, rfl⟩
      simp [Roster.teamClub, found, named, bind, Except.bind, pure, Except.pure]
  | some id =>
      obtain ⟨club, held, rfl⟩ := Competition.hasClub_iff.mp (sound.integral.clubs team mem id named)
      have found' := (sound.getClub.1 club.id club).mpr ⟨held, rfl⟩
      refine ⟨some club, ?_, rfl⟩
      simp [Roster.teamClub, found, named, found', bind, Except.bind, pure, Except.pure]

theorem Sound.playerTeams (sound : r.Sound) (mem : player ∈ r.competition.players) :
    r.playerTeams player.id = .ok player.teams := by
  have found := (sound.getPlayer.1 player.id player).mpr ⟨mem, rfl⟩
  rw [Roster.playerTeams, found]
  rfl

theorem Sound.clubTeams (sound : r.Sound) :
    r.competition.clubs.mapM (fun club => r.clubTeams club.id) =
      .ok (r.competition.clubs.map r.competition.teamsOf) := by
  rw [mapM_eq_ok, List.forall₂_map_right_iff, List.forall₂_same]
  intro club mem
  have found := (sound.getClub.1 club.id club).mpr ⟨mem, rfl⟩
  rw [Roster.clubTeams, found]
  rfl

/-- After any calls, successful or failing, identifiers are unique in each register. What is looked
up is found if and only if it is registered. The club of each team and the team of each affiliation
are found. The lists of the clubs have each team with a club once, in the order of the teams. One more
call does what registering does, or it fails and leaves no trace. -/
theorem run_in_order (name : String) (calls : List Call) :
    let r := run calls (new name)
    let c := r.competition
    ((c.clubs.map (·.id)).Nodup ∧ (c.teams.map (·.id)).Nodup ∧ (c.players.map (·.id)).Nodup) ∧
      (Finds .club (·.id) c.clubs r.getClub ∧ Finds .team (·.id) c.teams r.getTeam ∧
        Finds .player (·.id) c.players r.getPlayer) ∧
      (∀ id, (r.hasClub id = true ↔ id ∈ c.clubs.map (·.id)) ∧
        (r.hasTeam id = true ↔ id ∈ c.teams.map (·.id))) ∧
      (∀ team ∈ c.teams, ∃ club, r.teamClub team.id = .ok club ∧ club.map (·.id) = team.club) ∧
      (∀ player ∈ c.players, r.playerTeams player.id = .ok player.teams ∧
        ∀ a ∈ player.teams, ∃ team, r.getTeam a.team = .ok team) ∧
      (∃ lists, c.clubs.mapM (fun club => r.clubTeams club.id) = .ok lists ∧
        (∀ l ∈ lists, l.Sublist c.teams) ∧ lists.Pairwise List.Disjoint ∧
        lists.flatten.Perm (c.teams.filter (·.club.isSome))) ∧
      ∀ call : Call,
        (∃ r', call.perform r = (.ok (), r') ∧ call.attempt c = .ok r'.competition) ∨
          ∃ e, call.perform r = (.error e, r) ∧ call.attempt c = .error e := by
  intro r c
  have sound : r.Sound := (sound_new name).run calls
  have integral : c.Integral := sound.integral
  refine ⟨⟨integral.clubIds, integral.teamIds, integral.playerIds⟩,
    ⟨sound.getClub, sound.getTeam, sound.getPlayer⟩,
    fun id => ⟨sound.indexed.clubs.isSome_iff id, sound.indexed.teams.isSome_iff id⟩,
    fun team mem => sound.teamClub mem, fun player mem => ⟨sound.playerTeams mem, ?_⟩,
    ⟨_, sound.clubTeams, ?_, integral.pairwise_teamsOf, integral.flatten_teamsOf⟩, ?_⟩
  · intro a ha
    obtain ⟨team, held, same⟩ := Competition.hasTeam_iff.mp (integral.teams player mem a ha)
    exact ⟨team, (sound.getTeam.1 a.team team).mpr ⟨held, same⟩⟩
  · intro l mem
    obtain ⟨club, -, rfl⟩ := List.mem_map.mp mem
    exact List.filter_sublist
  · intro call
    rcases sound.indexed.perform call with ⟨r', performed, attempted, -⟩ | failed
    · exact .inl ⟨r', performed, attempted⟩
    · exact .inr failed

end Roster

namespace SmallCup

def homeClub : Ident := ⟨"HC", by decide, by decide, List.all_eq_true.mp rfl⟩
def guest : Ident := ⟨"P1", by decide, by decide, List.all_eq_true.mp rfl⟩

def hosts : Team :=
  { Team.new teamA "A" with club := some homeClub }

/-- A club with one of the two teams, and a player who joins the other one. In between a team comes
before its club, a team is registered again, the other one is to join an unknown club, and the player
is registered with an unknown team. -/
def enrolling : List Roster.Call :=
  [.addTeam hosts, .addClub (.new homeClub "Home"), .addTeam hosts, .addTeam (.new teamA "A"),
    .addTeam (.new teamB "B"), .setTeamClub teamB (some guest),
    .addPlayer { Player.new guest "Guest" with teams := [.new teamA, .new guest] },
    .addPlayer (.new guest "Guest"), .addPlayerTeam guest (.new teamB)]

def enrolled : Roster :=
  .run enrolling (.new "Small cup")

theorem enrolled_competition :
    enrolled.competition = { cup with
      stages := []
      clubs := [.new homeClub "Home"]
      teams := [hosts, .new teamB "B"]
      players := [{ Player.new guest "Guest" with teams := [.new teamB] }] } := by
  rfl

/-- The hosts are the one team of the one club, and the guest has joined the other team. -/
theorem enrolled_in_order :
    (∃ club, enrolled.teamClub teamA = .ok club ∧ club.map (·.id) = some homeClub) ∧
      enrolled.playerTeams guest = .ok [.new teamB] ∧ (∃ team, enrolled.getTeam teamB = .ok team) ∧
      (∃ lists, enrolled.competition.clubs.mapM (fun club => enrolled.clubTeams club.id) =
        .ok lists ∧ lists.flatten.Perm [hosts]) ∧
      ∃ e, Roster.Call.perform (.addTeam hosts) enrolled = (.error e, enrolled) := by
  obtain ⟨-, -, -, clubs, players, ⟨lists, found, -, -, once⟩, calls⟩ :=
    Roster.run_in_order "Small cup" enrolling
  have hostsListed : hosts ∈ enrolled.competition.teams := by
    rw [enrolled_competition]
    exact List.mem_cons_self
  have guestListed : { Player.new guest "Guest" with teams := [.new teamB] } ∈
      enrolled.competition.players := by
    rw [enrolled_competition]
    exact List.mem_cons_self
  obtain ⟨affiliated, teams⟩ := players _ guestListed
  refine ⟨clubs hosts hostsListed, affiliated, teams _ List.mem_cons_self, ⟨lists, found, once⟩, ?_⟩
  rcases calls (.addTeam hosts) with ⟨r', -, attempted⟩ | ⟨e, performed, -⟩
  · cases attempted
  · exact ⟨e, performed⟩

end SmallCup

end Tourney
