import Tourney.Proofs.League.Totals
import Tourney.Proofs.Resolution.Ranks

/-!
# The accounts of a league

Every complete match that counts is entered twice in the table of its league, in the row of each of
its teams, and nothing else is entered (`Competition.Accounts`). This holds of every table whose rows
have room for what their teams have gathered, and no match is left out of it.
-/

namespace Tourney

/-! ## The matches that are entered -/

structure PlayedMatch where
  game : Match
  evaluation : Evaluation

namespace PlayedMatch

def isDraw (p : PlayedMatch) : Bool :=
  p.evaluation.outcome == .draw

/-- The sets of both sides. -/
def sets (p : PlayedMatch) : Nat :=
  p.evaluation.sets.home + p.evaluation.sets.away

/-- The points of both sides. -/
def points (p : PlayedMatch) : Int :=
  (p.game.scores.map fun s => s.home + s.away).sum

/-- A match in sets was decided by a single one. -/
def Close (p : PlayedMatch) (form : MatchForm) : Prop :=
  form = .sets ∧ ((p.evaluation.sets.home : Int) - p.evaluation.sets.away).natAbs = 1

instance (p : PlayedMatch) (form : MatchForm) : Decidable (p.Close form) :=
  inferInstanceAs (Decidable (_ ∧ _))

/-- The league points that a side has for the result. -/
def award (p : PlayedMatch) (form : MatchForm) (points : PointsAward) (side : Side) : Int :=
  if p.isDraw then points.draw
  else
    let (plain, byOne) := if p.evaluation.outcome = .wonBy side
      then (points.win, points.winByOne) else (points.lose, points.loseByOne)
    if p.Close form then byOne.getD plain else plain

/-- The league points that a side has for the match. -/
def worth (p : PlayedMatch) (form : MatchForm) (points : PointsAward) (side : Side) : Int :=
  points.played + points.perSet * p.evaluation.sets.of side + p.award form points side

/-- What a side has for the match. -/
def line (p : PlayedMatch) (form : MatchForm) (points : PointsAward) (side : Side) : Record where
  played := 1
  wins := if p.evaluation.outcome = .wonBy side then 1 else 0
  losses := if p.evaluation.outcome = .wonBy side.opposite then 1 else 0
  draws := if p.isDraw then 1 else 0
  setsFor := p.evaluation.sets.of side
  setsAgainst := p.evaluation.sets.of side.opposite
  pointsFor := (p.game.scores.map (·.points side)).sum
  pointsAgainst := (p.game.scores.map (·.points side.opposite)).sum
  leaguePoints := p.worth form points side

end PlayedMatch

/-- The complete matches that count for the table. -/
def Group.played (g : Group) : List PlayedMatch :=
  g.leagueMatches.filterMap fun m => m.evaluation?.map (⟨m, ·⟩)

namespace Competition

/-- The complete matches of a team that count for the table, once for each side on which it plays. -/
def appearances (c : Competition) (g : Group) (team : Ident) : List (PlayedMatch × Side) :=
  g.played.flatMap fun p =>
    ([.home, .away].filter fun side => c.resolve (p.game.slot side) = .ok team).map (p, ·)

/-- What a team has gathered in these matches, however much it is. -/
def gathered (c : Competition) (g : Group) (points : PointsAward) (team : Ident) : Record :=
  .total ((c.appearances g team).map fun (p, side) => p.line g.form points side)

/-- What the rows of a table come to, given the matches of the league. -/
structure Accounts (c : Competition) (g : Group) (points : PointsAward) (rows : List Row) :
    Prop where
  balanced : ∀ row ∈ rows,
    row.record.played = row.record.wins + row.record.losses + row.record.draws
  played : (rows.map (·.record.played)).sum = 2 * g.played.length
  wins : (rows.map (·.record.wins)).sum + (g.played.filter (·.isDraw)).length = g.played.length
  losses : (rows.map (·.record.losses)).sum + (g.played.filter (·.isDraw)).length = g.played.length
  draws : (rows.map (·.record.draws)).sum = 2 * (g.played.filter (·.isDraw)).length
  setsFor : (rows.map (·.record.setsFor)).sum = (g.played.map (·.sets)).sum
  setsAgainst : (rows.map (·.record.setsAgainst)).sum = (g.played.map (·.sets)).sum
  pointsFor : (rows.map (·.record.pointsFor)).sum = (g.played.map (·.points)).sum
  pointsAgainst : (rows.map (·.record.pointsAgainst)).sum = (g.played.map (·.points)).sum
  leaguePoints : ∀ row ∈ rows, row.record.leaguePoints =
    ((c.appearances g row.team).map fun (p, side) => p.worth g.form points side).sum

end Competition

/-! ## Matches and results -/

/-- A result is that of a match. -/
structure Counts (c : Competition) (p : PlayedMatch) (r : LeagueResult) : Prop where
  home : c.resolve p.game.home = .ok r.home
  away : c.resolve p.game.away = .ok r.away
  evaluation : p.evaluation = r.evaluation
  scores : p.game.scores = r.scores

theorem LeagueResult.points_eq_sum (r : LeagueResult) (side : Side) :
    r.points side = (r.scores.map (·.points side)).sum := by
  rw [points, List.sum_eq_foldr, List.foldr_map]

namespace Counts

variable {c : Competition} {p : PlayedMatch} {r : LeagueResult} {form : MatchForm}
  {award : PointsAward}

theorem team (h : Counts c p r) (side : Side) : c.resolve (p.game.slot side) = .ok (r.team side) := by
  cases side with
  | home => exact h.home
  | away => exact h.away

theorem wins (h : Counts c p r) :
    (r.line form award .home).wins + (r.line form award .away).wins = if p.isDraw then 0 else 1 := by
  unfold PlayedMatch.isDraw LeagueResult.line
  rw [h.evaluation]
  cases r.evaluation.outcome with
  | draw => simp
  | wonBy winner => cases winner <;> simp

theorem losses (h : Counts c p r) :
    (r.line form award .home).losses + (r.line form award .away).losses =
      if p.isDraw then 0 else 1 := by
  unfold PlayedMatch.isDraw LeagueResult.line
  rw [h.evaluation]
  cases r.evaluation.outcome with
  | draw => simp
  | wonBy winner => cases winner <;> simp [Side.opposite]

theorem draws (h : Counts c p r) :
    (r.line form award .home).draws + (r.line form award .away).draws = if p.isDraw then 2 else 0 := by
  unfold PlayedMatch.isDraw LeagueResult.line
  rw [h.evaluation]
  cases r.evaluation.outcome <;> simp

theorem sets (h : Counts c p r) : r.evaluation.sets.home + r.evaluation.sets.away = p.sets := by
  rw [PlayedMatch.sets, h.evaluation]

theorem points (h : Counts c p r) : r.points .home + r.points .away = p.points := by
  rw [PlayedMatch.points, h.scores, r.points_eq_sum, r.points_eq_sum, ← List.sum_map_add]
  rfl

theorem byOne (h : Counts c p r) : r.byOne form = true ↔ p.Close form := by
  unfold LeagueResult.byOne PlayedMatch.Close
  rw [h.evaluation]
  simp only [Bool.and_eq_true, Bool.or_eq_true, beq_iff_eq]
  refine and_congr_right fun _ => ?_
  omega

theorem line (h : Counts c p r) (side : Side) : r.line form award side = p.line form award side := by
  have award : r.award form award side = p.award form award side := by
    unfold LeagueResult.award PlayedMatch.award PlayedMatch.isDraw
    simp only [h.byOne, h.evaluation]
    cases r.evaluation.outcome with
    | draw => simp
    | wonBy winner => by_cases own : winner = side <;> simp [own]
  have draw : p.isDraw = true ↔ r.evaluation.outcome = .draw := by
    rw [PlayedMatch.isDraw, h.evaluation, beq_iff_eq]
  simp only [LeagueResult.line, PlayedMatch.line, PlayedMatch.worth, ← award, draw, h.evaluation,
    h.scores, LeagueResult.points_eq_sum]

end Counts

/-! ## The results of a league -/

section

variable {c : Competition} {g : Group} {fixtures : List Fixture} {rows : List Row}

theorem counts_of_fixtures
    (found : g.leagueMatches.mapM (Competition.fixtureVia c.resolve) = .ok fixtures) :
    List.Forall₂ (Counts c) g.played (fixtures.filterMap Fixture.result?) := by
  refine List.rel_filterMap (fun m f teams => ?_) (mapM_eq_ok.mp found)
  obtain ⟨home, hh, away, ha, rfl⟩ := Competition.fixtureVia_eq_ok.mp teams
  unfold Fixture.result?
  cases m.evaluation? with
  | none => exact .none
  | some e => exact .some ⟨hh, ha, rfl, rfl⟩

/-- The teams of every result are listed. -/
theorem Fixture.isAmong_allTeams {r : LeagueResult} (mem : r ∈ fixtures.filterMap Fixture.result?) :
    r.isAmong (allTeams fixtures) = true := by
  obtain ⟨f, hf, result⟩ := List.mem_filterMap.mp mem
  obtain ⟨e, -, rfl⟩ := Option.map_eq_some_iff.mp result
  have home : f.home ∈ allTeams fixtures := mem_allTeams.mpr ⟨f, hf, .inl rfl⟩
  have away : f.away ∈ allTeams fixtures := mem_allTeams.mpr ⟨f, hf, .inr rfl⟩
  simp [LeagueResult.isAmong, home, away]

theorem Counts.lines {p : PlayedMatch} {r : LeagueResult} (h : Counts c p r) (form : MatchForm)
    (award : PointsAward) (team : Ident) :
    r.lines form award team =
      (([.home, .away].filter fun side => c.resolve (p.game.slot side) = .ok team).map
        fun side => p.line form award side) := by
  have plays (side : Side) : c.resolve (p.game.slot side) = .ok team ↔ r.team side = team := by
    rw [h.team side, Except.ok.injEq]
  unfold LeagueResult.lines
  by_cases home : r.home = team <;> by_cases away : r.away = team <;>
    simp [plays, LeagueResult.team, home, away, h.line]

theorem sum_by_result (played : List PlayedMatch) (drawn decided : Nat) :
    (played.map fun p => if p.isDraw then drawn else decided).sum +
        decided * (played.filter (·.isDraw)).length =
      decided * played.length + drawn * (played.filter (·.isDraw)).length := by
  induction played with
  | nil => simp
  | cons p rest ih =>
      cases draw : p.isDraw <;> simp [draw, Nat.mul_add] <;> omega

theorem mem_appearances {p : PlayedMatch} {side : Side} {team : Ident} :
    (p, side) ∈ c.appearances g team ↔
      p ∈ g.played ∧ c.resolve (p.game.slot side) = .ok team := by
  unfold Competition.appearances
  simp only [List.mem_flatMap, List.mem_map, List.mem_filter, Prod.mk.injEq, decide_eq_true_eq]
  constructor
  · rintro ⟨_, mem, _, ⟨-, plays⟩, rfl, rfl⟩
    exact ⟨mem, plays⟩
  · rintro ⟨mem, plays⟩
    refine ⟨p, mem, side, ⟨?_, plays⟩, rfl, rfl⟩
    cases side <;> simp

/-- Both teams of a match that counts have a row. -/
theorem exists_row_of_fixtures (config : LeagueConfig)
    (found : g.leagueMatches.mapM (Competition.fixtureVia c.resolve) = .ok fixtures)
    {p : PlayedMatch} (mem : p ∈ g.played) (side : Side) :
    ∃ row ∈ g.tableOf config fixtures, c.resolve (p.game.slot side) = .ok row.team := by
  obtain ⟨r, hr, counts⟩ := exists_of_forall₂_left (counts_of_fixtures found) mem
  have sides := Fixture.isAmong_allTeams hr
  simp only [LeagueResult.isAmong, Bool.and_eq_true, List.contains_iff_mem] at sides
  have listed : r.team side ∈ Fixture.allTeams fixtures := by
    cases side with
    | home => exact sides.1
    | away => exact sides.2
  obtain ⟨row, hrow, team⟩ := List.mem_map.mp
    ((map_team_table_perm _ (fixtures.filterMap Fixture.result?) g.form config).mem_iff.mpr listed)
  exact ⟨row, hrow, team ▸ counts.team side⟩

/-- The results of the league bring to a team what its matches do. -/
theorem gathered_eq {award : PointsAward}
    (found : g.leagueMatches.mapM (Competition.fixtureVia c.resolve) = .ok fixtures)
    (team : Ident) :
    Tourney.gathered (Fixture.allTeams fixtures) (fixtures.filterMap Fixture.result?) g.form award
      team = c.gathered g award team := by
  rw [gathered_eq_total fun _ => Fixture.isAmong_allTeams, Competition.gathered,
    Competition.appearances, List.map_flatMap]
  refine congrArg Record.total
    (flatMap_eq_of_forall₂ (counts_of_fixtures found) fun p r hr => ?_).symm
  rw [hr.lines, List.map_map]
  rfl

theorem record_of_mem_tableOf {config : LeagueConfig} {row : Row}
    (found : g.leagueMatches.mapM (Competition.fixtureVia c.resolve) = .ok fixtures)
    (mem : row ∈ g.tableOf config fixtures) :
    row.record = (c.gathered g config.points row.team).wrap := by
  rw [← gathered_eq found]
  exact (record_of_mem_table (Fixture.nodup_allTeams fixtures) mem).2

/-- What both sides of each match come to, all rows come to together. -/
theorem sum_tableOf {M : Type} [AddCommMonoid M] {f : Record → M} {of : PlayedMatch → M}
    {config : LeagueConfig}
    (found : g.leagueMatches.mapM (Competition.fixtureVia c.resolve) = .ok fixtures)
    (fits : ∀ row ∈ g.tableOf config fixtures, (c.gathered g config.points row.team).Fits)
    (additive : Record.Additive f)
    (each : ∀ p r, Counts c p r →
      f (r.line g.form config.points .home) + f (r.line g.form config.points .away) = of p) :
    ((g.tableOf config fixtures).map fun row => f row.record).sum = (g.played.map of).sum := by
  simp only [← gathered_eq found] at fits
  rw [Group.tableOf, sum_table additive (Fixture.nodup_allTeams fixtures)
    (fun _ => Fixture.isAmong_allTeams) fits]
  exact congrArg List.sum
    (map_eq_of_forall₂ (counts_of_fixtures found) fun p r hr => (each p r hr).symm).symm

theorem leaguePoints_gathered (c : Competition) (g : Group) (points : PointsAward) (team : Ident) :
    (c.gathered g points team).leaguePoints =
      ((c.appearances g team).map fun (p, side) => p.worth g.form points side).sum := by
  have additive : Record.Additive Record.leaguePoints := ⟨rfl, fun _ _ => rfl⟩
  rw [Competition.gathered, additive.total, List.map_map]
  rfl

theorem Group.leagueConfig_eq_ok {config : LeagueConfig} :
    g.leagueConfig = .ok config ↔ g.kind = .league config := by
  unfold leagueConfig
  split <;> simp_all

/-- A row of a league has what it keeps of all that its team has gathered, no complete match that
counts is left out, and every table that has room for all of it is a true account of these matches. -/
theorem Competition.accounts_of_standings (h : c.standings g = .ok rows) :
    ∃ config, g.kind = .league config ∧
      (∀ row ∈ rows, row.record = (c.gathered g config.points row.team).wrap) ∧
      (∀ p ∈ g.played, ∀ side, ∃ row ∈ rows, (p, side) ∈ c.appearances g row.team) ∧
      ((∀ row ∈ rows, (c.gathered g config.points row.team).Fits) →
        c.Accounts g config.points rows) := by
  obtain ⟨config, settings, h⟩ := bind_eq_ok.mp h
  obtain ⟨fixtures, found, heq⟩ := bind_eq_ok.mp h
  cases heq
  refine ⟨config, Group.leagueConfig_eq_ok.mp settings,
    fun row mem => record_of_mem_tableOf found mem, fun p mem side => ?_, fun fits => ?_⟩
  · obtain ⟨row, hrow, plays⟩ := exists_row_of_fixtures config found mem side
    exact ⟨row, hrow, mem_appearances.mpr ⟨mem, plays⟩⟩
  have exact_record {row : Row} (mem : row ∈ g.tableOf config fixtures) :
      row.record = c.gathered g config.points row.team :=
    (record_of_mem_tableOf found mem).trans (Record.wrap_eq_self (fits row mem))
  constructor
  case balanced =>
    intro row mem
    rw [exact_record mem, ← gathered_eq found]
    exact balanced_gathered row.team
  case played =>
    have twice (p : PlayedMatch) (r : LeagueResult) (_ : Counts c p r) :
        (r.line g.form config.points .home).played + (r.line g.form config.points .away).played =
          (fun _ => 2) p := rfl
    rw [sum_tableOf found fits ⟨rfl, fun _ _ => rfl⟩ twice]
    simp [Nat.mul_comm]
  case wins =>
    rw [sum_tableOf found fits ⟨rfl, fun _ _ => rfl⟩ fun p r hr => hr.wins]
    simpa using sum_by_result g.played 0 1
  case losses =>
    rw [sum_tableOf found fits ⟨rfl, fun _ _ => rfl⟩ fun p r hr => hr.losses]
    simpa using sum_by_result g.played 0 1
  case draws =>
    rw [sum_tableOf found fits ⟨rfl, fun _ _ => rfl⟩ fun p r hr => hr.draws]
    simpa using sum_by_result g.played 2 0
  case setsFor => exact sum_tableOf found fits ⟨rfl, fun _ _ => rfl⟩ fun p r hr => hr.sets
  case setsAgainst =>
    exact sum_tableOf found fits ⟨rfl, fun _ _ => rfl⟩ fun p r hr => (Nat.add_comm _ _).trans hr.sets
  case pointsFor => exact sum_tableOf found fits ⟨rfl, fun _ _ => rfl⟩ fun p r hr => hr.points
  case pointsAgainst =>
    exact sum_tableOf found fits ⟨rfl, fun _ _ => rfl⟩ fun p r hr => (Int.add_comm _ _).trans hr.points
  case leaguePoints =>
    intro row mem
    rw [exact_record mem]
    exact leaguePoints_gathered c g config.points row.team

end

namespace SmallCup

/-- A match that a single set decides, which has awards of its own, and a friendly. -/
def closeLeague : Group :=
  { league with
    kind := .league { LeagueConfig.standard with
      points := { PointsAward.standard with winByOne := some 2, loseByOne := some 1 } }
    entries := [
      .fixture { Match.new opener (.literal teamA) (.literal teamB) with
        scores := [⟨25, 20⟩, ⟨20, 25⟩, ⟨25, 20⟩, ⟨20, 25⟩, ⟨15, 10⟩]
        state := .complete ⟨.wonBy .home, ⟨3, 2⟩⟩ },
      .fixture { Match.new final (.literal teamB) (.literal teamA) with
        scores := [⟨25, 20⟩, ⟨25, 20⟩, ⟨25, 20⟩]
        state := .complete ⟨.wonBy .home, ⟨3, 0⟩⟩
        friendly := true }] }

/-- The winner has the points for a close win, and the friendly is not entered. -/
theorem accounts_of_closeLeague :
    ∃ rows, cup.standings closeLeague = .ok rows ∧ (rows.map (·.record.played)).sum = 2 ∧
      (rows.map (·.record.wins)).sum = 1 ∧ (rows.map (·.record.setsFor)).sum = 5 ∧
      (rows.map (·.record.pointsFor)).sum = 205 ∧
      ∃ row ∈ rows, row.team = teamA ∧ row.record.leaguePoints = 2 := by
  have table := Competition.standings_of_fixtures (c := cup) (g := closeLeague) rfl rfl
  obtain ⟨config, kind, -, entered, accounts⟩ := Competition.accounts_of_standings table
  cases kind
  have fits : ∀ team ∈ [teamA, teamB],
      (cup.gathered closeLeague
        { PointsAward.standard with winByOne := some 2, loseByOne := some 1 } team).Fits := by
    decide +kernel
  have accounts := accounts fun row mem =>
    fits row.team ((map_team_table_perm _ _ _ _).mem_iff.mp (List.mem_map_of_mem mem))
  refine ⟨_, table, accounts.played, accounts.wins, accounts.setsFor, accounts.pointsFor, ?_⟩
  obtain ⟨row, mem, plays⟩ := entered _ List.mem_cons_self .home
  have team : row.team = teamA := by
    have resolved : cup.resolve (.literal teamA) = .ok teamA := rfl
    exact Except.ok.inj ((mem_appearances.mp plays).2.symm.trans resolved)
  refine ⟨row, mem, team, ?_⟩
  rw [accounts.leaguePoints row mem, team]
  decide +kernel

end SmallCup

end Tourney
