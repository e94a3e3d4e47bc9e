import Tourney.Document.Building
import Tourney.Json.Reading

/-!
# Reading documents

How JSON values stand for sheets. A record is an object, in which unknown names are passed over and
known ones occur once, or an array of its fields in order. An optional field may be left out or be
`null`; a field with a default may be left out. The entries of a group are objects with a `type`,
and everything in them has to be sound, known or not.
-/

namespace Tourney

namespace Json

/-! ## Plain values -/

def text? : Json → Option String
  | .string s => s
  | _ => none

def bool? : Json → Option Bool
  | .bool b => some b
  | _ => none

/-- A whole number from the first bound up to but not including the second. -/
def integer? (first bound : Int) : Json → Option Int
  | .number (.whole n) => if first ≤ n ∧ n < bound then some n else none
  | _ => none

/-- An unsigned 32-bit number. -/
def unsigned32? (j : Json) : Option Nat :=
  (j.integer? 0 Text.limit32).map Int.toNat

/-- A signed 32-bit number. -/
def signed32? : Json → Option Int :=
  integer? (-2147483648) 2147483648

/-- A signed 64-bit number. -/
def signed64? : Json → Option Int :=
  integer? (-9223372036854775808) 9223372036854775808

/-- A list of values. -/
def list? {α : Type} (item : Json → Option α) : Json → Option (List α)
  | .array items => items.mapM item
  | _ => none

def ident? (j : Json) : Option Ident :=
  j.text?.bind Ident.parse?

/-- One of several names, given as a text or as the name of a single empty member. -/
def oneOf? {α : Type} (names : List (String × α)) : Json → Option α
  | .string (some name) | .object [(some name, .null)] => names.lookup name
  | _ => none

/-! ## Records -/

/-- The values under a name in an object. -/
def valuesOf (name : String) (members : List (Option String × Json)) : List Json :=
  (members.filter (·.1 == some name)).map (·.2)

/-- The fields with the given names in an object, each of which may occur once. -/
def namedFields? (names : List String) (members : List (Option String × Json)) :
    Option (List (Option Json)) :=
  if members.all (·.1.isSome) then
    names.mapM fun name =>
      match valuesOf name members with
      | [] => some none
      | [j] => some (some j)
      | _ => none
  else none

/-- The fields of a record with the given names: a missing field is `none`. -/
def fields? (names : List String) : Json → Option (List (Option Json))
  | .object members => namedFields? names members
  | .array items =>
      if items.length ≤ names.length then
        some (items.map some ++ List.replicate (names.length - items.length) none)
      else none
  | _ => none

/-- A field that has to be present. -/
def required {α : Type} (read : Json → Option α) (field : Option Json) : Option α :=
  field.bind read

/-- A field that may be left out or be `null`. -/
def optional {α : Type} (read : Json → Option α) : Option Json → Option (Option α)
  | none | some .null => some none
  | some j => (read j).map some

/-- A field that may be left out in favour of a default. -/
def defaulted {α : Type} (value : α) (read : Json → Option α) : Option Json → Option α
  | none => some value
  | some j => read j

end Json

open Json

/-! ## Settings -/

def MatchForm.names : List (String × MatchForm) :=
  [("sets", .sets), ("continuous", .continuous)]

def GroupType.names : List (String × GroupType) :=
  [("league", .league), ("crossover", .crossover), ("knockout", .knockout)]

def RankKey.names : List (String × RankKey) :=
  [("PTS", .points), ("WINS", .wins), ("LOSSES", .losses), ("H2H", .headToHead),
   ("PF", .pointsFor), ("PA", .pointsAgainst), ("PD", .pointsDifference), ("SF", .setsFor),
   ("SA", .setsAgainst), ("SD", .setsDifference), ("SR", .setRatio), ("PR", .pointRatio)]

def ContactRole.names : List (String × ContactRole) :=
  [("secretary", .secretary), ("treasurer", .treasurer), ("manager", .manager),
   ("captain", .captain), ("coach", .coach), ("assistant-coach", .assistantCoach),
   ("medic", .medic)]

/-- Scoring rules; the standard ones stand in for what is left out. -/
def SetRules.ofJson? (j : Json) : Option SetRules := do
  let [maxSets, setsToWin, clearPoints, minPoints, pointsToWin, lastSetPointsToWin, maxPoints,
      lastSetMaxPoints] ← j.fields? ["maxSets", "setsToWin", "clearPoints", "minPoints",
        "pointsToWin", "lastSetPointsToWin", "maxPoints", "lastSetMaxPoints"] | none
  let standard := SetRules.standard
  return {
    maxSets := ← defaulted standard.maxSets unsigned32? maxSets
    setsToWin := ← defaulted standard.setsToWin unsigned32? setsToWin
    clearPoints := ← defaulted standard.clearPoints unsigned32? clearPoints
    minPoints := ← defaulted standard.minPoints unsigned32? minPoints
    pointsToWin := ← defaulted standard.pointsToWin unsigned32? pointsToWin
    lastSetPointsToWin := ← defaulted standard.lastSetPointsToWin unsigned32? lastSetPointsToWin
    maxPoints := ← defaulted standard.maxPoints unsigned32? maxPoints
    lastSetMaxPoints := ← defaulted standard.lastSetMaxPoints unsigned32? lastSetMaxPoints }

/-- League points; the standard ones stand in for what is left out. -/
def PointsAward.ofJson? (j : Json) : Option PointsAward := do
  let [played, perSet, win, winByOne, lose, loseByOne, draw] ← j.fields?
    ["played", "perSet", "win", "winByOne", "lose", "loseByOne", "draw"] | none
  let standard := PointsAward.standard
  return {
    played := ← defaulted standard.played signed64? played
    perSet := ← defaulted standard.perSet signed64? perSet
    win := ← defaulted standard.win signed64? win
    winByOne := ← optional signed64? winByOne
    lose := ← defaulted standard.lose signed64? lose
    loseByOne := ← optional signed64? loseByOne
    draw := ← defaulted standard.draw signed64? draw }

/-- League settings; the standard ones stand in for what is left out. -/
def LeagueConfig.ofJson? (j : Json) : Option LeagueConfig := do
  let [ordering, points] ← j.fields? ["ordering", "points"] | none
  let standard := LeagueConfig.standard
  return {
    ordering := ← defaulted standard.ordering (list? (oneOf? RankKey.names)) ordering
    points := ← defaulted standard.points PointsAward.ofJson? points }

/-- A team slot that stands on its own. -/
def TeamSlot.ofJson? (j : Json) : Option TeamSlot := do
  (TeamSlot.parse TeamSlot.ownContext (← j.text?)).toOption

/-! ## Registers -/

def ClubSheet.ofJson? (j : Json) : Option ClubSheet := do
  let [id, name, notes] ← j.fields? ["id", "name", "notes"] | none
  return {
    id := ← required ident? id
    name := ← required text? name
    notes := ← optional text? notes }

def ContactSheet.ofJson? (j : Json) : Option ContactSheet := do
  let [id, name, roles, emails, phones] ←
    j.fields? ["id", "name", "roles", "emails", "phones"] | none
  return {
    id := ← required ident? id
    name := ← optional text? name
    roles := ← required (list? (oneOf? ContactRole.names)) roles
    emails := ← defaulted [] (list? text?) emails
    phones := ← defaulted [] (list? text?) phones }

def TeamSheet.ofJson? (j : Json) : Option TeamSheet := do
  let [id, name, club, notes, contacts] ←
    j.fields? ["id", "name", "club", "notes", "contacts"] | none
  return {
    id := ← required ident? id
    name := ← required text? name
    club := ← optional ident? club
    notes := ← optional text? notes
    contacts := ← defaulted [] (list? ContactSheet.ofJson?) contacts }

def AffiliationSheet.ofJson? (j : Json) : Option AffiliationSheet := do
  let [id, since, until?, notes] ← j.fields? ["id", "from", "until", "notes"] | none
  return {
    team := ← required ident? id
    since := ← optional text? since
    until? := ← optional text? until?
    notes := ← optional text? notes }

def PlayerSheet.ofJson? (j : Json) : Option PlayerSheet := do
  let [id, name, number, notes, teams] ←
    j.fields? ["id", "name", "number", "notes", "teams"] | none
  return {
    id := ← required ident? id
    name := ← required text? name
    number := ← optional unsigned32? number
    notes := ← optional text? notes
    teams := ← defaulted [] (list? AffiliationSheet.ofJson?) teams }

/-! ## Matches -/

def ScoreSheet.ofJson? (j : Json) : Option ScoreSheet := do
  let [home, away] ← j.fields? ["home", "away"] | none
  return {
    home := ← defaulted [] (list? signed32?) home
    away := ← defaulted [] (list? signed32?) away }

def ManagerSheet.ofJson? (j : Json) : Option ManagerSheet := do
  let [team, name] ← j.fields? ["team", "name"] | none
  return {
    team := ← optional text? team
    name := ← optional text? name }

def OfficialsSheet.ofJson? (j : Json) : Option OfficialsSheet := do
  let [team, first, second, challenge, assistantChallenge, reserve, scorer, assistantScorer,
      linespersons, ballCrew] ← j.fields? ["team", "first", "second", "challenge",
        "assistantChallenge", "reserve", "scorer", "assistantScorer", "linespersons",
        "ballCrew"] | none
  return {
    team := ← optional text? team
    first := ← optional text? first
    second := ← optional text? second
    challenge := ← optional text? challenge
    assistantChallenge := ← optional text? assistantChallenge
    reserve := ← optional text? reserve
    scorer := ← optional text? scorer
    assistantScorer := ← optional text? assistantScorer
    linespersons := ← defaulted [] (list? text?) linespersons
    ballCrew := ← defaulted [] (list? text?) ballCrew }

/-- The sheet of a schedule, whose fields stand among those of a match or a break. -/
def ScheduleSheet.ofMembers? (members : List (Option String × Json)) : Option ScheduleSheet := do
  let [date, warmup, start, duration] ←
    namedFields? ["date", "warmup", "start", "duration"] members | none
  return {
    date := ← optional text? date
    warmup := ← optional text? warmup
    start := ← optional text? start
    duration := ← optional text? duration }

def BreakSheet.ofMembers? (members : List (Option String × Json)) : Option BreakSheet := do
  let [name] ← namedFields? ["name"] members | none
  return {
    name := ← optional text? name
    schedule := ← ScheduleSheet.ofMembers? members }

def MatchSheet.ofMembers? (members : List (Option String × Json)) : Option MatchSheet := do
  let [id, home, away, scores, complete, friendly, court, venue, manager, officials, mvp, notes] ←
    namedFields? ["id", "homeTeam", "awayTeam", "scores", "complete", "friendly", "court", "venue",
      "manager", "officials", "mvp", "notes"] members | none
  return {
    id := ← required ident? id
    home := ← required text? home
    away := ← required text? away
    scores := ← defaulted ⟨[], []⟩ ScoreSheet.ofJson? scores
    complete := ← optional bool? complete
    friendly := ← defaulted false bool? friendly
    court := ← optional text? court
    venue := ← optional text? venue
    schedule := ← ScheduleSheet.ofMembers? members
    manager := ← optional ManagerSheet.ofJson? manager
    officials := ← optional OfficialsSheet.ofJson? officials
    mvp := ← optional text? mvp
    notes := ← optional text? notes }

/-- How deep arrays and objects may be nested in a document. -/
def maxNesting : Nat := 127

/-- How many of them an entry of a group stands in, itself included. -/
def entryNesting : Nat := 7

def EntrySheet.ofJson? : Json → Option EntrySheet
  | .object members => do
      if !membersSound (maxNesting - entryNesting) members then none
      let [type] ← namedFields? ["type"] members | none
      match ← required text? type with
      | "match" => (MatchSheet.ofMembers? members).map .fixture
      | "break" => (BreakSheet.ofMembers? members).map .pause
      | _ => none
  | _ => none

/-! ## Groups, stages and competitions -/

def GroupSheet.ofJson? (j : Json) : Option GroupSheet := do
  let [id, type, name, notes, matchType, sets, drawsAllowed, league, standing, entries] ←
    j.fields? ["id", "type", "name", "notes", "matchType", "sets", "drawsAllowed", "league",
      "standing", "matches"] | none
  return {
    id := ← required ident? id
    type := ← required (oneOf? GroupType.names) type
    name := ← optional text? name
    notes := ← optional text? notes
    form := ← defaulted .sets (oneOf? MatchForm.names) matchType
    rules := ← defaulted .standard SetRules.ofJson? sets
    drawsAllowed := ← defaulted false bool? drawsAllowed
    league := ← optional LeagueConfig.ofJson? league
    standing := ← defaulted [] (list? text?) standing
    entries := ← defaulted [] (list? EntrySheet.ofJson?) entries }

def StageSheet.ofJson? (j : Json) : Option StageSheet := do
  let [id, name, notes, groups] ← j.fields? ["id", "name", "notes", "groups"] | none
  return {
    id := ← required ident? id
    name := ← optional text? name
    notes := ← optional text? notes
    groups := ← defaulted [] (list? GroupSheet.ofJson?) groups }

def CompetitionSheet.ofJson? (j : Json) : Option CompetitionSheet := do
  let [name, notes, clubs, teams, players, stages] ←
    j.fields? ["name", "notes", "clubs", "teams", "players", "stages"] | none
  return {
    name := ← required text? name
    notes := ← optional text? notes
    clubs := ← defaulted [] (list? ClubSheet.ofJson?) clubs
    teams := ← defaulted [] (list? TeamSheet.ofJson?) teams
    players := ← defaulted [] (list? PlayerSheet.ofJson?) players
    stages := ← defaulted [] (list? StageSheet.ofJson?) stages }

namespace Competition

/-- The competition that a JSON value describes. -/
def ofJson (j : Json) : Except Error Competition :=
  match CompetitionSheet.ofJson? j with
  | some sheet => sheet.build
  | none => .error (.invalid .unreadableDocument)

/-- The competition that a JSON text describes. -/
def ofText (text : String) : Except Error Competition :=
  match Json.parse? text with
  | some j => ofJson j
  | none => .error (.invalid .unreadableDocument)

end Competition

end Tourney
