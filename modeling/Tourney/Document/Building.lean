import Tourney.Competition.Structure
import Tourney.Document.Sheet
import Tourney.Slot.Parse

/-!
# Building from sheets

A competition is built from its sheet in one pass: clubs, teams, players and stages in their order.
The first rule that is broken ends it, and nothing comes of the sheet then.
-/

namespace Tourney

/-- Sets something from a text, if there is one. -/
def setFrom {α : Type} (set : α → String → Except Error α) (text : Option String) (x : α) :
    Except Error α :=
  match text with
  | none => .ok x
  | some text => set x text

/-- The slot that a text is, if there is a text. -/
def slotFrom (context : String) (text : Option String) : Except Error (Option TeamSlot) :=
  match text with
  | none => .ok none
  | some text => (TeamSlot.parse context text).map some

/-! ## Registers -/

def ClubSheet.build (s : ClubSheet) : Club :=
  ⟨s.id, s.name, s.notes⟩

def ContactSheet.build (s : ContactSheet) : Except Error Contact := do
  let c ← Contact.new s.id s.roles
  return { c with name := s.name, emails := s.emails, phones := s.phones }

def TeamSheet.build (s : TeamSheet) : Except Error Team :=
  let team := { Team.new s.id s.name with notes := s.notes, club := s.club }
  s.contacts.foldlM (fun team contact => do team.addContact (← contact.build)) team

def AffiliationSheet.build (s : AffiliationSheet) : Except Error Affiliation := do
  let a ← setFrom Affiliation.setSince s.since (.new s.team)
  let a ← setFrom Affiliation.setUntil s.until? a
  return { a with notes := s.notes }

def PlayerSheet.build (s : PlayerSheet) : Except Error Player := do
  let teams ← s.teams.mapM (·.build)
  return ⟨s.id, s.name, s.number, s.notes, teams⟩

/-! ## Matches -/

def ScheduleSheet.build (s : ScheduleSheet) : Except Error Schedule := do
  let t ← setFrom Schedule.setDate s.date .empty
  let t ← setFrom Schedule.setWarmup s.warmup t
  let t ← setFrom Schedule.setStart s.start t
  setFrom Schedule.setDuration s.duration t

def BreakSheet.build (s : BreakSheet) : Except Error Break := do
  return ⟨s.name, ← s.schedule.build⟩

/-- The manager of a sheet. -/
def ManagerSheet.build (context : String) (s : ManagerSheet) : Except Error Manager := do
  Manager.ofParts (← slotFrom context s.team) s.name

namespace OfficialsSheet

/-- Whether a sheet mentions anybody. -/
def mentionsPeople (s : OfficialsSheet) : Bool :=
  s.first.isSome || s.second.isSome || s.challenge.isSome || s.assistantChallenge.isSome
    || s.reserve.isSome || s.scorer.isSome || s.assistantScorer.isSome
    || !s.linespersons.isEmpty || !s.ballCrew.isEmpty

/-- The people that a sheet mentions. A first referee who is not mentioned has no name. -/
def people? (s : OfficialsSheet) : Option OfficialPeople :=
  if s.mentionsPeople then
    some {
      first := s.first.getD ""
      second := s.second
      challenge := s.challenge
      assistantChallenge := s.assistantChallenge
      reserve := s.reserve
      scorer := s.scorer
      assistantScorer := s.assistantScorer
      linespersons := s.linespersons
      ballCrew := s.ballCrew }
  else none

def build (context : String) (s : OfficialsSheet) : Except Error Officials := do
  Officials.ofParts (← slotFrom context s.team) s.people?

end OfficialsSheet

namespace MatchSheet

/-- Where the slots of a match stand. -/
def context (s : MatchSheet) : String :=
  s!"match \"{s.id.text}\""

/-- Builds something that a sheet may leave out. -/
def buildOption {α β : Type} (build : α → Except Error β) : Option α → Except Error (Option β)
  | none => .ok none
  | some x => (build x).map some

/-- The match of a sheet before anything is recorded. -/
def buildPending (s : MatchSheet) : Except Error Match := do
  let home ← TeamSlot.parse s.context s.home
  let away ← TeamSlot.parse s.context s.away
  let schedule ← s.schedule.build
  let manager ← buildOption (·.build s.context) s.manager
  let officials ← buildOption (·.build s.context) s.officials
  return { Match.new s.id home away with
    friendly := s.friendly
    court := s.court
    venue := s.venue
    schedule := schedule
    manager := manager
    officials := officials
    mvp := s.mvp
    notes := s.notes }

/-- The set scores of a sheet, which has to have as many for either side. -/
def setScores (s : MatchSheet) : Except Error (List SetScore) :=
  let home := s.scores.home
  let away := s.scores.away
  if home.length ≠ away.length then
    .error (.score s.id.text (.unpaired home.length away.length))
  else .ok (List.zipWith SetScore.mk home away)

/-- Records the scores of a sheet. Without a word on completion, scores are those of a complete
match. -/
def recordOn (s : MatchSheet) (scoring : Scoring) (m : Match) (scores : List SetScore) :
    Except Error Match :=
  match s.complete with
  | some false => m.recordPartial scoring scores
  | some true => m.record scoring scores
  | none => if scores = [] then .ok m else m.record scoring scores

/-- The match of a sheet, recorded under the given rules. -/
def build (scoring : Scoring) (s : MatchSheet) : Except Error Match := do
  let m ← s.buildPending
  let scores ← s.setScores
  s.recordOn scoring m scores

end MatchSheet

/-! ## Groups and stages -/

namespace GroupSheet

/-- Where the slots of the final positions stand. -/
def standingContext (s : GroupSheet) : String :=
  s!"group \"{s.id.text}\" standing"

/-- The kind of a sheet with what belongs to it. What belongs to another kind is refused. -/
def kind (s : GroupSheet) : Except Error GroupKind := do
  if s.type ≠ .league ∧ s.league.isSome then throw (.invalid (.leagueSettings s.id.text))
  if s.type ≠ .knockout ∧ s.standing ≠ [] then
    throw (.invalid (.standingOutsideKnockout s.id.text))
  match s.type with
  | .league => return .league (s.league.getD .standard)
  | .crossover => return .crossover
  | .knockout => return .knockout (← s.standing.mapM (TeamSlot.parse s.standingContext))

/-- Appends the entry of a sheet to a group. -/
def addEntry (g : Group) : EntrySheet → Except Error Group
  | .fixture s => do g.addMatch (← s.build g.scoring)
  | .pause s => do return g.addBreak (← s.build)

def build (s : GroupSheet) : Except Error Group := do
  let kind ← s.kind
  let g := { Group.new s.id kind s.form with name := s.name, notes := s.notes }
  let g ← g.setRules s.rules
  let g ← g.setDrawsAllowed s.drawsAllowed
  s.entries.foldlM addEntry g

end GroupSheet

def StageSheet.build (s : StageSheet) : Except Error Stage :=
  let stage := { Stage.new s.id with name := s.name, notes := s.notes }
  s.groups.foldlM (fun stage group => do stage.addGroup (← group.build)) stage

/-! ## Competitions -/

def CompetitionSheet.build (s : CompetitionSheet) : Except Error Competition := do
  let c := { Competition.new s.name with notes := s.notes }
  let c ← s.clubs.foldlM (fun c club => c.addClub club.build) c
  let c ← s.teams.foldlM (fun c team => do c.addTeam (← team.build)) c
  let c ← s.players.foldlM (fun c player => do c.addPlayer (← player.build)) c
  s.stages.foldlM (fun c stage => do c.addStage (← stage.build)) c

end Tourney
