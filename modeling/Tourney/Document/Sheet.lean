import Tourney.Competition.Basic

/-!
# Sheets

A sheet is what a document says about a thing, before anything in it is looked up or checked
against the rest. Identifiers, roles and criteria are read already; team slots, dates, times and
durations are still texts. A list that a document leaves out is empty.
-/

namespace Tourney

structure ClubSheet where
  id : Ident
  name : String
  notes : Option String

structure ContactSheet where
  id : Ident
  name : Option String
  roles : List ContactRole
  emails : List String
  phones : List String

structure TeamSheet where
  id : Ident
  name : String
  club : Option Ident
  notes : Option String
  contacts : List ContactSheet

structure AffiliationSheet where
  team : Ident
  since : Option String
  until? : Option String
  notes : Option String

structure PlayerSheet where
  id : Ident
  name : String
  number : Option Nat
  notes : Option String
  teams : List AffiliationSheet

/-- When a match or a break takes place, in a document. -/
structure ScheduleSheet where
  date : Option String
  warmup : Option String
  start : Option String
  duration : Option String

structure BreakSheet where
  name : Option String
  schedule : ScheduleSheet

/-- The points of both sides in all sets, in a document. -/
structure ScoreSheet where
  home : List Int
  away : List Int

structure ManagerSheet where
  team : Option String
  name : Option String

structure OfficialsSheet where
  team : Option String
  first : Option String
  second : Option String
  challenge : Option String
  assistantChallenge : Option String
  reserve : Option String
  scorer : Option String
  assistantScorer : Option String
  linespersons : List String
  ballCrew : List String

structure MatchSheet where
  id : Ident
  home : String
  away : String
  scores : ScoreSheet
  /-- Whether the scores are those of a complete match, if the document says so. -/
  complete : Option Bool
  friendly : Bool
  court : Option String
  venue : Option String
  schedule : ScheduleSheet
  manager : Option ManagerSheet
  officials : Option OfficialsSheet
  mvp : Option String
  notes : Option String

inductive EntrySheet
  | fixture (m : MatchSheet)
  | pause (b : BreakSheet)

structure GroupSheet where
  id : Ident
  type : GroupType
  name : Option String
  notes : Option String
  form : MatchForm
  rules : SetRules
  drawsAllowed : Bool
  league : Option LeagueConfig
  standing : List String
  entries : List EntrySheet

structure StageSheet where
  id : Ident
  name : Option String
  notes : Option String
  groups : List GroupSheet

/-- A whole competition in a document. -/
structure CompetitionSheet where
  name : String
  notes : Option String
  clubs : List ClubSheet
  teams : List TeamSheet
  players : List PlayerSheet
  stages : List StageSheet

end Tourney
