import Tourney.Text.Shown

/-!
# Errors

Every way in which an operation of the library fails, as a cause, and the one text that each cause
is reported with (`Error.message`). A cause holds the identifiers and numbers that its text names,
as text, so that causes can be compared. The `stated` constructors hold a rule in its own words.
-/

namespace Tourney

/-! ## What is looked up -/

/-- A kind of thing that is found by an identifier. -/
inductive Entity
  | club
  | team
  | player
  | contact
  | stage
  | group
  | fixture
  /-- A final position of the named group. -/
  | position (group : String)
  /-- Another kind, by its label. -/
  | labelled (label : String)
deriving DecidableEq

def Entity.label : Entity → String
  | .club => "Club"
  | .team => "Team"
  | .player => "Player"
  | .contact => "Contact"
  | .stage => "Stage"
  | .group => "Group"
  | .fixture => "Match"
  | .position id => s!"Group \"{id}\" position"
  | .labelled text => text

/-- The whole within which an identifier is unique. -/
inductive Scope
  | competition
  | stage
  | group
  | team (id : String)
deriving DecidableEq

def Scope.label : Scope → String
  | .competition => "competition"
  | .stage => "stage"
  | .group => "group"
  | .team id => s!"team \"{id}\""

/-! ## Scores -/

/-- Why a scoring configuration describes no match. -/
inductive RulesFault
  | noSets
  | setsToWin
  | clearPoints
  | pointsToWin
  | lastSetPointsToWin
deriving DecidableEq

def RulesFault.message : RulesFault → String
  | .noSets => "maxSets must be at least 1"
  | .setsToWin => "setsToWin must be between 1 and maxSets"
  | .clearPoints => "clearPoints must be at least 1"
  | .pointsToWin => "pointsToWin must not exceed maxPoints"
  | .lastSetPointsToWin => "lastSetPointsToWin must not exceed lastSetMaxPoints"

/-- Why a score is refused. Sets are numbered from one. -/
inductive ScoreFault
  | stated (reason : String)
  | noScores
  | drawRefused
  /-- A match in progress has more scores than it can have. -/
  | tooManyScores (recorded allowed : Nat)
  /-- A continuous match has other than one score. -/
  | notOneScore
  /-- The winning score of a continuous match is too low. -/
  | lowWin (high : Int) (minimum : Nat)
  /-- A complete match has more sets than it can have. -/
  | tooManySets (recorded allowed : Nat)
  | setAfterWin (set : Nat)
  | unfinishedMatch (homeSets awaySets : Nat)
  | negative (set : Nat)
  | aboveCap (set : Nat) (home away : Int) (cap : Nat)
  | level (set : Nat) (home away : Int)
  | lowSet (set : Nat) (high : Int) (minimum : Nat)
  | unfinishedSet (set : Nat) (home away : Int)
  | overrun (set : Nat) (home away : Int)
  /-- The two sides have different numbers of set scores. -/
  | unpaired (home away : Nat)
deriving DecidableEq

def ScoreFault.message : ScoreFault → String
  | .stated reason => reason
  | .noScores => "no scores recorded"
  | .drawRefused => "scores show a draw but draws are not allowed"
  | .tooManyScores recorded allowed =>
      s!"{recorded} scores recorded but at most {allowed} are allowed"
  | .notOneScore => "a continuous match must have exactly one score"
  | .lowWin high minimum => s!"winning score {high} is below the minimum of {minimum} points"
  | .tooManySets recorded allowed =>
      s!"{recorded} sets recorded but at most {allowed} can be played"
  | .setAfterWin set => s!"set {set} was recorded after the match was already won"
  | .unfinishedMatch home away => s!"sets {home}-{away} do not show a completed match"
  | .negative set => s!"set {set} has a negative score"
  | .aboveCap set home away cap =>
      s!"set {set} score {home}-{away} exceeds the maximum of {cap} points"
  | .level set home away => s!"set {set} score {home}-{away} has no winner"
  | .lowSet set high minimum =>
      s!"set {set} winning score {high} is below the minimum of {minimum} points"
  | .unfinishedSet set home away => s!"set {set} score {home}-{away} is not a finished set"
  | .overrun set home away =>
      s!"set {set} score {home}-{away} has more points than needed to win the set"
  | .unpaired home away => s!"{home} home scores but {away} away scores"

/-! ## Managers and officials -/

/-- Why a match manager is refused. -/
inductive ManagerFault
  | stated (reason : String)
  | blankName
  | teamAndPerson
  | nobody
deriving DecidableEq

def ManagerFault.message : ManagerFault → String
  | .stated reason => reason
  | .blankName => "name must not be empty"
  | .teamAndPerson => "a manager must be a team or a person, not both"
  | .nobody => "a manager must be a team or a person"

/-- Why match officials are refused. -/
inductive OfficialsFault
  | stated (reason : String)
  | blankName
  | teamAndPeople
  | nobody
  /-- A single role was to be filled while a team officiates. -/
  | roleOfTeam (role : String)
  /-- A whole crew was to be named while a team officiates. -/
  | crewOfTeam (crew : String)
deriving DecidableEq

def OfficialsFault.message : OfficialsFault → String
  | .stated reason => reason
  | .blankName => "name must not be empty"
  | .teamAndPeople => "officials must be a team or people, not both"
  | .nobody => "officials must be a team or include a first referee"
  | .roleOfTeam role =>
      s!"cannot set {role} while a team is officiating; set the first referee instead"
  | .crewOfTeam crew => s!"cannot set {crew} while a team is officiating"

/-! ## Rules of the model -/

/-- Why a reference may not stand where it stands. -/
inductive Misplacement
  | laterStage
  | siblingGroup
  | laterMatch
  | ownPositions
  | rankOutsideLeague
deriving DecidableEq

def Misplacement.message : Misplacement → String
  | .laterStage => "it refers to a later stage"
  | .siblingGroup => "groups in the same stage cannot refer to each other"
  | .laterMatch => "it refers to a match that is not declared before it"
  | .ownPositions => "a group cannot refer to its own positions"
  | .rankOutsideLeague => "ranks can only be taken from a league"

/-- A rule of the model that a value breaks. -/
inductive Violation
  | stated (text : String)
  | emptyIdent
  | longIdent (text : String)
  | identCharacter (text : String) (c : Char)
  | duplicate (entity : Entity) (id : String) (scope : Scope)
  | setRules (fault : RulesFault)
  | drawsOutsideLeague (group : String)
  | standingsOutsideLeague (group : String)
  /-- A rank is asked of a group that is no league. -/
  | rankOutsideLeague (reference group : String)
  /-- The winner or loser is asked of a drawn match. -/
  | drawn (fixture : String)
  | misplaced (reference group stage : String) (fault : Misplacement)
  | leagueSettings (group : String)
  | standingOutsideKnockout (group : String)
  | contactWithoutRole (contact : String)
  | lastRole (contact : String)
  | time (text : String)
  | duration (text : String)
  /-- A document does not have the shape of a competition. -/
  | unreadableDocument
deriving DecidableEq

def Violation.message : Violation → String
  | .stated text => text
  | .emptyIdent => "Invalid ID \"\": must be at least 1 character"
  | .longIdent text => s!"Invalid ID \"{text}\": must be at most 100 characters"
  | .identCharacter text c =>
      s!"Invalid ID \"{text}\": character {Text.shown c} is not allowed"
  | .duplicate entity id scope =>
      s!"{entity.label} with ID \"{id}\" already exists in the {scope.label}"
  | .setRules fault => s!"Invalid set config: {fault.message}"
  | .drawsOutsideLeague group => s!"Group \"{group}\" is not a league and cannot allow draws"
  | .standingsOutsideLeague group => s!"Group \"{group}\" is not a league and has no standings"
  | .rankOutsideLeague reference group =>
      s!"Cannot resolve {reference}: group \"{group}\" is not a league"
  | .drawn fixture => s!"Match \"{fixture}\" ended in a draw and has no winner or loser"
  | .misplaced reference group stage fault =>
      s!"Invalid team reference \"{reference}\" in group \"{group}\" of stage \"{stage}\": "
        ++ fault.message
  | .leagueSettings group =>
      s!"Group \"{group}\" is not a league group and cannot have league settings"
  | .standingOutsideKnockout group =>
      s!"Group \"{group}\" is not a knockout group and cannot have standing"
  | .contactWithoutRole contact => s!"Contact \"{contact}\" must have at least one role"
  | .lastRole contact => s!"Contact \"{contact}\" must keep at least one role"
  | .time text => s!"Invalid time \"{text}\": must be HH:MM"
  | .duration text => s!"Invalid duration \"{text}\": must be H:MM"
  | .unreadableDocument => "Invalid competition document"

/-! ## Errors -/

/-- Why an operation failed. -/
inductive Error
  | invalid (rule : Violation)
  /-- A text with braces is no reference; `context` says where it stands. -/
  | malformedReference (context text : String)
  | unknownStage (stage : String)
  | unknownGroup (stage group : String)
  | unknownMatch (group fixture : String)
  | notFound (entity : Entity) (id : String)
  /-- What a reference asks for is not decided yet. -/
  | undecided (reference : String)
  | incomplete (fixture : String)
  | score (fixture : String) (fault : ScoreFault)
  | manager (fault : ManagerFault)
  | officials (fault : OfficialsFault)
  | date (text : String)
  /-- References or nodes lead back to themselves along the path. -/
  | cycle (path : List String)
deriving DecidableEq

namespace Error

/-- The text of a cycle: its entries in order, joined by arrows. -/
def cycleText : List String → String
  | [] => "(empty cycle)"
  | path => " -> ".intercalate path

def message : Error → String
  | .invalid rule => rule.message
  | .malformedReference context text => s!"Invalid team reference for {context}: \"{text}\""
  | .unknownStage stage => s!"Stage with ID \"{stage}\" not found"
  | .unknownGroup stage group => s!"Group with ID \"{group}\" not found in stage \"{stage}\""
  | .unknownMatch group fixture => s!"Match with ID \"{fixture}\" not found in group \"{group}\""
  | .notFound entity id => s!"{entity.label} with ID \"{id}\" not found"
  | .undecided reference => s!"Cannot resolve {reference}: not decided yet"
  | .incomplete fixture => s!"Match \"{fixture}\" is not complete"
  | .score fixture fault => s!"Invalid score for match \"{fixture}\": {fault.message}"
  | .manager fault => s!"Invalid match manager: {fault.message}"
  | .officials fault => s!"Invalid match officials: {fault.message}"
  | .date text => s!"Invalid date \"{text}\": must be a real date in the format YYYY-MM-DD"
  | .cycle path => s!"Reference cycle detected: {cycleText path}"

/-- Whether an error says that something looked up by identifier does not exist. -/
def isMissing : Error → Bool
  | .unknownStage _ | .unknownGroup _ _ | .unknownMatch _ _ | .notFound _ _ => true
  | _ => false

end Error

end Tourney
