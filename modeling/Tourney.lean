import Tourney.Call
import Tourney.Competition.Roster
import Tourney.Competition.Tree
import Tourney.Document.Reading
import Tourney.Match.Call
import Tourney.Proofs.Calendar.Date
import Tourney.Proofs.Calendar.Duration
import Tourney.Proofs.Calendar.Time
import Tourney.Proofs.Call
import Tourney.Proofs.Competition.Access
import Tourney.Proofs.Competition.Coherence
import Tourney.Proofs.Competition.Growth
import Tourney.Proofs.Competition.Independence
import Tourney.Proofs.Competition.Integrity
import Tourney.Proofs.Competition.Roster
import Tourney.Proofs.Competition.Tree
import Tourney.Proofs.Dependency.Exact
import Tourney.Proofs.Dependency.Search
import Tourney.Proofs.Document.Contents
import Tourney.Proofs.Document.Replaying
import Tourney.Proofs.League.Accounts
import Tourney.Proofs.League.Order
import Tourney.Proofs.League.Precision
import Tourney.Proofs.League.Presentation
import Tourney.Proofs.Match.Recorded
import Tourney.Proofs.Names
import Tourney.Proofs.Resolution.Cycles
import Tourney.Proofs.Resolution.Draws
import Tourney.Proofs.Resolution.Friendlies
import Tourney.Proofs.Resolution.Indexed
import Tourney.Proofs.Resolution.Inquiry
import Tourney.Proofs.Resolution.Noninterference
import Tourney.Proofs.Resolution.Outcome
import Tourney.Proofs.Resolution.Progress
import Tourney.Proofs.Resolution.Ranks
import Tourney.Proofs.Resolution.Refusal
import Tourney.Proofs.Resolution.Routes
import Tourney.Proofs.Resolution.Termination
import Tourney.Proofs.Scoring.Course
import Tourney.Proofs.Scoring.LastSet
import Tourney.Proofs.Scoring.Neutral
import Tourney.Proofs.Slot.Reading
import Tourney.Proofs.Staff.Modes
import Tourney.Proofs.Staff.Names
import Tourney.Proofs.Text.Bytes
import Tourney.Resolution.Resolver
