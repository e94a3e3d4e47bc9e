import Tourney.Calendar.Clock
import Tourney.Calendar.Date

/-!
# Schedules

When a match or a break takes place. Schedules take no part in resolution: their fields are only
kept free of malformed values. Setting a field from a malformed text fails.
-/

namespace Tourney

/-- When something takes place. -/
structure Schedule where
  date : Option Date
  warmup : Option ClockTime
  start : Option ClockTime
  /-- The planned length in minutes. -/
  duration : Option Nat
deriving DecidableEq

namespace Schedule

def empty : Schedule := ⟨none, none, none, none⟩

/-- Sets the date from its written form. -/
def setDate (s : Schedule) (text : String) : Except Error Schedule := do
  let date ← Date.parse text
  return { s with date := some date }

/-- Sets the time of the warm-up from its written form. -/
def setWarmup (s : Schedule) (text : String) : Except Error Schedule := do
  let time ← ClockTime.parse text
  return { s with warmup := some time }

/-- Sets the starting time from its written form. -/
def setStart (s : Schedule) (text : String) : Except Error Schedule := do
  let time ← ClockTime.parse text
  return { s with start := some time }

/-- Sets the planned length from its written form. -/
def setDuration (s : Schedule) (text : String) : Except Error Schedule := do
  let minutes ← Duration.parse text
  return { s with duration := some minutes }

end Schedule

/-- A pause between the matches of a group. -/
structure Break where
  name : Option String
  schedule : Schedule
deriving DecidableEq

end Tourney
