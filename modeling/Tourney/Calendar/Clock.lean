import Tourney.Error
import Tourney.Text.Blank
import Tourney.Text.Bytes
import Tourney.Text.Numeral

/-!
# Times of day and durations

A time of day is a text of five bytes that a reader of times accepts; the one that is used accepts
two numbers of one or two digits around a colon, with blank characters before each. A duration is a
number of hours, a colon, and two bytes for the minutes; both numbers may carry a plus sign, and the
minutes in all fit in 32 bits.
-/

namespace Tourney

/-- A time of day, to the minute. -/
structure ClockTime where
  hour : Fin 24
  minute : Fin 60
deriving DecidableEq

namespace ClockTime

/-- The written form of a time of day, with seconds. -/
def text (t : ClockTime) : String :=
  Text.padded 2 t.hour ++ ":" ++ Text.padded 2 t.minute ++ ":00"

/-- The number of bytes of every text that is a time. -/
def textBytes : Nat := 5

/-- Reads a number of one or two digits after blank characters, and what follows it. -/
def number? (cs : List Char) : Option (Nat × List Char) :=
  match Text.skipBlanks cs with
  | c₁ :: c₂ :: rest =>
      if c₂.isDigit then (Text.digits? [c₁, c₂]).map (·, rest)
      else (Text.digits? [c₁]).map (·, c₂ :: rest)
  | [c] => (Text.digits? [c]).map (·, [])
  | [] => none

/-- The time of day that a list of characters is, of whatever length. -/
def ofChars? (cs : List Char) : Option ClockTime := do
  let (hour, rest) ← number? cs
  match rest with
  | ':' :: rest =>
      let (minute, rest) ← number? rest
      if rest ≠ [] then none
      else if h : hour < 24 ∧ minute < 60 then some ⟨⟨hour, h.1⟩, ⟨minute, h.2⟩⟩
      else none
  | _ => none

/-- The time of day that a text is. A text of another length does not come to the reader. -/
def parseWith (read : String → Option ClockTime) (text : String) : Except Error ClockTime :=
  match if text.utf8ByteSize = textBytes then read text else none with
  | some t => .ok t
  | none => .error (.invalid (.time text))

/-- The time of day that a text is. -/
def parse (text : String) : Except Error ClockTime :=
  parseWith (fun text => ofChars? text.toList) text

end ClockTime

namespace Duration

/-- A product or a sum, if it fits in 32 bits. -/
def checked32 (n : Nat) : Option Nat :=
  if n < Text.limit32 then some n else none

/-- The minutes of a duration that has the given hours and minutes. -/
def ofFields? (hours minutes : List Char) : Option Nat := do
  if hours = [] ∨ Text.byteCount minutes ≠ 2 then none
  let h ← Text.numeral? Text.limit32 hours
  let m ← Text.numeral? Text.limit32 minutes
  if 59 < m then none
  let whole ← checked32 (h * 60)
  checked32 (whole + m)

/-- The minutes of the duration that a list of characters is. The first colon divides it. -/
def ofChars? (cs : List Char) : Option Nat :=
  match cs.span (· != ':') with
  | (hours, _ :: minutes) => ofFields? hours minutes
  | (_, []) => none

/-- The minutes of the duration that a text is. -/
def parse (text : String) : Except Error Nat :=
  match ofChars? text.toList with
  | some minutes => .ok minutes
  | none => .error (.invalid (.duration text))

end Duration

end Tourney
