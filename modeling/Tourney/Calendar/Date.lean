import Tourney.Error
import Tourney.Text.Bytes
import Tourney.Text.Numeral

/-!
# Dates

Days of the proleptic Gregorian calendar in the years 0000 to 9999. A `Date` holds the proof that
the day exists. Dates are written `YYYY-MM-DD`, and nothing else is read as a date: the bytes of a
text have to have that shape before the text comes to a reader of dates, however lenient that is.
-/

namespace Tourney

namespace Date

/-- Every fourth year is a leap year, except the hundredths that are no four hundredths. -/
def isLeap (year : Nat) : Bool :=
  year % 4 == 0 && (year % 100 != 0 || year % 400 == 0)

/-- The number of days of a month; none for a number that is no month. -/
def daysIn (year month : Nat) : Nat :=
  if month = 2 then if isLeap year then 29 else 28
  else if month ∈ [4, 6, 9, 11] then 30
  else if month ∈ [1, 3, 5, 7, 8, 10, 12] then 31
  else 0

/-- Whether a day exists. -/
def Exists (year month day : Nat) : Prop :=
  year ≤ 9999 ∧ 1 ≤ day ∧ day ≤ daysIn year month

instance (year month day : Nat) : Decidable (Exists year month day) :=
  inferInstanceAs (Decidable (_ ∧ _ ∧ _))

end Date

structure Date where
  year : Nat
  month : Nat
  day : Nat
  valid : Date.Exists year month day
deriving DecidableEq

namespace Date

/-- The written form of a date. -/
def text (d : Date) : String :=
  Text.padded 4 d.year ++ "-" ++ Text.padded 2 d.month ++ "-" ++ Text.padded 2 d.day

/-- The date that a list of characters is. -/
def ofChars? (cs : List Char) : Option Date :=
  match cs with
  | [y₁, y₂, y₃, y₄, '-', m₁, m₂, '-', d₁, d₂] => do
      let year ← Text.digits? [y₁, y₂, y₃, y₄]
      let month ← Text.digits? [m₁, m₂]
      let day ← Text.digits? [d₁, d₂]
      if h : Exists year month day then some ⟨year, month, day, h⟩ else none
  | _ => none

/-- The byte of a hyphen. -/
def hyphen : UInt8 := 45

/-- Whether bytes have the shape of a date: ten of them, hyphens at the fifth and the eighth place,
and digits at all others. -/
def isShaped (bytes : List UInt8) : Bool :=
  bytes.length == 10 && bytes[4]? == some hyphen && bytes[7]? == some hyphen &&
    bytes.zipIdx.all fun (b, i) => i == 4 || i == 7 || Text.isDigitByte b

/-- The date that a text is. A text without the shape of a date does not come to the reader. -/
def parseWith (read : String → Option Date) (text : String) : Except Error Date :=
  match if isShaped (Text.bytes text) then read text else none with
  | some d => .ok d
  | none => .error (.date text)

/-- The date that a text is. -/
def parse (text : String) : Except Error Date :=
  parseWith (fun text => ofChars? text.toList) text

/-- A number that grows from each day to every later one. -/
def ordinal (d : Date) : Nat :=
  (d.year * 100 + d.month) * 100 + d.day

instance : LE Date := ⟨fun a b => a.ordinal ≤ b.ordinal⟩

instance (a b : Date) : Decidable (a ≤ b) :=
  inferInstanceAs (Decidable (a.ordinal ≤ b.ordinal))

end Date

end Tourney
