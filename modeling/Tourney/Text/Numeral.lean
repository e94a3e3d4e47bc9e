/-!
# Numerals

Natural numbers in decimal digits. Reading takes digits alone (`digits?`) or digits after an
optional plus sign (`numeral?`), with a bound on the value. Writing pads with zeros to a fixed width
(`padded`).
-/

namespace Tourney.Text

/-- The value of a non-empty run of decimal digits. -/
def digits? (cs : List Char) : Option Nat :=
  if cs ≠ [] ∧ cs.all Char.isDigit then some (Nat.ofDigitChars 10 cs 0) else none

/-- A numeral without its plus sign, if it has one. -/
def unsigned : List Char → List Char
  | '+' :: cs => cs
  | cs => cs

/-- The value of decimal digits after an optional plus sign, if it is below the bound. -/
def numeral? (bound : Nat) (cs : List Char) : Option Nat :=
  (digits? (unsigned cs)).filter (· < bound)

/-- A number in at least the given count of decimal digits. -/
def padded (width n : Nat) : String :=
  let digits := Nat.toDigits 10 n
  String.ofList (List.replicate (width - digits.length) '0' ++ digits)

/-- The number of values of an unsigned 32-bit integer. -/
def limit32 : Nat := 4294967296

/-- The number of values of an unsigned 64-bit integer. -/
def limit64 : Nat := 18446744073709551616

end Tourney.Text
