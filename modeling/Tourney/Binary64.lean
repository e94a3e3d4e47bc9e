/-!
# Rounding to binary64

A number of the binary64 format has 53 significant bits, and its size is below a bound. A quotient
is rounded to the nearest whole number (`roundedQuotient`) and a whole number to the nearest one
with 53 significant bits (`nearest`), a half going to the even one each time. A size is rounded to
no finite number exactly when it is not below `bound`.
-/

namespace Tourney.Binary64

/-- The quotient of two numbers as a whole number, the nearest one, a half going to the even. -/
def roundedQuotient (num den : Nat) : Nat :=
  let q := num / den
  if 2 * (num % den) < den then q
  else if den < 2 * (num % den) then q + 1
  else q + q % 2

/-- The bits of a number below its 53 leading ones. -/
def spareBits (n : Nat) : Nat :=
  n.log2 - 52

/-- A whole number rounded to 53 significant bits. -/
def nearest (n : Nat) : Nat :=
  roundedQuotient n (Nat.pow 2 (spareBits n)) * Nat.pow 2 (spareBits n)

/-- The least size that rounds to no finite number: half a step above the largest one. -/
def bound : Nat := Nat.pow 2 1024 - Nat.pow 2 970

end Tourney.Binary64
