import Tourney.Binary64

/-!
# Ranking values

League tables compare numbers of the binary64 format: 53 significant bits, two zeros, and an
infinity. A `RankValue` holds such a number as its place in the format's total order, in which each
number is followed directly by the next larger one: positive zero stands at 0, negative zero just
below it, and negation turns the order round between the two. Two numbers are level when they are
equal or both zero. Quotients are rounded to the nearest number, a half going to the even one.
-/

namespace Tourney

/-- A number of the binary64 format, as its place in the total order. -/
structure RankValue where
  place : Int
deriving DecidableEq

namespace RankValue

open Binary64

/-- How many numbers of the format have the same exponent. -/
def binade : Nat := 4503599627370496

/-- The place of the number that is nearest to a quotient of positive ones. Both are scaled so that
the quotient has more than 53 bits before it is rounded to its 53 leading ones, or to a multiple of
the least positive number of the format. -/
def quotientPlace (num den : Nat) : Int :=
  let shift := den.log2 + 64
  let scaled := num * Nat.pow 2 shift
  let spare := max (spareBits (scaled / den)) (shift - 1074)
  ((spare : Int) - shift + 1074) * binade + roundedQuotient scaled (den * Nat.pow 2 spare)

/-- Zero, without a sign. -/
def zero : RankValue := ⟨0⟩

/-- More than every number. -/
def infinity : RankValue := ⟨2047 * binade⟩

/-- The negation of a number; the negation of zero is negative zero. -/
def neg (v : RankValue) : RankValue :=
  ⟨-v.place - 1⟩

/-- The number nearest to a natural number. -/
def ofNat (n : Nat) : RankValue :=
  if n = 0 then zero else ⟨quotientPlace n 1⟩

/-- The number nearest to a whole number; zero has no sign. -/
def ofInt : Int → RankValue
  | .ofNat n => ofNat n
  | .negSucc n => (ofNat (n + 1)).neg

/-- The quotient of the numbers nearest to two whole numbers. Nothing divided by nothing is zero,
and anything else divided by nothing is infinite. -/
def ratio (num den : Int) : RankValue :=
  if den = 0 then if num = 0 then zero else infinity
  else
    let size := if num = 0 then zero
      else ⟨quotientPlace (nearest num.natAbs) (nearest den.natAbs)⟩
    if num < 0 ↔ den < 0 then size else size.neg

/-- Whether a number comes after another in the total order or equals it. -/
def atLeast (a b : RankValue) : Bool :=
  decide (b.place ≤ a.place)

/-- The place of a number when both zeros stand together. -/
def size (v : RankValue) : Int :=
  if v.place = -1 then 0 else v.place

/-- Whether two numbers are equal; the two zeros are. -/
def level (a b : RankValue) : Bool :=
  a.size == b.size

end RankValue

end Tourney
