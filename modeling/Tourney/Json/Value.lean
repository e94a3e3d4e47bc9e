import Tourney.Binary64
import Tourney.Text.Numeral

/-!
# JSON values

A JSON value as a text gives it. Members of an object keep their order and may share a name. Whole
numbers are kept apart from numbers that are written with a fraction or an exponent; each is kept
with all its digits, and `JsonNumber.isFinite` says whether it is read as a finite number. A string
whose escapes leave half of a surrogate pair alone is no text, and is kept as such.
-/

namespace Tourney

inductive JsonNumber
  /-- A number written in digits alone, and not as negative zero. -/
  | whole (n : Int)
  /-- Any other number: its digits times a power of ten, without its sign. -/
  | decimal (digits : Nat) (exponent : Int)
deriving DecidableEq

namespace JsonNumber

/-- The digits of a number, and the power of ten that they are multiplied by. -/
def parts : JsonNumber → Nat × Int
  | .whole n => (n.natAbs, 0)
  | .decimal digits exponent => (digits, exponent)

/-- The leading digits that fit in 64 bits. Each digit left out raises the power of ten by one. -/
def leading (digits : Nat) (exponent : Int) : Nat × Int :=
  if digits < Text.limit64 then (digits, exponent) else leading (digits / 10) (exponent + 1)
termination_by digits
decreasing_by
  simp only [Text.limit64] at *
  omega

/-- Whether a number is read as a finite one. The leading digits and the power of ten are rounded
to the binary64 format, and then their product is. Zero and a number with a negative power of ten
are always finite; a larger number is not when its power of ten is beyond the format. -/
def isFinite (n : JsonNumber) : Bool :=
  match leading n.parts.1 n.parts.2 with
  | (_, .negSucc _) => true
  | (digits, .ofNat e) =>
    digits == 0 ||
      (e ≤ 308 && Binary64.nearest digits * Binary64.nearest (Nat.pow 10 e) < Binary64.bound)

end JsonNumber

inductive Json
  | null
  | bool (b : Bool)
  | number (n : JsonNumber)
  /-- A string, unless it is no text. -/
  | string (s : Option String)
  | array (items : List Json)
  /-- The members in order, each with its name, unless that is no text. -/
  | object (members : List (Option String × Json))

namespace Json

mutual
/-- Whether every string is a text, every number is finite, and arrays and objects are nested at
most as deep as the given room. -/
def isSound (room : Nat) : Json → Bool
  | .null | .bool _ => true
  | .number n => n.isFinite
  | .string s => s.isSome
  | .array items => 0 < room && allSound (room - 1) items
  | .object members => 0 < room && membersSound (room - 1) members

/-- Whether every value of a list is sound. -/
def allSound (room : Nat) : List Json → Bool
  | [] => true
  | j :: rest => j.isSound room && allSound room rest

/-- Whether every member has a name and a sound value. -/
def membersSound (room : Nat) : List (Option String × Json) → Bool
  | [] => true
  | (name, j) :: rest => name.isSome && j.isSound room && membersSound room rest
end

end Json

end Tourney
