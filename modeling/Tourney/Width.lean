/-!
# Numbers of fixed width

Counters have 32 bits, and points are whole numbers of 64 bits with a sign. A sum that does not fit
wraps around: its low bits are kept. That is what happens where sums are not checked; a program that
is built to check them stops at the first one that does not fit, and as long as all of them fit
(`Within32`, `Within64`) nothing is lost either way.
-/

namespace Tourney

/-! ## Counters -/

/-- What 32 bits keep of a number. -/
def wrap32 (n : Nat) : Nat :=
  n % 4294967296

/-- A number of 32 bits. -/
def Within32 (n : Nat) : Prop :=
  n < 4294967296

instance (n : Nat) : Decidable (Within32 n) :=
  inferInstanceAs (Decidable (_ < _))

theorem wrap32_eq_self {n : Nat} (h : Within32 n) : wrap32 n = n :=
  Nat.mod_eq_of_lt h

@[simp] theorem wrap32_wrap32_add (a b : Nat) : wrap32 (wrap32 a + b) = wrap32 (a + b) :=
  Nat.mod_add_mod a _ b

/-! ## Whole numbers -/

/-- What 64 bits, one of which is the sign, keep of a whole number. -/
def wrap64 (n : Int) : Int :=
  n.bmod 18446744073709551616

/-- A whole number of 64 bits. -/
def Within64 (n : Int) : Prop :=
  -9223372036854775808 ≤ n ∧ n < 9223372036854775808

instance (n : Int) : Decidable (Within64 n) :=
  inferInstanceAs (Decidable (_ ∧ _))

theorem wrap64_eq_self {n : Int} (h : Within64 n) : wrap64 n = n := by
  unfold Within64 at h
  exact Int.bmod_eq_of_le (by omega) (by omega)

@[simp] theorem wrap64_wrap64_add (a b : Int) : wrap64 (wrap64 a + b) = wrap64 (a + b) :=
  Int.bmod_add_bmod

/-- Twice the largest number of points comes to less than nothing. -/
example : wrap64 (9223372036854775807 + 9223372036854775807) = -2 := by decide

end Tourney
