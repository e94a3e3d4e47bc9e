import Mathlib.Algebra.Order.Ring.Int
import Tourney.League.Table

/-!
# Values that are ranked

Sorting tells the two zeros apart and splitting does not. The values of a criterion never hold both:
a number made from a count, from a whole number or as a ratio of sizes is not negative zero, and a
criterion under which fewer rank first negates all of its values. So its values are level only if
they are the same (`RankValue.level_iff`).
-/

namespace Tourney

namespace RankValue

open Binary64

variable {a b : RankValue}

/-! ## Zeros -/

/-- Not negative zero. -/
def Unsigned (v : RankValue) : Prop :=
  v.place ≠ -1

theorem quotientPlace_nonneg (num den : Nat) : 0 ≤ quotientPlace num den := by
  refine add_nonneg (mul_nonneg ?_ (Int.natCast_nonneg _)) (Int.natCast_nonneg _)
  omega

theorem quotientPlace_one_pos (num : Nat) : 0 < quotientPlace num 1 := by
  refine add_pos_of_pos_of_nonneg (mul_pos ?_ (by decide)) (Int.natCast_nonneg _)
  have one : Nat.log2 1 = 0 := by decide
  omega

theorem place_ofNat_nonneg (n : Nat) : 0 ≤ (ofNat n).place := by
  unfold ofNat
  split
  · exact le_rfl
  · exact quotientPlace_nonneg n 1

theorem unsigned_of_nonneg (h : 0 ≤ a.place) : a.Unsigned := by
  unfold Unsigned
  omega

theorem unsigned_ofNat (n : Nat) : (ofNat n).Unsigned :=
  unsigned_of_nonneg (place_ofNat_nonneg n)

theorem unsigned_ofInt (n : Int) : (ofInt n).Unsigned := by
  cases n with
  | ofNat n => exact unsigned_ofNat n
  | negSucc n =>
      have pos := quotientPlace_one_pos (n + 1)
      simp only [Unsigned, ofInt, neg, ofNat, Nat.add_one_ne_zero, ↓reduceIte]
      omega

theorem unsigned_ratio {num den : Int} (hn : 0 ≤ num) (hd : 0 ≤ den) : (ratio num den).Unsigned := by
  have sameSign : num < 0 ↔ den < 0 := by omega
  refine unsigned_of_nonneg ?_
  simp only [ratio, sameSign, ↓reduceIte]
  split_ifs
  · exact le_rfl
  · decide
  · exact le_rfl
  · exact quotientPlace_nonneg _ _

/-! ## Level values -/

theorem place_inj : a.place = b.place ↔ a = b := by
  rw [mk.injEq]

theorem neg_inj : a.neg = b.neg ↔ a = b := by
  obtain ⟨p⟩ := a
  obtain ⟨q⟩ := b
  simp only [neg, mk.injEq]
  omega

theorem level_iff (ha : a.Unsigned) (hb : b.Unsigned) : a.level b = true ↔ a = b := by
  obtain ⟨p⟩ := a
  obtain ⟨q⟩ := b
  simp only [Unsigned] at ha hb
  simp [level, size, ha, hb]

theorem neg_level_neg_iff (ha : a.Unsigned) (hb : b.Unsigned) : a.neg.level b.neg = true ↔ a = b := by
  obtain ⟨p⟩ := a
  obtain ⟨q⟩ := b
  simp only [Unsigned] at ha hb
  simp only [level, size, neg, beq_iff_eq, mk.injEq]
  split_ifs <;> omega

theorem atLeast_trans (a b c : RankValue) (hab : a.atLeast b = true) (hbc : b.atLeast c = true) :
    a.atLeast c = true := by
  simp only [atLeast, decide_eq_true_eq] at *
  omega

theorem atLeast_total (a b : RankValue) : (a.atLeast b || b.atLeast a) = true := by
  simp only [atLeast, Bool.or_eq_true, decide_eq_true_eq]
  omega

end RankValue

end Tourney
