import Mathlib.Data.Nat.Log
import Mathlib.Tactic.Ring
import Tourney.Proofs.League.Values

/-!
# Whole numbers as ranking values

A whole number is ranked by the nearest number of the binary64 format, which has 53 significant bits.
So a larger one is never ranked below a smaller one (`RankValue.place_ofInt_mono`), and it is ranked
above it unless both have more bits than that (`RankValue.place_ofInt_lt`).
-/

namespace Tourney

namespace Binary64

variable {a b d : Nat}

theorem roundedQuotient_mul (pos : 0 < d) (k : Nat) : roundedQuotient (k * d) d = k := by
  simp [roundedQuotient, Nat.mul_div_cancel k pos, pos]

theorem roundedQuotient_mono (le : a ≤ b) :
    roundedQuotient a d ≤ roundedQuotient b d := by
  have quotients : a / d ≤ b / d := Nat.div_le_div_right le
  have ha := Nat.div_add_mod a d
  have hb := Nat.div_add_mod b d
  simp only [roundedQuotient]
  rcases quotients.eq_or_lt with same | less
  · have rests : a % d ≤ b % d := by
      rw [same] at ha
      omega
    simp only [same]
    split_ifs <;> omega
  · split_ifs <;> omega

end Binary64

namespace RankValue

open Binary64

variable {m n : Nat}

/-- The 53 leading bits of a number, rounded. -/
def significand (n : Nat) : Nat :=
  roundedQuotient (n * Nat.pow 2 64) (Nat.pow 2 (n.log2 + 12))

theorem pow_log2_le (pos : 0 < n) : Nat.pow 2 n.log2 ≤ n :=
  Nat.log2_self_le pos.ne'

theorem lt_pow_log2 (n : Nat) : n < Nat.pow 2 (n.log2 + 1) :=
  Nat.lt_log2_self

theorem log2_mul_pow (pos : 0 < n) (k : Nat) : (n * Nat.pow 2 k).log2 = n.log2 + k := by
  have positive : 0 < n * Nat.pow 2 k := Nat.mul_pos pos (Nat.two_pow_pos k)
  refine (Nat.log2_eq_iff positive.ne').mpr ⟨?_, ?_⟩
  · calc 2 ^ (n.log2 + k) = Nat.pow 2 n.log2 * Nat.pow 2 k := pow_add 2 _ _
      _ ≤ n * Nat.pow 2 k := Nat.mul_le_mul_right _ (pow_log2_le pos)
  · calc n * Nat.pow 2 k < Nat.pow 2 (n.log2 + 1) * Nat.pow 2 k :=
          Nat.mul_lt_mul_of_pos_right (lt_pow_log2 n) (Nat.two_pow_pos k)
      _ = 2 ^ (n.log2 + k + 1) := by
          rw [Nat.add_right_comm]
          exact (pow_add 2 _ _).symm

theorem place_ofNat (pos : 0 < n) :
    (ofNat n).place = ((n.log2 : Int) + 1022) * binade + significand n := by
  have one : Nat.log2 1 = 0 := by decide
  have spare : max (spareBits (n * Nat.pow 2 64 / 1)) (64 - 1074) = n.log2 + 12 := by
    rw [Nat.div_one, spareBits, log2_mul_pow pos]
    omega
  have exponent : ((n.log2 + 12 : Nat) : Int) - (64 : Nat) + 1074 = (n.log2 : Int) + 1022 := by omega
  simp only [ofNat, pos.ne', ↓reduceIte, quotientPlace, one, Nat.zero_add, spare, Nat.one_mul,
    exponent, significand]

/-! ## Significands -/

theorem two_mul_binade : 2 * binade = Nat.pow 2 53 := by decide

theorem significand_le (n : Nat) : significand n ≤ 2 * binade := by
  have bound : n * Nat.pow 2 64 ≤ 2 * binade * Nat.pow 2 (n.log2 + 12) :=
    calc n * Nat.pow 2 64 ≤ Nat.pow 2 (n.log2 + 1) * Nat.pow 2 64 :=
          Nat.mul_le_mul_right _ (lt_pow_log2 n).le
      _ = 2 * binade * Nat.pow 2 (n.log2 + 12) := by
          rw [two_mul_binade]
          simp only [Nat.pow_eq, ← pow_add]
          exact congrArg (2 ^ ·) (by omega)
  rw [significand, ← roundedQuotient_mul (Nat.two_pow_pos (n.log2 + 12)) (2 * binade)]
  exact roundedQuotient_mono bound

theorem le_significand (pos : 0 < n) : binade ≤ significand n := by
  have bound : binade * Nat.pow 2 (n.log2 + 12) ≤ n * Nat.pow 2 64 :=
    calc binade * Nat.pow 2 (n.log2 + 12) = Nat.pow 2 n.log2 * Nat.pow 2 64 := by
          have power : binade = Nat.pow 2 52 := by decide
          rw [power]
          simp only [Nat.pow_eq, ← pow_add]
          exact congrArg (2 ^ ·) (by omega)
      _ ≤ n * Nat.pow 2 64 := Nat.mul_le_mul_right _ (pow_log2_le pos)
  rw [significand, ← roundedQuotient_mul (Nat.two_pow_pos (n.log2 + 12)) binade]
  exact roundedQuotient_mono bound

/-- A number of at most 53 bits is not rounded. -/
theorem significand_of_log2_le (small : n.log2 ≤ 52) :
    significand n = n * Nat.pow 2 (52 - n.log2) := by
  have exact : n * Nat.pow 2 64 = n * Nat.pow 2 (52 - n.log2) * Nat.pow 2 (n.log2 + 12) := by
    rw [Nat.mul_assoc]
    simp only [Nat.pow_eq, ← pow_add]
    congr 2
    omega
  rw [significand, exact]
  exact roundedQuotient_mul (Nat.two_pow_pos _) _

/-! ## Order -/

theorem log2_mono (pos : 0 < m) (le : m ≤ n) : m.log2 ≤ n.log2 :=
  (Nat.le_log2 (by omega)).mpr ((Nat.log2_self_le pos.ne').trans le)

theorem place_ofNat_mono (le : m ≤ n) : (ofNat m).place ≤ (ofNat n).place := by
  rcases m.eq_zero_or_pos with rfl | pos
  · exact place_ofNat_nonneg n
  · rw [place_ofNat pos, place_ofNat (pos.trans_le le)]
    rcases (log2_mono pos le).eq_or_lt with same | less
    · have bits : significand m ≤ significand n := by
        unfold significand
        rw [same]
        exact roundedQuotient_mono (Nat.mul_le_mul_right _ le)
      rw [same]
      omega
    · have high := significand_le m
      have low := le_significand (pos.trans_le le)
      simp only [binade] at *
      omega

theorem place_ofNat_pos (pos : 0 < n) : 0 < (ofNat n).place := by
  have low := le_significand pos
  rw [place_ofNat pos]
  simp only [binade] at *
  omega

/-- Two numbers are told apart unless the smaller one has more than 53 bits. -/
theorem place_ofNat_lt (less : m < n) (small : m < 9007199254740992) :
    (ofNat m).place < (ofNat n).place := by
  rcases m.eq_zero_or_pos with rfl | pos
  · exact place_ofNat_pos less
  · have bits : m.log2 ≤ 52 := Nat.lt_succ_iff.mp ((Nat.log2_lt pos.ne').mpr small)
    have exact : significand m = m * Nat.pow 2 (52 - m.log2) := significand_of_log2_le bits
    rw [place_ofNat pos, place_ofNat (pos.trans less)]
    rcases (log2_mono pos less.le).eq_or_lt with same | higher
    · have bits : significand m < significand n := by
        rw [exact, significand_of_log2_le (same ▸ bits), ← same]
        exact Nat.mul_lt_mul_of_pos_right less (Nat.two_pow_pos _)
      rw [same]
      omega
    · have low := le_significand (pos.trans less)
      have high : significand m < 2 * binade :=
        calc significand m = m * Nat.pow 2 (52 - m.log2) := exact
          _ < Nat.pow 2 (m.log2 + 1) * Nat.pow 2 (52 - m.log2) :=
              Nat.mul_lt_mul_of_pos_right (lt_pow_log2 m) (Nat.two_pow_pos _)
          _ = 2 * binade := by
              rw [two_mul_binade]
              simp only [Nat.pow_eq, ← pow_add]
              exact congrArg (2 ^ ·) (by omega)
      simp only [binade] at *
      omega

theorem place_ofInt_mono {p q : Int} (le : p ≤ q) : (ofInt p).place ≤ (ofInt q).place := by
  cases p with
  | ofNat m =>
      rw [Int.ofNat_eq_natCast] at le
      cases q with
      | ofNat n => exact place_ofNat_mono (Int.ofNat_le.mp le)
      | negSucc n => omega
  | negSucc m =>
      cases q with
      | ofNat n =>
          have := place_ofNat_nonneg (m + 1)
          have := place_ofNat_nonneg n
          simp only [ofInt, neg]
          omega
      | negSucc n =>
          have := place_ofNat_mono (m := n + 1) (n := m + 1) (by omega)
          simp only [ofInt, neg]
          omega

/-- Two whole numbers are told apart unless both have more than 53 bits and the same sign. -/
theorem place_ofInt_lt {p q : Int} (less : p < q) (small : p < 9007199254740992)
    (small' : -9007199254740992 < q) : (ofInt p).place < (ofInt q).place := by
  cases p with
  | ofNat m =>
      rw [Int.ofNat_eq_natCast] at less small
      cases q with
      | ofNat n => exact place_ofNat_lt (Int.ofNat_lt.mp less) (by omega)
      | negSucc n => omega
  | negSucc m =>
      cases q with
      | ofNat n =>
          have := place_ofNat_nonneg (m + 1)
          have := place_ofNat_nonneg n
          simp only [ofInt, neg]
          omega
      | negSucc n =>
          have := place_ofNat_lt (m := n + 1) (n := m + 1) (by omega) (by omega)
          simp only [ofInt, neg]
          omega

end RankValue

end Tourney
