import Mathlib.Data.List.Basic
import Mathlib.Data.List.Induction
import Tourney.Text.Numeral

/-!
# What numerals are read

A numeral is an optional plus sign and decimal digits (`Spells`), and it is read as its value if
this is below the bound (`numeral?_eq_some`). Apart from the sign and zeros in front it is the way
the number is written (`Spells.exists_lead`).
-/

namespace Tourney.Text

variable {cs : List Char} {c : Char} {n bound : Nat}

/-! ## Digits -/

theorem exists_digitChar (h : c.isDigit = true) : ∃ d < 10, c = d.digitChar ∧ c.toNat - 48 = d := by
  simp only [Char.isDigit, Bool.and_eq_true, decide_eq_true_eq] at h
  have range : 48 ≤ c.toNat ∧ c.toNat ≤ 57 := h
  refine ⟨c.toNat - 48, by omega, ?_, rfl⟩
  refine Char.toNat_inj.mp ?_
  rw [Nat.toNat_digitChar_of_lt_ten (by omega)]
  omega

/-- One more digit at the end. -/
theorem ofDigitChars_concat (cs : List Char) (c : Char) :
    Nat.ofDigitChars 10 (cs ++ [c]) 0 = 10 * Nat.ofDigitChars 10 cs 0 + (c.toNat - 48) := by
  rw [Nat.ofDigitChars_append, Nat.ofDigitChars_cons, Nat.ofDigitChars_nil]
  rfl

/-- A run of digits is the way its value is written, but for zeros in front. -/
theorem eq_zeros_append_toDigits (nonempty : cs ≠ []) (digits : ∀ c ∈ cs, c.isDigit = true) :
    ∃ zeros, cs = List.replicate zeros '0' ++ Nat.toDigits 10 (Nat.ofDigitChars 10 cs 0) := by
  -- A number grows by digits at its end, so the induction goes from there.
  induction cs using List.reverseRecOn with
  | nil => exact absurd rfl nonempty
  | append_singleton ds c ih =>
      obtain ⟨d, small, rfl, value⟩ := exists_digitChar (digits c (by simp))
      have last : [d.digitChar] = Nat.toDigits 10 d := (Nat.toDigits_of_lt_base small).symm
      rw [ofDigitChars_concat, value]
      by_cases single : ds = []
      · subst single
        exact ⟨0, by simp [last]⟩
      · obtain ⟨zeros, split⟩ := ih single fun c hc => digits c (List.mem_append_left _ hc)
        generalize Nat.ofDigitChars 10 ds 0 = v at split ⊢
        subst split
        rcases Nat.eq_zero_or_pos v with rfl | positive
        · refine ⟨zeros + 1, ?_⟩
          rw [last]
          simp [List.replicate_succ']
        · refine ⟨zeros, ?_⟩
          rw [last, List.append_assoc, Nat.toDigits_append_toDigits (by decide) positive small]

theorem digits?_eq_some :
    digits? cs = some n ↔
      cs ≠ [] ∧ (∀ c ∈ cs, c.isDigit = true) ∧ Nat.ofDigitChars 10 cs 0 = n := by
  simp only [digits?, Option.ite_none_right_eq_some, Option.some.injEq, List.all_eq_true, and_assoc]

/-! ## Numerals -/

/-- Decimal digits with the value of a number, after an optional plus sign. -/
def Spells (field : List Char) (n : Nat) : Prop :=
  ∃ sign digits, field = sign ++ digits ∧ (sign = [] ∨ sign = ['+']) ∧ digits ≠ [] ∧
    (∀ c ∈ digits, c.isDigit = true) ∧ Nat.ofDigitChars 10 digits 0 = n

theorem numeral?_eq_some : numeral? bound cs = some n ↔ Spells cs n ∧ n < bound := by
  simp only [numeral?, Option.filter_eq_some_iff, decide_eq_true_eq]
  refine and_congr_left fun _ => ?_
  rw [digits?_eq_some]
  constructor
  · intro h
    by_cases signed : ∃ ds, cs = '+' :: ds
    · obtain ⟨ds, rfl⟩ := signed
      exact ⟨['+'], ds, rfl, .inr rfl, h⟩
    · have plain : unsigned cs = cs := by
        unfold unsigned
        split
        · exact absurd ⟨_, rfl⟩ signed
        · rfl
      exact ⟨[], cs, rfl, .inl rfl, plain ▸ h⟩
  · rintro ⟨sign, digits, rfl, rfl | rfl, h⟩
    · have plain : unsigned digits = digits := by
        unfold unsigned
        split
        · next ds => exact absurd (h.2.1 '+' List.mem_cons_self) (by decide)
        · rfl
      rw [List.nil_append, plain]
      exact h
    · exact h

theorem Spells.unique {m : Nat} (h : Spells cs n) (h' : Spells cs m) : n = m := by
  have read : numeral? (n + m + 1) cs = some n := numeral?_eq_some.mpr ⟨h, by omega⟩
  have read' : numeral? (n + m + 1) cs = some m := numeral?_eq_some.mpr ⟨h', by omega⟩
  exact Option.some.inj (read.symm.trans read')

theorem spells_toDigits (n : Nat) : Spells (Nat.toDigits 10 n) n := by
  refine ⟨[], Nat.toDigits 10 n, rfl, .inl rfl, Nat.toDigits_ne_nil, ?_, Nat.ofDigitChars_ten_toDigits⟩
  exact fun c hc => Nat.isDigit_of_mem_toDigits (by decide) (by decide) hc

/-- What a numeral may have in front of the number: a plus sign and zeros. -/
def IsLead (lead : List Char) : Prop :=
  ∃ sign zeros, lead = sign ++ List.replicate zeros '0' ∧ (sign = [] ∨ sign = ['+'])

theorem Spells.exists_lead (h : Spells cs n) :
    ∃ lead, IsLead lead ∧ cs = lead ++ Nat.toDigits 10 n := by
  obtain ⟨sign, digits, rfl, plus, nonempty, each, rfl⟩ := h
  obtain ⟨zeros, split⟩ := eq_zeros_append_toDigits nonempty each
  refine ⟨sign ++ List.replicate zeros '0', ⟨sign, zeros, rfl, plus⟩, ?_⟩
  rw [List.append_assoc, ← split]

theorem Spells.plain (h : Spells cs n) (hc : c ∈ cs) : c = '+' ∨ c.isDigit = true := by
  obtain ⟨sign, digits, rfl, plus, -, each, -⟩ := h
  rcases List.mem_append.mp hc with hc | hc
  · rcases plus with rfl | rfl
    · cases hc
    · exact .inl (List.mem_singleton.mp hc)
  · exact .inr (each c hc)

/-! ## Numbers of a fixed width -/

/-- Decimal digits with the value of a number. -/
def Decimal (digits : List Char) (n : Nat) : Prop :=
  digits ≠ [] ∧ (∀ c ∈ digits, c.isDigit = true) ∧ Nat.ofDigitChars 10 digits 0 = n

/-- As many decimal digits as stated, with the value of a number. -/
def Digits (width : Nat) (digits : List Char) (n : Nat) : Prop :=
  digits.length = width ∧ Decimal digits n

theorem toList_padded (width n : Nat) :
    (padded width n).toList =
      List.replicate (width - (Nat.toDigits 10 n).length) '0' ++ Nat.toDigits 10 n :=
  String.toList_ofList

/-- Digits are the way their value is written in as many places. -/
theorem Digits.eq_padded {width : Nat} (h : Digits width cs n) : cs = (padded width n).toList := by
  obtain ⟨rfl, nonempty, each, rfl⟩ := h
  obtain ⟨zeros, split⟩ := eq_zeros_append_toDigits nonempty each
  have count : cs.length - (Nat.toDigits 10 (Nat.ofDigitChars 10 cs 0)).length = zeros := by
    have := congrArg List.length split
    simp only [List.length_append, List.length_replicate] at this
    omega
  rw [toList_padded, count, ← split]

theorem Digits.eq_iff {width m : Nat} {ds : List Char} (h : Digits width cs m)
    (h' : Digits width ds n) : cs = ds ↔ m = n := by
  constructor
  · rintro rfl
    exact h.2.2.2.symm.trans h'.2.2.2
  · rintro rfl
    exact h.eq_padded.trans h'.eq_padded.symm

theorem ofDigitChars_replicate_append (zeros : Nat) (cs : List Char) :
    Nat.ofDigitChars 10 (List.replicate zeros '0' ++ cs) 0 = Nat.ofDigitChars 10 cs 0 := by
  induction zeros with
  | zero => rfl
  | succ zeros ih =>
      rw [List.replicate_succ, List.cons_append, Nat.ofDigitChars_cons]
      exact ih

/-- What a number is written with in at least as many places as it needs. -/
theorem digits_padded {width : Nat} (fits : (Nat.toDigits 10 n).length ≤ width) :
    Digits width (padded width n).toList n := by
  rw [toList_padded]
  refine ⟨?_, ?_, ?_, ?_⟩
  · simp only [List.length_append, List.length_replicate]
    omega
  · exact List.append_ne_nil_of_right_ne_nil _ Nat.toDigits_ne_nil
  · intro c hc
    rcases List.mem_append.mp hc with zero | digit
    · rw [List.eq_of_mem_replicate zero]
      decide
    · exact Nat.isDigit_of_mem_toDigits (by decide) (by decide) digit
  · rw [ofDigitChars_replicate_append, Nat.ofDigitChars_ten_toDigits]

theorem digits_padded_of_lt {width : Nat} (positive : 0 < width) (small : n < Nat.pow 10 width) :
    Digits width (padded width n).toList n :=
  digits_padded ((Nat.length_toDigits_le_iff (by decide) positive).mpr small)

/-! ## The order of digits -/

theorem append_lt_append {α : Type} [LT α] {as bs cs ds : List α} (same : as.length = bs.length) :
    as ++ cs < bs ++ ds ↔ as < bs ∨ as = bs ∧ cs < ds := by
  induction as generalizing bs with
  | nil =>
      obtain rfl := List.length_eq_zero_iff.mp same.symm
      simp
  | cons a as ih =>
      obtain ⟨b, bs, rfl⟩ := List.exists_cons_of_length_eq_add_one same.symm
      simp only [List.cons_append, List.cons_lt_cons_iff, List.cons.injEq, ih (Nat.succ.inj same)]
      rw [and_or_left, ← or_assoc, and_assoc]

theorem isDigit_lt_iff {a b : Char} (ha : a.isDigit = true) (hb : b.isDigit = true) :
    a < b ↔ a.toNat - 48 < b.toNat - 48 := by
  simp only [Char.isDigit, Bool.and_eq_true, decide_eq_true_eq] at ha hb
  have low : 48 ≤ a.toNat := ha.1
  have low' : 48 ≤ b.toNat := hb.1
  have order : a < b ↔ a.toNat < b.toNat := UInt32.lt_iff_toNat_lt
  rw [order]
  omega

/-- Equally many digits stand in the order of their values. -/
theorem lt_iff_ofDigitChars_lt {ds : List Char} (same : cs.length = ds.length)
    (each : ∀ c ∈ cs, c.isDigit = true) (each' : ∀ c ∈ ds, c.isDigit = true) :
    cs < ds ↔ Nat.ofDigitChars 10 cs 0 < Nat.ofDigitChars 10 ds 0 := by
  -- The last digit decides only between equal beginnings, so the induction goes from the end.
  induction cs using List.reverseRecOn generalizing ds with
  | nil =>
      obtain rfl := List.length_eq_zero_iff.mp same.symm
      simp
  | append_singleton cs a ih =>
      obtain rfl | ⟨ds, b, rfl⟩ := List.eq_nil_or_concat' ds
      · simp at same
      · have shorter : cs.length = ds.length := by simpa using same
        have left := List.forall_mem_append.mp each
        have right := List.forall_mem_append.mp each'
        have ha : a.isDigit = true := left.2 a (by simp)
        have hb : b.isDigit = true := right.2 b (by simp)
        have equal : cs = ds ↔ Nat.ofDigitChars 10 cs 0 = Nat.ofDigitChars 10 ds 0 := by
          refine ⟨congrArg _, fun value => ?_⟩
          by_cases none : cs = []
          · subst none
            exact (List.length_eq_zero_iff.mp shorter.symm).symm
          · have some : ds ≠ [] := fun none' => none (by simpa [none'] using shorter)
            have h : Digits ds.length cs _ := ⟨shorter, none, left.1, rfl⟩
            have h' : Digits ds.length ds _ := ⟨rfl, some, right.1, rfl⟩
            exact (h.eq_iff h').mpr value
        obtain ⟨d, small, -, da⟩ := exists_digitChar ha
        obtain ⟨d', small', -, db⟩ := exists_digitChar hb
        have last : [a] < [b] ↔ d < d' := by
          rw [List.cons_lt_cons_iff, isDigit_lt_iff ha hb, da, db]
          simp
        rw [append_lt_append shorter, ih shorter left.1 right.1, equal, last, ofDigitChars_concat,
          ofDigitChars_concat, da, db]
        omega

theorem Digits.lt_iff {width m : Nat} {ds : List Char} (h : Digits width cs m)
    (h' : Digits width ds n) : cs < ds ↔ m < n := by
  obtain ⟨count, -, each, rfl⟩ := h
  obtain ⟨count', -, each', rfl⟩ := h'
  exact lt_iff_ofDigitChars_lt (count.trans count'.symm) each each'

end Tourney.Text
