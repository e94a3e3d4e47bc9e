import Mathlib.Data.List.TakeDrop
import Tourney.Calendar.Clock
import Tourney.Proofs.Text.Bytes
import Tourney.Proofs.Text.Numeral

/-!
# Which texts are durations

A duration is hours, a colon and two characters for the minutes. It is read as its minutes in all,
without loss, if these fit in 32 bits. Both numbers may have a plus sign: then one of the minutes'
two characters is no digit. Without a plus sign the minutes are two digits (`parse_iff_numerals`).
-/

namespace Tourney.Duration

open Text (Decimal Digits Spells)

variable {text : String} {cs hours minutes : List Char} {c : Char} {h m n : Nat}

/-- The minutes of hours and minutes, of which there are at most 59, if they fit in 32 bits. -/
def Totals (h m n : Nat) : Prop :=
  m ≤ 59 ∧ n = 60 * h + m ∧ n < 4294967296

/-- A number of hours, a colon and the minutes in two characters, both numbers with or without a
plus sign, and the minutes that these are in all. -/
def Spelled (text : String) (n : Nat) : Prop :=
  ∃ hours minutes h m, text.toList = hours ++ ':' :: minutes ∧ Spells hours h ∧
    (minutes.length = 2 ∧ Spells minutes m) ∧ Totals h m n

/-- Digits of the hours, a colon and two digits of the minutes, and the minutes that these are in
all. -/
def Strict (text : String) (n : Nat) : Prop :=
  ∃ hours minutes h m, text.toList = hours ++ ':' :: minutes ∧ Decimal hours h ∧
    Digits 2 minutes m ∧ Totals h m n

theorem isAscii_of_spells (spelled : Spells cs n) : ∀ c ∈ cs, Text.IsAscii c := by
  intro c hc
  rcases spelled.plain hc with rfl | digit
  · decide
  · exact Text.isAscii_of_isDigit digit

theorem ne_colon_of_spells (spelled : Spells cs n) : ∀ c ∈ cs, c ≠ ':' := by
  rintro _ hc rfl
  rcases spelled.plain hc with plus | digit
  · exact absurd plus (by decide)
  · exact absurd digit (by decide)

/-! ## Reading -/

theorem checked32_eq_some {a b : Nat} : checked32 a = some b ↔ a = b ∧ a < Text.limit32 := by
  unfold checked32
  split <;> simp [*]

theorem ofFields?_eq_some_iff_checks :
    ofFields? hours minutes = some n ↔ (hours ≠ [] ∧ Text.byteCount minutes = 2) ∧
      ∃ h, (Spells hours h ∧ h < Text.limit32) ∧ ∃ m, (Spells minutes m ∧ m < Text.limit32) ∧
        m ≤ 59 ∧ (h * 60 < Text.limit32 ∧ h * 60 + m = n ∧ h * 60 + m < Text.limit32) := by
  simp [ofFields?, Option.bind_eq_some_iff, Text.numeral?_eq_some, checked32_eq_some, and_assoc]

/-- A product or a sum that does not fit is refused, so what is read is not wrapped around. -/
theorem ofFields?_eq_some :
    ofFields? hours minutes = some n ↔
      ∃ h m, Spells hours h ∧ (minutes.length = 2 ∧ Spells minutes m) ∧ Totals h m n := by
  rw [ofFields?_eq_some_iff_checks]
  constructor
  · rintro ⟨⟨-, two⟩, h, ⟨spelledHours, -⟩, m, ⟨spelledMinutes, -⟩, small, -, rfl, fits⟩
    rw [Text.byteCount_of_ascii (isAscii_of_spells spelledMinutes)] at two
    exact ⟨h, m, spelledHours, ⟨two, spelledMinutes⟩, small, by omega, fits⟩
  · rintro ⟨h, m, spelledHours, ⟨two, spelledMinutes⟩, small, rfl, fits⟩
    rw [← Text.byteCount_of_ascii (isAscii_of_spells spelledMinutes)] at two
    have some : hours ≠ [] := by
      rintro rfl
      obtain ⟨sign, digits, none, -, nonempty, -⟩ := spelledHours
      exact nonempty (List.append_eq_nil_iff.mp none.symm).2
    have bound : 60 * h + m < Text.limit32 := fits
    refine ⟨⟨some, two⟩, h, ⟨spelledHours, ?_⟩, m, ⟨spelledMinutes, ?_⟩, small, ?_, ?_, ?_⟩ <;> omega

/-- The first colon of a text stands behind the hours, since they have none. -/
theorem span_colon (spelled : Spells hours h) :
    (hours ++ ':' :: minutes).span (· != ':') = (hours, ':' :: minutes) := by
  rw [List.span_eq_takeWhile_dropWhile]
  have plain : ∀ c ∈ hours, (c != ':') = true := by
    intro c hc
    simpa using ne_colon_of_spells spelled c hc
  rw [List.takeWhile_append_of_pos plain, List.dropWhile_append_of_pos plain]
  simp

theorem ofChars?_eq_some :
    ofChars? cs = some n ↔ ∃ hours minutes, cs = hours ++ ':' :: minutes ∧
      ofFields? hours minutes = some n := by
  constructor
  · intro found
    unfold ofChars? at found
    rw [List.span_eq_takeWhile_dropWhile] at found
    split at found
    · next hours c minutes divided =>
        obtain ⟨rfl, after⟩ := Prod.mk.inj divided
        obtain rfl : c = ':' := by
          have stop := List.head?_dropWhile_not (· != ':') cs
          rw [after] at stop
          simpa using stop
        refine ⟨_, minutes, ?_, found⟩
        rw [← after]
        exact List.takeWhile_append_dropWhile.symm
    · cases found
  · rintro ⟨hours, minutes, rfl, found⟩
    obtain ⟨h, m, spelled, -⟩ := ofFields?_eq_some.mp found
    rw [ofChars?, span_colon spelled]
    exact found

theorem parse_eq_ok : parse text = .ok n ↔ Spelled text n := by
  have found : parse text = .ok n ↔ ofChars? text.toList = some n := by
    unfold parse
    cases ofChars? text.toList <;> simp
  rw [found, ofChars?_eq_some]
  constructor
  · rintro ⟨hours, minutes, chars, read⟩
    obtain ⟨h, m, rest⟩ := ofFields?_eq_some.mp read
    exact ⟨hours, minutes, h, m, chars, rest⟩
  · rintro ⟨hours, minutes, h, m, chars, rest⟩
    exact ⟨hours, minutes, chars, ofFields?_eq_some.mpr ⟨h, m, rest⟩⟩

theorem parse_eq_error {e : Error} :
    parse text = .error e ↔ e = .invalid (.duration text) ∧ ∀ n, ¬ Spelled text n := by
  simp only [← parse_eq_ok]
  unfold parse
  split
  · simp
  · simp [eq_comm]

/-! ## The strict form -/

theorem spells_and_unsigned_iff : Spells cs n ∧ '+' ∉ cs ↔ Decimal cs n := by
  constructor
  · rintro ⟨⟨sign, digits, rfl, rfl | rfl, decimal⟩, unsigned⟩
    · exact decimal
    · exact absurd List.mem_cons_self unsigned
  · intro decimal
    refine ⟨⟨[], cs, rfl, .inl rfl, decimal⟩, fun plus => ?_⟩
    exact absurd (decimal.2.1 _ plus) (by decide)

theorem strict_iff : Strict text n ↔ Spelled text n ∧ '+' ∉ text.toList := by
  constructor
  · rintro ⟨hours, minutes, h, m, chars, decimalHours, ⟨two, decimalMinutes⟩, total⟩
    obtain ⟨spelledHours, plainHours⟩ := spells_and_unsigned_iff.mpr decimalHours
    obtain ⟨spelledMinutes, plainMinutes⟩ := spells_and_unsigned_iff.mpr decimalMinutes
    refine ⟨⟨hours, minutes, h, m, chars, spelledHours, ⟨two, spelledMinutes⟩, total⟩, ?_⟩
    simp [chars, plainHours, plainMinutes]
  · rintro ⟨⟨hours, minutes, h, m, chars, spelledHours, ⟨two, spelledMinutes⟩, total⟩, plain⟩
    have plain : '+' ∉ hours ∧ '+' ∉ minutes := by simpa [chars] using plain
    exact ⟨hours, minutes, h, m, chars, spells_and_unsigned_iff.mp ⟨spelledHours, plain.1⟩,
      ⟨two, spells_and_unsigned_iff.mp ⟨spelledMinutes, plain.2⟩⟩, total⟩

/-- A text is read as a duration exactly if it is spelled as one, and as exactly the minutes that
it spells; every other text is refused as it stands. The texts that are read and have no plus sign
are those with digits for the hours and two digits for the minutes. -/
theorem parse_iff_numerals (text : String) :
    (∀ n, parse text = .ok n ↔ Spelled text n) ∧
      (∀ e, parse text = .error e ↔ e = .invalid (.duration text) ∧ ∀ n, ¬ Spelled text n) ∧
      ∀ n, parse text = .ok n ∧ '+' ∉ text.toList ↔ Strict text n := by
  refine ⟨fun _ => parse_eq_ok, fun _ => parse_eq_error, fun n => ?_⟩
  rw [parse_eq_ok, strict_iff]

/-- A plus sign stands for a digit of the minutes. -/
theorem plus_for_digit : parse "1:+5" = .ok 65 ∧ ¬ ∃ n, Strict "1:+5" n := by
  refine ⟨rfl, ?_⟩
  rintro ⟨n, h⟩
  exact (strict_iff.mp h).2 (by decide)

end Tourney.Duration
