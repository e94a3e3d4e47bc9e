import Mathlib.Data.List.Basic
import Tourney.Calendar.Clock
import Tourney.Proofs.Text.Bytes
import Tourney.Proofs.Text.Numeral

/-!
# Which texts are times of day

A reader of times accepts a number on either side of a colon, each of one or two digits with blank
characters in front (`Reads`). Of texts of five bytes these are the ones with blanks for the digits
that are missing (`Spelled`), and they are times of day whatever the reader makes of other texts
(`parseWith_eq_ok`). Without a blank there are two digits on either side, and only such a text is the
way its time is written (`parse_iff_spelled`).
-/

namespace Tourney.ClockTime

open Text (Decimal Digits)

variable {text : String} {cs front rest : List Char} {c : Char} {n : Nat} {t : ClockTime}

/-- What is read as a number: one or two digits of its value after blank characters. -/
def Numbered (cs : List Char) (n : Nat) : Prop :=
  ∃ blanks digits, cs = blanks ++ digits ∧ (∀ c ∈ blanks, Text.isBlank c = true) ∧
    digits.length ≤ 2 ∧ Decimal digits n

/-- What is read as a time of day: five bytes that are two numbers around a colon. -/
def Spelled (text : String) (t : ClockTime) : Prop :=
  text.utf8ByteSize = 5 ∧ ∃ hour minute, text.toList = hour ++ ':' :: minute ∧
    Numbered hour t.hour ∧ Numbered minute t.minute

/-- What a reader of times does with a text of five bytes: it accepts two numbers around a colon. -/
def Reads (read : String → Option ClockTime) : Prop :=
  ∀ text t, text.utf8ByteSize = 5 → (read text = some t ↔ ∃ hour minute,
    text.toList = hour ++ ':' :: minute ∧ Numbered hour t.hour ∧ Numbered minute t.minute)

/-- Two digits of the hour, a colon and two digits of the minute. -/
def Strict (text : String) (t : ClockTime) : Prop :=
  ∃ hour minute, text.toList = hour ++ ':' :: minute ∧ Digits 2 hour t.hour ∧
    Digits 2 minute t.minute

/-! ## Reading numbers -/

theorem not_isBlank_of_isDigit (h : c.isDigit = true) : Text.isBlank c = false := by
  simp only [Char.isDigit, Bool.and_eq_true, decide_eq_true_eq] at h
  have low : 48 ≤ c.toNat := h.1
  have high : c.toNat ≤ 57 := h.2
  simp only [Text.isBlank, Text.blankRanges, List.any_cons, List.any_nil, Bool.or_eq_false_iff,
    Bool.and_eq_false_iff, decide_eq_false_iff_not, and_true]
  omega

theorem skipBlanks_append {blanks : List Char} (blank : ∀ c ∈ blanks, Text.isBlank c = true)
    (next : ∀ c ∈ cs.head?, Text.isBlank c = false) : Text.skipBlanks (blanks ++ cs) = cs := by
  unfold Text.skipBlanks
  rw [List.dropWhile_append_of_pos blank]
  cases cs with
  | nil => rfl
  | cons c cs => exact List.dropWhile_cons_of_neg (by simp [next c rfl])

theorem exists_blanks (cs : List Char) :
    ∃ blanks, cs = blanks ++ Text.skipBlanks cs ∧ ∀ c ∈ blanks, Text.isBlank c = true :=
  ⟨cs.takeWhile Text.isBlank, List.takeWhile_append_dropWhile.symm,
    List.all_eq_true.mp List.all_takeWhile⟩

theorem exists_front_of_number? (h : number? cs = some (n, rest)) :
    ∃ front, cs = front ++ rest ∧ Numbered front n := by
  obtain ⟨blanks, split, blank⟩ := exists_blanks cs
  unfold number? at h
  split at h
  · next c₁ c₂ more skipped =>
      rw [skipped] at split
      split at h
      · obtain ⟨m, read, ⟨⟩⟩ := Option.map_eq_some_iff.mp h
        exact ⟨blanks ++ [c₁, c₂], by simp [split], blanks, _, rfl, blank, by simp,
          Text.digits?_eq_some.mp read⟩
      · obtain ⟨m, read, ⟨⟩⟩ := Option.map_eq_some_iff.mp h
        exact ⟨blanks ++ [c₁], by simp [split], blanks, _, rfl, blank, by simp,
          Text.digits?_eq_some.mp read⟩
  · next c₁ skipped =>
      rw [skipped] at split
      obtain ⟨m, read, ⟨⟩⟩ := Option.map_eq_some_iff.mp h
      exact ⟨blanks ++ [c₁], by simp [split], blanks, _, rfl, blank, by simp,
        Text.digits?_eq_some.mp read⟩
  · cases h

/-- A number is read up to the first character that cannot go on with it. -/
theorem number?_append (h : Numbered front n) (next : ∀ c ∈ rest.head?, c.isDigit = false) :
    number? (front ++ rest) = some (n, rest) := by
  obtain ⟨blanks, digits, rfl, blank, short, decimal⟩ := h
  have skipped : Text.skipBlanks (blanks ++ digits ++ rest) = digits ++ rest := by
    rw [List.append_assoc]
    refine skipBlanks_append blank ?_
    obtain ⟨d, ds, rfl⟩ := List.exists_cons_of_ne_nil decimal.1
    rintro _ ⟨⟩
    exact not_isBlank_of_isDigit (decimal.2.1 d List.mem_cons_self)
  have read := Text.digits?_eq_some.mpr decimal
  rw [number?, skipped]
  match digits, short with
  | [], _ => exact absurd rfl decimal.1
  | [c₁], _ =>
      cases rest with
      | nil => simp [read]
      | cons c₂ rest => simp [read, next c₂ rfl]
  | [c₁, c₂], _ =>
      have second : c₂.isDigit = true := decimal.2.1 c₂ (by simp)
      simp [read, second]

theorem ofChars?_eq_some :
    ofChars? cs = some t ↔ ∃ hour minute, cs = hour ++ ':' :: minute ∧ Numbered hour t.hour ∧
      Numbered minute t.minute := by
  constructor
  · intro h
    obtain ⟨⟨hour, rest⟩, readHour, h⟩ := Option.bind_eq_some_iff.mp h
    dsimp only at h
    split at h
    · next rest =>
        obtain ⟨⟨minute, rest'⟩, readMinute, h⟩ := Option.bind_eq_some_iff.mp h
        obtain ⟨front, split, hourAt⟩ := exists_front_of_number? readHour
        obtain ⟨front', split', minuteAt⟩ := exists_front_of_number? readMinute
        dsimp only at h
        split at h
        · cases h
        · next done =>
            split at h
            · cases h
              obtain rfl := Decidable.not_not.mp done
              rw [List.append_nil] at split'
              exact ⟨front, front', by rw [split, split'], hourAt, minuteAt⟩
            · cases h
    · cases h
  · rintro ⟨hour, minute, rfl, hourAt, minuteAt⟩
    have readHour : number? (hour ++ ':' :: minute) = some (t.hour.val, ':' :: minute) :=
      number?_append hourAt (by simp)
    have readMinute : number? (minute ++ []) = some (t.minute.val, []) :=
      number?_append minuteAt (by simp)
    rw [List.append_nil] at readMinute
    simp [ofChars?, readHour, readMinute]

theorem reads_ofChars? : Reads fun text => ofChars? text.toList :=
  fun _ _ _ => ofChars?_eq_some

theorem parseWith_eq_ok {read : String → Option ClockTime} (reads : Reads read) :
    parseWith read text = .ok t ↔ Spelled text t := by
  unfold parseWith Spelled
  by_cases five : text.utf8ByteSize = textBytes
  · rw [if_pos five, ← reads text t five]
    have size : text.utf8ByteSize = 5 := five
    simp only [size, true_and]
    cases read text <;> simp
  · rw [if_neg five]
    have size : ¬ text.utf8ByteSize = 5 := five
    simp [size]

theorem parseWith_eq_error {read : String → Option ClockTime} (reads : Reads read) {e : Error} :
    parseWith read text = .error e ↔ e = .invalid (.time text) ∧ ∀ t, ¬ Spelled text t := by
  simp only [← parseWith_eq_ok reads]
  unfold parseWith
  split
  · simp
  · simp [eq_comm]

theorem parse_eq_ok : parse text = .ok t ↔ Spelled text t :=
  parseWith_eq_ok reads_ofChars?

/-! ## The strict form -/

theorem Strict.digit_or_colon (h : Strict text t) (mem : c ∈ text.toList) :
    c.isDigit = true ∨ c = ':' := by
  obtain ⟨hour, minute, spelled, hh, hm⟩ := h
  rw [spelled, List.mem_append, List.mem_cons] at mem
  rcases mem with mem | rfl | mem
  · exact .inl (hh.2.2.1 c mem)
  · exact .inr rfl
  · exact .inl (hm.2.2.1 c mem)

theorem Strict.isAscii (h : Strict text t) : ∀ c ∈ text.toList, Text.IsAscii c := by
  intro c mem
  rcases h.digit_or_colon mem with digit | rfl
  · exact Text.isAscii_of_isDigit digit
  · decide

theorem Strict.not_blank (h : Strict text t) : ∀ c ∈ text.toList, Text.isBlank c = false := by
  intro c mem
  rcases h.digit_or_colon mem with digit | rfl
  · exact not_isBlank_of_isDigit digit
  · decide

theorem Strict.spelled (h : Strict text t) : Spelled text t := by
  have size := Text.utf8ByteSize_of_ascii h.isAscii
  obtain ⟨hour, minute, chars, hh, hm⟩ := h
  refine ⟨?_, hour, minute, chars, ⟨[], hour, rfl, nofun, Nat.le_of_eq hh.1, hh.2⟩,
    ⟨[], minute, rfl, nofun, Nat.le_of_eq hm.1, hm.2⟩⟩
  rw [size, chars, List.length_append, List.length_cons, hh.1, hm.1]

/-- A number without a blank is digits alone. -/
theorem Numbered.decimal (h : Numbered cs n) (none : ∀ c ∈ cs, Text.isBlank c = false) :
    cs.length ≤ 2 ∧ Decimal cs n := by
  obtain ⟨blanks, digits, rfl, blank, short, decimal⟩ := h
  cases blanks with
  | nil => exact ⟨short, decimal⟩
  | cons b blanks =>
      have := none b (by simp)
      rw [blank b List.mem_cons_self] at this
      cases this

/-- Five bytes without a blank leave room for two digits on either side. -/
theorem Spelled.strict (h : Spelled text t) (none : ∀ c ∈ text.toList, Text.isBlank c = false) :
    Strict text t := by
  obtain ⟨five, hour, minute, chars, hh, hm⟩ := h
  rw [chars] at none
  obtain ⟨noneHour, -, noneMinute⟩ := (List.forall_mem_append.trans
    (and_congr_right fun _ => List.forall_mem_cons)).mp none
  obtain ⟨shortHour, hh⟩ := hh.decimal noneHour
  obtain ⟨shortMinute, hm⟩ := hm.decimal noneMinute
  have ascii : ∀ c ∈ text.toList, Text.IsAscii c := by
    rw [chars, List.forall_mem_append, List.forall_mem_cons]
    exact ⟨fun c hc => Text.isAscii_of_isDigit (hh.2.1 c hc), by decide,
      fun c hc => Text.isAscii_of_isDigit (hm.2.1 c hc)⟩
  rw [Text.utf8ByteSize_of_ascii ascii, chars, List.length_append, List.length_cons] at five
  exact ⟨hour, minute, chars, ⟨by omega, hh⟩, ⟨by omega, hm⟩⟩

theorem digits_padded_fin {bound : Nat} (n : Fin bound) (small : bound ≤ 100) :
    Digits 2 (Text.padded 2 n).toList n :=
  Text.digits_padded_of_lt (by decide) (Nat.lt_of_lt_of_le n.isLt small)

theorem strict_iff : Strict text t ↔ t.text = text ++ ":00" := by
  have hour := digits_padded_fin t.hour (by decide)
  have minute := digits_padded_fin t.minute (by decide)
  have written : t.text = text ++ ":00" ↔
      text.toList = (Text.padded 2 t.hour).toList ++ ':' :: (Text.padded 2 t.minute).toList := by
    rw [ClockTime.text, String.append_left_inj, ← String.toList_inj, eq_comm]
    simp
  rw [written]
  constructor
  · rintro ⟨hs, ms, chars, hh, hm⟩
    rw [chars, (hh.eq_iff hour).mpr rfl, (hm.eq_iff minute).mpr rfl]
  · intro chars
    exact ⟨_, _, chars, hour, minute⟩

/-- A text is read as a time exactly if it is spelled as one in five bytes, and every other text is
refused as it stands. The texts that are read and have no blank are those with two digits on either
side of the colon, and no other text is the way its time is written. -/
theorem parse_iff_spelled (text : String) :
    (∀ t, parse text = .ok t ↔ Spelled text t) ∧
      (∀ e, parse text = .error e ↔ e = .invalid (.time text) ∧ ∀ t, ¬ Spelled text t) ∧
      (∀ t, parse text = .ok t ∧ (∀ c ∈ text.toList, Text.isBlank c = false) ↔ Strict text t) ∧
      ∀ t, Strict text t ↔ t.text = text ++ ":00" := by
  refine ⟨fun _ => parse_eq_ok, fun _ => parseWith_eq_error reads_ofChars?, fun t => ?_, fun _ => strict_iff⟩
  rw [parse_eq_ok]
  constructor
  · rintro ⟨h, none⟩
    exact h.strict none
  · intro h
    exact ⟨h.spelled, h.not_blank⟩

/-- A blank stands for a digit that is missing. -/
theorem blank_for_digit :
    parse " 9:30" = .ok ⟨9, 30⟩ ∧ ¬ ∃ t, Strict " 9:30" t := by
  refine ⟨rfl, ?_⟩
  rintro ⟨t, h⟩
  have := h.not_blank ' ' (by decide)
  cases this

end Tourney.ClockTime
