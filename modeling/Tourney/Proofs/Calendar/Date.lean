import Tourney.Calendar.Date
import Tourney.Proofs.Text.Bytes
import Tourney.Proofs.Text.Numeral

/-!
# Which texts are dates

A date is read from ten characters that spell an existing day, and from nothing else: the test of
the bytes alone makes sure of the spelling (`isShaped_bytes_iff`), so it does not matter what a
reader makes of other texts. A date that is read is written as it was read, and dates stand in the
order of their texts (`parseWith_exact`).
-/

namespace Tourney.Date

open Text (Digits)

variable {text s t : String} {cs : List Char} {c : Char} {bs : List UInt8}
  {year month day year' month' day' : Nat} {a b d : Date} {read : String → Option Date}

/-- Ten characters that spell a year, a month and a day, whether there is such a day or not. -/
def Spelled (text : String) (year month day : Nat) : Prop :=
  ∃ ys ms ds, text.toList = ys ++ '-' :: (ms ++ '-' :: ds) ∧ Digits 4 ys year ∧
    Digits 2 ms month ∧ Digits 2 ds day

/-- What a reader of dates does where a day is spelled: it finds that day, if it exists. -/
def Reads (read : String → Option Date) : Prop :=
  ∀ text year month day, Spelled text year month day →
    ∀ d, read text = some d ↔ d.year = year ∧ d.month = month ∧ d.day = day

/-! ## The shape of a date -/

theorem isShaped_iff :
    isShaped bs = true ↔ ∃ ys ms ds, bs = ys ++ hyphen :: (ms ++ hyphen :: ds) ∧
      (ys.length = 4 ∧ ms.length = 2 ∧ ds.length = 2) ∧
        ∀ b ∈ ys ++ (ms ++ ds), Text.isDigitByte b = true := by
  constructor
  · intro shaped
    simp only [isShaped, Bool.and_eq_true, beq_iff_eq] at shaped
    obtain ⟨⟨⟨count, fourth⟩, seventh⟩, others⟩ := shaped
    match bs, count with
    | [y₁, y₂, y₃, y₄, h₁, m₁, m₂, h₂, d₁, d₂], _ =>
        refine ⟨[y₁, y₂, y₃, y₄], [m₁, m₂], [d₁, d₂], ?_, ⟨rfl, rfl, rfl⟩, ?_⟩
        · simp_all
        · simpa using others
  · rintro ⟨ys, ms, ds, rfl, ⟨hy, hm, hd⟩, each⟩
    match ys, ms, ds, hy, hm, hd with
    | [y₁, y₂, y₃, y₄], [m₁, m₂], [d₁, d₂], _, _, _ =>
        simpa [isShaped] using each

theorem toUInt8_eq_hyphen (h : Text.IsAscii c) : c.toUInt8 = hyphen ↔ c = '-' := by
  rw [← UInt8.toNat_inj, Text.toNat_toUInt8 h, ← Char.toNat_inj]
  rfl

/-- Digits and hyphens are bytes below 128, so there is no character of several bytes. -/
theorem low_of_isShaped (shaped : isShaped bs = true) : ∀ b ∈ bs, b.toNat < 128 := by
  obtain ⟨ys, ms, ds, rfl, -, each⟩ := isShaped_iff.mp shaped
  have small {b : UInt8} (digit : Text.isDigitByte b = true) : b.toNat < 128 :=
    Nat.lt_of_le_of_lt (Text.isDigitByte_iff.mp digit).2 (by decide)
  have hyphen : hyphen.toNat < 128 := by decide
  simp only [List.forall_mem_append] at each
  simp only [List.forall_mem_append, List.forall_mem_cons]
  exact ⟨fun b hb => small (each.1 b hb), hyphen, fun b hb => small (each.2.1 b hb), hyphen,
    fun b hb => small (each.2.2 b hb)⟩

theorem exists_digits {width : Nat} (positive : 0 < width)
    (ascii : ∀ c ∈ cs, Text.IsAscii c) (count : (cs.map Char.toUInt8).length = width)
    (each : ∀ b ∈ cs.map Char.toUInt8, Text.isDigitByte b = true) : ∃ n, Digits width cs n := by
  rw [List.length_map] at count
  refine ⟨_, count, List.ne_nil_of_length_pos (count ▸ positive), fun c hc => ?_, rfl⟩
  exact (Text.isDigitByte_toUInt8 (ascii c hc)).mp (each _ (List.mem_map_of_mem hc))

theorem exists_spelled_of_isShaped (shaped : isShaped (Text.bytes text) = true) :
    ∃ year month day, Spelled text year month day := by
  have ascii : ∀ c ∈ text.toList, Text.IsAscii c :=
    fun c => Text.isAscii_of_bytes (low_of_isShaped shaped)
  obtain ⟨ys, ms, ds, split, ⟨hy, hm, hd⟩, each⟩ := isShaped_iff.mp shaped
  rw [Text.bytes_eq_map ascii] at split
  obtain ⟨Y, _, chars, rfl, afterYear⟩ := List.map_eq_append_iff.mp split
  obtain ⟨h₁, _, rfl, first, afterHyphen⟩ := List.map_eq_cons_iff.mp afterYear
  obtain ⟨M, _, rfl, rfl, afterMonth⟩ := List.map_eq_append_iff.mp afterHyphen
  obtain ⟨h₂, D, rfl, second, rfl⟩ := List.map_eq_cons_iff.mp afterMonth
  simp only [chars, List.forall_mem_append, List.forall_mem_cons] at ascii
  simp only [List.forall_mem_append] at each
  obtain ⟨asciiY, ascii₁, asciiM, ascii₂, asciiD⟩ := ascii
  obtain ⟨year, hY⟩ := exists_digits (by decide) asciiY hy each.1
  obtain ⟨month, hM⟩ := exists_digits (by decide) asciiM hm each.2.1
  obtain ⟨day, hD⟩ := exists_digits (by decide) asciiD hd each.2.2
  rw [(toUInt8_eq_hyphen ascii₁).mp first, (toUInt8_eq_hyphen ascii₂).mp second] at chars
  exact ⟨year, month, day, Y, M, D, chars, hY, hM, hD⟩

theorem Spelled.isAscii (h : Spelled text year month day) : ∀ c ∈ text.toList, Text.IsAscii c := by
  obtain ⟨ys, ms, ds, spelled, hy, hm, hd⟩ := h
  have hyphen : Text.IsAscii '-' := by decide
  rw [spelled]
  simp only [List.forall_mem_append, List.forall_mem_cons]
  exact ⟨fun c hc => Text.isAscii_of_isDigit (hy.2.2.1 c hc), hyphen,
    fun c hc => Text.isAscii_of_isDigit (hm.2.2.1 c hc), hyphen,
    fun c hc => Text.isAscii_of_isDigit (hd.2.2.1 c hc)⟩

theorem isDigitByte_of_digits {width n : Nat} (h : Digits width cs n) :
    ∀ b ∈ cs.map Char.toUInt8, Text.isDigitByte b = true := by
  rw [List.forall_mem_map]
  intro c hc
  have digit := h.2.2.1 c hc
  exact (Text.isDigitByte_toUInt8 (Text.isAscii_of_isDigit digit)).mpr digit

theorem Spelled.isShaped (h : Spelled text year month day) :
    isShaped (Text.bytes text) = true := by
  rw [Text.bytes_eq_map h.isAscii]
  obtain ⟨ys, ms, ds, spelled, hy, hm, hd⟩ := h
  rw [spelled, isShaped_iff]
  refine ⟨ys.map Char.toUInt8, ms.map Char.toUInt8, ds.map Char.toUInt8, ?_, ?_, ?_⟩
  · rw [List.map_append, List.map_cons, List.map_append, List.map_cons]
    rfl
  · simp [hy.1, hm.1, hd.1]
  · simp only [List.forall_mem_append]
    exact ⟨isDigitByte_of_digits hy, isDigitByte_of_digits hm, isDigitByte_of_digits hd⟩

/-- The bytes of a text have the shape of a date exactly if its characters spell a day. -/
theorem isShaped_bytes_iff :
    isShaped (Text.bytes text) = true ↔ ∃ year month day, Spelled text year month day :=
  ⟨exists_spelled_of_isShaped, fun ⟨_, _, _, h⟩ => h.isShaped⟩

/-! ## Reading and writing -/

theorem daysIn_le (year month : Nat) : daysIn year month ≤ 31 := by
  unfold daysIn
  split
  · split <;> decide
  · split
    · decide
    · split <;> decide

theorem month_le_of_exists (h : Exists year month day) : month ≤ 12 := by
  by_contra large
  have other : month ≠ 2 ∧ month ∉ [4, 6, 9, 11] ∧ month ∉ [1, 3, 5, 7, 8, 10, 12] := by
    simp only [List.mem_cons, List.not_mem_nil, or_false]
    omega
  have none : daysIn year month = 0 := by
    simp only [daysIn, other, ↓reduceIte]
  have first := h.2.1
  have last := h.2.2
  omega

theorem spelled_text (d : Date) : Spelled d.text d.year d.month d.day := by
  have hm := month_le_of_exists d.valid
  have hd := Nat.le_trans d.valid.2.2 (daysIn_le d.year d.month)
  refine ⟨_, _, _, ?_, Text.digits_padded_of_lt (by decide) (Nat.lt_succ_of_le d.valid.1),
    Text.digits_padded_of_lt (by decide) (Nat.lt_of_le_of_lt hm (by decide)),
    Text.digits_padded_of_lt (by decide) (Nat.lt_of_le_of_lt hd (by decide))⟩
  simp [text]

theorem Spelled.text_eq (h : Spelled s year month day) (h' : Spelled t year month day) : s = t := by
  obtain ⟨ys, ms, ds, spelled, hy, hm, hd⟩ := h
  obtain ⟨ys', ms', ds', spelled', hy', hm', hd'⟩ := h'
  rw [← String.toList_inj, spelled, spelled', (hy.eq_iff hy').mpr rfl, (hm.eq_iff hm').mpr rfl,
    (hd.eq_iff hd').mpr rfl]

/-- Texts that spell days stand in the order of year, month and day. -/
theorem Spelled.lt_iff (h : Spelled s year month day) (h' : Spelled t year' month' day') :
    s < t ↔ year < year' ∨ year = year' ∧ (month < month' ∨ month = month' ∧ day < day') := by
  obtain ⟨ys, ms, ds, spelled, hy, hm, hd⟩ := h
  obtain ⟨ys', ms', ds', spelled', hy', hm', hd'⟩ := h'
  rw [String.lt_iff, spelled, spelled', Text.append_lt_append (hy.1.trans hy'.1.symm),
    hy.lt_iff hy', hy.eq_iff hy', List.cons_lt_cons_iff,
    Text.append_lt_append (hm.1.trans hm'.1.symm), hm.lt_iff hm', hm.eq_iff hm',
    List.cons_lt_cons_iff, hd.lt_iff hd']
  simp

theorem le_iff :
    a ≤ b ↔ ¬ (b.year < a.year ∨
      b.year = a.year ∧ (b.month < a.month ∨ b.month = a.month ∧ b.day < a.day)) := by
  have ha := month_le_of_exists a.valid
  have hb := month_le_of_exists b.valid
  have ha' := Nat.le_trans a.valid.2.2 (daysIn_le a.year a.month)
  have hb' := Nat.le_trans b.valid.2.2 (daysIn_le b.year b.month)
  change a.ordinal ≤ b.ordinal ↔ _
  unfold ordinal
  omega

theorem parseWith_eq_ok (reads : Reads read) :
    parseWith read text = .ok d ↔ Spelled text d.year d.month d.day := by
  have found : parseWith read text = .ok d ↔
      isShaped (Text.bytes text) = true ∧ read text = some d := by
    unfold parseWith
    by_cases shaped : isShaped (Text.bytes text) = true
    · simp only [shaped, ↓reduceIte, true_and]
      cases read text <;> simp
    · simp [shaped]
  rw [found, isShaped_bytes_iff]
  constructor
  · rintro ⟨⟨year, month, day, h⟩, answer⟩
    obtain ⟨rfl, rfl, rfl⟩ := (reads text year month day h d).mp answer
    exact h
  · intro h
    exact ⟨⟨_, _, _, h⟩, (reads text _ _ _ h d).mpr ⟨rfl, rfl, rfl⟩⟩

theorem parseWith_eq_error {e : Error} :
    parseWith read text = .error e ↔ e = .date text ∧ ∀ d, parseWith read text ≠ .ok d := by
  unfold parseWith
  split
  · simp
  · simp [eq_comm]

/-- With any reader that finds the existing days where a day is spelled, a text is a date exactly if
it spells an existing day, and every other text is refused as it stands. A date that is read from a
text is written as that text and as no other, and dates stand in the order of their texts. -/
theorem parseWith_exact (reads : Reads read) :
    (∀ text d, parseWith read text = .ok d ↔ Spelled text d.year d.month d.day) ∧
      (∀ text d, parseWith read text = .ok d ↔ d.text = text) ∧
      (∀ text e, parseWith read text = .error e ↔ e = .date text ∧
        ∀ year month day, Spelled text year month day → ¬ Exists year month day) ∧
      ∀ s t a b, parseWith read s = .ok a → parseWith read t = .ok b →
        (a = b ↔ s = t) ∧ (a ≤ b ↔ s ≤ t) := by
  refine ⟨fun text d => parseWith_eq_ok reads, fun text d => ?_, fun text e => ?_, ?_⟩
  · rw [parseWith_eq_ok reads]
    constructor
    · intro h
      exact (spelled_text d).text_eq h
    · rintro rfl
      exact spelled_text d
  · rw [parseWith_eq_error]
    refine and_congr_right fun _ => ?_
    constructor
    · intro refused year month day h valid
      exact refused ⟨year, month, day, valid⟩ ((parseWith_eq_ok reads).mpr h)
    · intro none d found
      exact none _ _ _ ((parseWith_eq_ok reads).mp found) d.valid
  · intro s t a b readS readT
    have hs := (parseWith_eq_ok reads).mp readS
    have ht := (parseWith_eq_ok reads).mp readT
    constructor
    · constructor
      · rintro rfl
        exact hs.text_eq ht
      · rintro rfl
        exact Except.ok.inj (readS.symm.trans readT)
    · rw [le_iff, ← String.not_lt, ht.lt_iff hs]

/-! ## A reader of dates -/

theorem ofChars?_of_spelled (h : Spelled text year month day) :
    ofChars? text.toList =
      if valid : Exists year month day then some ⟨year, month, day, valid⟩ else none := by
  obtain ⟨ys, ms, ds, spelled, hy, hm, hd⟩ := h
  rw [spelled]
  match ys, ms, ds, hy.1, hm.1, hd.1, hy.2, hm.2, hd.2 with
  | [y₁, y₂, y₃, y₄], [m₁, m₂], [d₁, d₂], _, _, _, hy, hm, hd =>
      simp [ofChars?, Text.digits?_eq_some.mpr hy, Text.digits?_eq_some.mpr hm,
        Text.digits?_eq_some.mpr hd]

theorem reads_ofChars? : Reads fun text => ofChars? text.toList := by
  intro text year month day h d
  simp only [ofChars?_of_spelled h]
  constructor
  · intro found
    split at found
    · cases found
      exact ⟨rfl, rfl, rfl⟩
    · cases found
  · rintro ⟨rfl, rfl, rfl⟩
    rw [dif_pos d.valid]

/-- The last day of February 2024. -/
def leapDay : Date :=
  ⟨2024, 2, 29, by decide⟩

theorem leapDay_read :
    Reads (fun text => ofChars? text.toList) ∧ parse "2024-02-29" = .ok leapDay ∧
      leapDay.text = "2024-02-29" ∧ parse "2023-02-29" = .error (.date "2023-02-29") := by
  obtain ⟨-, exact', -, -⟩ := parseWith_exact reads_ofChars?
  have written : leapDay.text = "2024-02-29" := rfl
  exact ⟨reads_ofChars?, (exact' _ _).mpr written, written, rfl⟩

end Tourney.Date
