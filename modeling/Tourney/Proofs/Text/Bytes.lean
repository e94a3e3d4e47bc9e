import Tourney.Text.Bytes

/-!
# Bytes of texts

A text whose bytes are all below 128 consists of characters below 128, and then it has one byte for
each character (`bytes_eq_map`). So a rule about the bytes of such a text is one about its
characters.
-/

namespace Tourney.Text

variable {text : String} {cs : List Char} {c : Char}

theorem bytes_eq_flatMap (text : String) : bytes text = text.toList.flatMap String.utf8EncodeChar := by
  rw [bytes, ← String.utf8Encode_toList, List.utf8Encode, List.toList_data_toByteArray]

/-- A character of one byte, the byte of its number. -/
def IsAscii (c : Char) : Prop :=
  c.toNat < 128

instance (c : Char) : Decidable (IsAscii c) :=
  inferInstanceAs (Decidable (_ < _))

theorem utf8EncodeChar_of_ascii (h : IsAscii c) : String.utf8EncodeChar c = [c.toUInt8] := by
  have small : c.val.toNat ≤ 127 := Nat.le_of_lt_succ h
  unfold String.utf8EncodeChar
  simp only [small, ↓reduceIte]
  rfl

/-- Every other character has a byte from 128 up. -/
theorem exists_high_byte (h : ¬ IsAscii c) : ∃ b ∈ String.utf8EncodeChar c, 128 ≤ b.toNat := by
  have large : ¬ c.val.toNat ≤ 127 := fun small => h (Nat.lt_succ_of_le small)
  unfold String.utf8EncodeChar
  simp only [large, ↓reduceIte]
  split
  · refine ⟨_, List.mem_cons_self, ?_⟩
    rw [UInt8.toNat_ofNat']
    omega
  · split
    · refine ⟨_, List.mem_cons_self, ?_⟩
      rw [UInt8.toNat_ofNat']
      omega
    · refine ⟨_, List.mem_cons_self, ?_⟩
      rw [UInt8.toNat_ofNat']
      omega

theorem isAscii_of_bytes (low : ∀ b ∈ bytes text, b.toNat < 128) (mem : c ∈ text.toList) :
    IsAscii c := by
  refine Classical.byContradiction fun high => ?_
  obtain ⟨b, hb, large⟩ := exists_high_byte high
  have := low b (bytes_eq_flatMap text ▸ List.mem_flatMap.mpr ⟨c, mem, hb⟩)
  omega

theorem bytes_eq_map (ascii : ∀ c ∈ text.toList, IsAscii c) :
    bytes text = text.toList.map Char.toUInt8 := by
  rw [bytes_eq_flatMap]
  generalize text.toList = cs at ascii
  induction cs with
  | nil => rfl
  | cons c cs ih =>
      obtain ⟨first, rest⟩ := List.forall_mem_cons.mp ascii
      rw [List.flatMap_cons, utf8EncodeChar_of_ascii first, ih rest]
      rfl

theorem utf8ByteSize_of_ascii (ascii : ∀ c ∈ text.toList, IsAscii c) :
    text.utf8ByteSize = text.toList.length := by
  have size : text.utf8ByteSize = (bytes text).length := rfl
  rw [size, bytes_eq_map ascii, List.length_map]

theorem byteCount_of_ascii (ascii : ∀ c ∈ cs, IsAscii c) : byteCount cs = cs.length := by
  rw [byteCount, utf8ByteSize_of_ascii (by simpa using ascii), String.toList_ofList]

theorem toNat_toUInt8 (h : IsAscii c) : c.toUInt8.toNat = c.toNat := by
  have : c.toUInt8.toNat = c.toNat % 256 := rfl
  unfold IsAscii at h
  omega

theorem isAscii_of_isDigit (h : c.isDigit = true) : IsAscii c := by
  simp only [Char.isDigit, Bool.and_eq_true, decide_eq_true_eq] at h
  have high : c.toNat ≤ 57 := h.2
  unfold IsAscii
  omega

theorem isDigitByte_iff {b : UInt8} : isDigitByte b = true ↔ 48 ≤ b.toNat ∧ b.toNat ≤ 57 := by
  simp only [isDigitByte, Bool.and_eq_true, decide_eq_true_eq]
  rfl

theorem isDigitByte_toUInt8 (h : IsAscii c) : isDigitByte c.toUInt8 = true ↔ c.isDigit = true := by
  rw [isDigitByte_iff, toNat_toUInt8 h]
  simp only [Char.isDigit, Bool.and_eq_true, decide_eq_true_eq]
  rfl

end Tourney.Text
