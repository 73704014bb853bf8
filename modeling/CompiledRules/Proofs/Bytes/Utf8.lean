import CompiledRules.Bytes.Utf8
import Mathlib

/-!
# Bytes that are read back

A number is read back from its bytes, and a text from its UTF-8 encoding.
-/

namespace CompiledRules

namespace Bytes

/-- What does not fit into the bytes is lost. -/
theorem ofLittleEndian_littleEndian_mod (count n : Nat) : ofLittleEndian (littleEndian count n) = n % 256 ^ count := by
  induction count generalizing n with
  | zero =>
      rw [Nat.pow_zero, Nat.mod_one]
      rfl
  | succ count ih =>
      have hbyte : n.toUInt8.toNat = n % 256 := UInt8.toNat_ofNat'
      rw [littleEndian, ofLittleEndian, ih, hbyte, Nat.pow_succ', Nat.mod_mul]

theorem ofLittleEndian_littleEndian {count n : Nat} (h : n < 256 ^ count) :
    ofLittleEndian (littleEndian count n) = n := by
  rw [ofLittleEndian_littleEndian_mod, Nat.mod_eq_of_lt h]

/-- The bytes are those of the number that they are read as. -/
theorem littleEndian_ofLittleEndian (bytes : Bytes) : littleEndian bytes.length (ofLittleEndian bytes) = bytes := by
  induction bytes with
  | nil => rfl
  | cons byte bytes ih =>
      have hlt : byte.toNat < 256 := byte.toNat_lt
      have hlow : (byte.toNat + 256 * ofLittleEndian bytes).toUInt8 = byte := by
        apply UInt8.toNat_inj.mp
        rw [show ((byte.toNat + 256 * ofLittleEndian bytes).toUInt8).toNat =
          (byte.toNat + 256 * ofLittleEndian bytes) % 256 from UInt8.toNat_ofNat']
        omega
      have hhigh : (byte.toNat + 256 * ofLittleEndian bytes) / 256 = ofLittleEndian bytes := by omega
      rw [List.length_cons, ofLittleEndian, littleEndian, hlow, hhigh, ih]

end Bytes

namespace Utf8

variable {b0 b1 b2 b3 : UInt8} {rest : Bytes} {text : Text} {offset : Nat}

theorem isContinuation_iff {b : UInt8} : isContinuation b = true ↔ 0x80 ≤ b.toNat ∧ b.toNat ≤ 0xBF := by
  simp [isContinuation, UInt8.le_iff_toNat_le]

theorem mayFollow_of_toNat (h : isContinuation b1 = true) (hE0 : b0.toNat = 0xE0 → 0xA0 ≤ b1.toNat)
    (hED : b0.toNat = 0xED → b1.toNat ≤ 0x9F) (hF0 : b0.toNat = 0xF0 → 0x90 ≤ b1.toNat)
    (hF4 : b0.toNat = 0xF4 → b1.toNat ≤ 0x8F) : mayFollow b0 b1 = true := by
  have hb := isContinuation_iff.mp h
  unfold mayFollow
  split
  · rename_i hb0
    have := hE0 (by rw [hb0]; rfl)
    simp [UInt8.le_iff_toNat_le]
    omega
  · split
    · rename_i hb0
      have := hED (by rw [hb0]; rfl)
      simp [UInt8.le_iff_toNat_le]
      omega
    · split
      · rename_i hb0
        have := hF0 (by rw [hb0]; rfl)
        simp [UInt8.le_iff_toNat_le]
        omega
      · split
        · rename_i hb0
          have := hF4 (by rw [hb0]; rfl)
          simp [UInt8.le_iff_toNat_le]
          omega
        · exact h

/-! ## Characters of one to four bytes -/

theorem decodeFrom_one (h0 : b0.toNat < 0x80) (h : decodeFrom (offset + 1) rest = .ok text) :
    decodeFrom offset (b0 :: rest) = .ok (charOf b0.toNat [] :: text) := by
  have hb0 : b0 < 0x80 := UInt8.lt_iff_toNat_lt.mpr h0
  rw [decodeFrom.eq_def]
  simp only [hb0, h, ↓reduceIte]
  rfl

theorem decodeFrom_two (h0 : 0xC2 ≤ b0.toNat ∧ b0.toNat ≤ 0xDF) (h1 : isContinuation b1 = true)
    (h : decodeFrom (offset + 2) rest = .ok text) :
    decodeFrom offset (b0 :: b1 :: rest) = .ok (charOf (b0.toNat % 32) [b1] :: text) := by
  have hsmall : ¬ b0 < 0x80 := by simp [UInt8.lt_iff_toNat_lt]; omega
  have hlead : (0xC2 ≤ b0 && b0 ≤ 0xDF) = true := by simp [UInt8.le_iff_toNat_le]; omega
  rw [decodeFrom.eq_def]
  simp only [hsmall, hlead, h1, h, ↓reduceIte]
  rfl

theorem decodeFrom_three (h0 : 0xE0 ≤ b0.toNat ∧ b0.toNat ≤ 0xEF) (h1 : mayFollow b0 b1 = true)
    (h2 : isContinuation b2 = true) (h : decodeFrom (offset + 3) rest = .ok text) :
    decodeFrom offset (b0 :: b1 :: b2 :: rest) = .ok (charOf (b0.toNat % 16) [b1, b2] :: text) := by
  have hsmall : ¬ b0 < 0x80 := by simp [UInt8.lt_iff_toNat_lt]; omega
  have htwo : ¬ (0xC2 ≤ b0 && b0 ≤ 0xDF) = true := by simp [UInt8.le_iff_toNat_le]; omega
  have hlead : (0xE0 ≤ b0 && b0 ≤ 0xEF) = true := by simp [UInt8.le_iff_toNat_le]; omega
  rw [decodeFrom.eq_def]
  simp only [hsmall, htwo, hlead, h1, h2, h, Bool.not_true, Bool.false_eq_true, ↓reduceIte]
  rfl

theorem decodeFrom_four (h0 : 0xF0 ≤ b0.toNat ∧ b0.toNat ≤ 0xF4) (h1 : mayFollow b0 b1 = true)
    (h2 : isContinuation b2 = true) (h3 : isContinuation b3 = true) (h : decodeFrom (offset + 4) rest = .ok text) :
    decodeFrom offset (b0 :: b1 :: b2 :: b3 :: rest) = .ok (charOf (b0.toNat % 8) [b1, b2, b3] :: text) := by
  have hsmall : ¬ b0 < 0x80 := by simp [UInt8.lt_iff_toNat_lt]; omega
  have htwo : ¬ (0xC2 ≤ b0 && b0 ≤ 0xDF) = true := by simp [UInt8.le_iff_toNat_le]; omega
  have hthree : ¬ (0xE0 ≤ b0 && b0 ≤ 0xEF) = true := by simp [UInt8.le_iff_toNat_le]; omega
  have hlead : (0xF0 ≤ b0 && b0 ≤ 0xF4) = true := by simp [UInt8.le_iff_toNat_le]; omega
  rw [decodeFrom.eq_def]
  simp only [hsmall, htwo, hthree, hlead, h1, h2, h3, h, Bool.not_true, Bool.false_eq_true, ↓reduceIte]
  rfl

/-! ## All texts -/

theorem toNat_ofNat {n : Nat} (h : n < 256) : (UInt8.ofNat n).toNat = n := by
  rw [UInt8.toNat_ofNat', Nat.mod_eq_of_lt (by omega)]

theorem isContinuation_ofNat {n : Nat} (h : n < 64) : isContinuation (UInt8.ofNat (n + 128)) = true := by
  rw [isContinuation_iff, toNat_ofNat (by omega)]
  omega

theorem charOf_eq {c : Char} {leading : Nat} {continuation : List UInt8}
    (h : continuation.foldl (fun n byte => 64 * n + byte.toNat % 64) leading = c.toNat) :
    charOf leading continuation = c := by
  rw [charOf, h, Char.ofNat_toNat]

theorem decodeFrom_utf8EncodeChar (c : Char) (h : ∀ offset, decodeFrom offset rest = .ok text) (offset : Nat) :
    decodeFrom offset (String.utf8EncodeChar c ++ rest) = .ok (c :: text) := by
  have hvalid : c.toNat < 0xD800 ∨ 0xDFFF < c.toNat ∧ c.toNat < 0x110000 := c.valid
  have hchar : c.val.toNat = c.toNat := rfl
  simp only [String.utf8EncodeChar, hchar]
  generalize hn : c.toNat = n at hvalid ⊢
  have hlow : isContinuation (UInt8.ofNat (n % 64 + 128)) = true := isContinuation_ofNat (by omega)
  have hmiddle : isContinuation (UInt8.ofNat (n / 64 % 64 + 128)) = true := isContinuation_ofNat (by omega)
  have hhigh : isContinuation (UInt8.ofNat (n / 4096 % 64 + 128)) = true := isContinuation_ofNat (by omega)
  have hlow' := toNat_ofNat (n := n % 64 + 128) (by omega)
  have hmiddle' := toNat_ofNat (n := n / 64 % 64 + 128) (by omega)
  have hhigh' := toNat_ofNat (n := n / 4096 % 64 + 128) (by omega)
  split
  · have h0 := toNat_ofNat (n := n) (by omega)
    refine (decodeFrom_one (by omega) (h _)).trans ?_
    rw [charOf_eq (c := c) (by simp only [List.foldl_nil]; omega)]
  · split
    · have h0 := toNat_ofNat (n := n / 64 % 32 + 192) (by omega)
      refine (decodeFrom_two (by omega) hlow (h _)).trans ?_
      rw [charOf_eq (c := c) (by simp only [List.foldl_cons, List.foldl_nil]; omega)]
    · split
      · have h0 := toNat_ofNat (n := n / 4096 % 16 + 224) (by omega)
        have hfollow : mayFollow (UInt8.ofNat (n / 4096 % 16 + 224)) (UInt8.ofNat (n / 64 % 64 + 128)) = true :=
          mayFollow_of_toNat hmiddle (by omega) (by omega) (by omega) (by omega)
        refine (decodeFrom_three (by omega) hfollow hlow (h _)).trans ?_
        rw [charOf_eq (c := c) (by simp only [List.foldl_cons, List.foldl_nil]; omega)]
      · have h0 := toNat_ofNat (n := n / 262144 % 8 + 240) (by omega)
        have hfollow : mayFollow (UInt8.ofNat (n / 262144 % 8 + 240)) (UInt8.ofNat (n / 4096 % 64 + 128)) = true :=
          mayFollow_of_toNat hhigh (by omega) (by omega) (by omega) (by omega)
        refine (decodeFrom_four (by omega) hfollow hmiddle hlow (h _)).trans ?_
        rw [charOf_eq (c := c) (by simp only [List.foldl_cons, List.foldl_nil]; omega)]

/-- A text is read back from its encoding. -/
theorem decode_ofText (text : Text) : decode (Bytes.ofText text) = .ok text := by
  have hfrom : ∀ offset, decodeFrom offset (Bytes.ofText text) = .ok text := by
    induction text with
    | nil => exact fun _ => rfl
    | cons c text ih =>
        unfold Bytes.ofText at ih ⊢
        rw [List.flatMap_cons]
        exact decodeFrom_utf8EncodeChar c ih
  exact hfrom 0

end Utf8

end CompiledRules
