import CompiledRules.Double.Text
import CompiledRules.Proofs.Double.Rounding
import Mathlib

/-!
# Literals of binary64 numbers

The literal of a finite number is a numeral with a fraction or an exponent, and the numeral denotes the number.
-/

namespace CompiledRules

/-! ## Runs of digits -/

namespace Text

/-- At least one decimal digit, and nothing else. -/
def IsDigits (text : Text) : Prop := text ≠ [] ∧ ∀ c ∈ text, c.isDigit = true

theorem decimalValue_append (a b : Text) :
    decimalValue (a ++ b) = decimalValue a * 10 ^ b.length + decimalValue b := by
  rw [decimalValue, Nat.ofDigitChars_append, Nat.ofDigitChars_eq_ofDigitChars_zero, Nat.mul_comm]
  rfl

theorem decimalValue_zeros (k : Nat) : decimalValue (List.replicate k '0') = 0 := by
  rw [decimalValue, Nat.ofDigitChars_replicate_zero, Nat.mul_zero]

theorem decimalValue_decimal (n : Nat) : decimalValue (decimal n) = n := Nat.ofDigitChars_ten_toDigits

theorem isDigits_decimal (n : Nat) : IsDigits (decimal n) :=
  ⟨Nat.toDigits_ne_nil, fun _ hc => Nat.isDigit_of_mem_toDigits (by decide) (by decide) hc⟩

theorem IsDigits.append {a b : Text} (ha : IsDigits a) (hb : ∀ c ∈ b, c.isDigit = true) : IsDigits (a ++ b) := by
  refine ⟨by simp [ha.1], fun c hc => ?_⟩
  rcases List.mem_append.mp hc with h | h
  · exact ha.2 c h
  · exact hb c h

theorem isDigit_zeros {k : Nat} : ∀ c ∈ List.replicate k '0', c.isDigit = true := by
  intro c hc
  rw [(List.mem_replicate.mp hc).2]
  rfl

end Text

namespace Double

/-! ## Digits around the point -/

theorem exists_zeros (text : Text) :
    ∃ k, text = (text.reverse.dropWhile (· == '0')).reverse ++ List.replicate k '0' := by
  refine ⟨(text.reverse.takeWhile (· == '0')).length, ?_⟩
  have hzeros : (text.reverse.takeWhile (· == '0')).reverse =
      List.replicate (text.reverse.takeWhile (· == '0')).length '0' := by
    rw [List.eq_replicate_iff]
    refine ⟨List.length_reverse, fun c hc => ?_⟩
    simpa using List.mem_takeWhile_imp (List.mem_reverse.mp hc)
  rw [← hzeros, ← List.reverse_append, List.takeWhile_append_dropWhile, List.reverse_reverse]

theorem significant_spec {units : Nat} (hr : Representable units) (hu : units ≠ 0) :
    Text.IsDigits (significant units).1 ∧
      Denotes (Text.decimalValue (significant units).1) ((significant units).2 - (significant units).1.length)
        units := by
  have hs := denotes_shortest units
  have hne := hs.ne_zero hr hu
  obtain ⟨k, hk⟩ := exists_zeros (Text.decimal (shortest units).1)
  simp only [significant]
  generalize hkept : ((Text.decimal (shortest units).1).reverse.dropWhile (· == '0')).reverse = kept at hk ⊢
  have hvalue : (shortest units).1 = Text.decimalValue kept * 10 ^ k := by
    rw [← Text.decimalValue_decimal (shortest units).1, hk, Text.decimalValue_append, Text.decimalValue_zeros,
      List.length_replicate, Nat.add_zero]
  refine ⟨⟨?_, fun c hc => ?_⟩, ?_⟩
  · rintro rfl
    rw [hvalue] at hne
    exact hne (by simp [Text.decimalValue])
  · refine (Text.isDigits_decimal (shortest units).1).2 c ?_
    rw [hk]
    exact List.mem_append_left _ hc
  · rw [hvalue, denotes_scale] at hs
    have hexp : ((Text.decimal (shortest units).1).length : Int) + (shortest units).2 - kept.length =
        (shortest units).2 + k := by
      rw [hk, List.length_append, List.length_replicate]
      push_cast
      ring
    rw [hexp]
    exact hs

theorem isDigit_aroundPoint {digits : Text} (h : Text.IsDigits digits) (point : Int) :
    Text.IsDigits (aroundPoint digits point).1 ∧ ∀ c ∈ (aroundPoint digits point).2, c.isDigit = true := by
  simp only [aroundPoint]
  split
  · refine ⟨⟨by simp, by simp⟩, fun c hc => ?_⟩
    rcases List.mem_append.mp hc with hc | hc
    · exact Text.isDigit_zeros c hc
    · exact h.2 c hc
  · rename_i hpoint
    refine ⟨?_, fun c hc => h.2 c (List.mem_of_mem_drop hc)⟩
    refine .append ⟨?_, fun c hc => h.2 c (List.mem_of_mem_take hc)⟩ Text.isDigit_zeros
    have := h.1
    simp only [ne_eq, List.take_eq_nil_iff, not_or]
    exact ⟨by omega, this⟩

/-- Putting the point among the digits does not change the number. -/
theorem denotes_aroundPoint {digits : Text} {units : Nat} (point shift : Int)
    (h : Denotes (Text.decimalValue digits) (shift + point - digits.length) units) :
    Denotes (Text.decimalValue ((aroundPoint digits point).1 ++ (aroundPoint digits point).2))
      (shift - (aroundPoint digits point).2.length) units := by
  simp only [aroundPoint]
  split
  · rename_i hpoint
    have hvalue : Text.decimalValue (['0'] ++ (List.replicate (-point).toNat '0' ++ digits)) =
        Text.decimalValue digits := by
      rw [← List.append_assoc, show ['0'] = List.replicate 1 '0' from rfl, List.replicate_append_replicate,
        Text.decimalValue_append, Text.decimalValue_zeros, Nat.zero_mul, Nat.zero_add]
    rw [hvalue]
    convert h using 1
    rw [List.length_append, List.length_replicate]
    omega
  · rename_i hpoint
    by_cases hle : digits.length ≤ point.toNat
    · rw [List.take_of_length_le hle, List.drop_of_length_le hle, List.append_nil, Text.decimalValue_append,
        Text.decimalValue_zeros, List.length_replicate, Nat.add_zero, denotes_scale]
      convert h using 1
      simp only [List.length_nil]
      omega
    · have hzero : point.toNat - digits.length = 0 := by omega
      rw [hzero, List.replicate_zero, List.append_nil, List.take_append_drop]
      convert h using 1
      rw [List.length_drop]
      omega

/-! ## Numerals -/

namespace Numeral

/-- The digits after the point. -/
def fractionText : Option Text → Text
  | none => []
  | some digits => '.' :: digits

/-- The exponent as it is written. -/
def exponentText : Option Int → Text
  | none => []
  | some exponent => 'e' :: Text.signedDecimal exponent

/-- The numeral as it is written. -/
def text (numeral : Numeral) : Text :=
  signedText numeral.negative (numeral.whole ++ (fractionText numeral.fraction ++ exponentText numeral.exponent))

/-- There are digits before the point, and after it if there is one. -/
structure WellFormed (numeral : Numeral) : Prop where
  whole : Text.IsDigits numeral.whole
  fraction : ∀ digits, numeral.fraction = some digits → Text.IsDigits digits

end Numeral

/-- A numeral with the given digits around the point denotes what the digits denote. -/
theorem toDouble_of_denotes {units : Nat} (hr : Representable units) {numeral : Numeral}
    (h : Denotes (Text.decimalValue (numeral.whole ++ numeral.fraction.getD []))
      (numeral.exponent.getD 0 - (numeral.fraction.getD []).length) units) :
    numeral.toDouble = .finite numeral.negative units hr :=
  h numeral.negative hr

/-- The magnitude is the text of a numeral that shows that it is a float and denotes the magnitude. -/
def WrittenAs (units : Nat) (text : Text) : Prop :=
  ∀ (hr : Representable units) (negative : Bool), ∃ numeral : Numeral,
    numeral.WellFormed ∧ numeral.isFractional = true ∧ numeral.text = signedText negative text ∧
      numeral.toDouble = .finite negative units hr

/-- The layout with the point in its place. -/
theorem writtenAs_positional {digits : Text} {point : Int} {units : Nat} (hd : Text.IsDigits digits)
    (h : Denotes (Text.decimalValue digits) (point - digits.length) units) :
    WrittenAs units (match aroundPoint digits point with
      | (whole, []) => whole ++ ".0".toList
      | (whole, fraction) => whole ++ '.' :: fraction) := by
  intro hr negative
  have hdigits := isDigit_aroundPoint hd point
  have hden := denotes_aroundPoint point 0 (by simpa using h)
  generalize aroundPoint digits point = around at hdigits hden ⊢
  obtain ⟨whole, fraction⟩ := around
  cases fraction with
  | nil =>
      refine ⟨⟨negative, whole, some ['0'], none⟩, ⟨hdigits.1, ?_⟩, rfl, ?_, toDouble_of_denotes hr ?_⟩
      · rintro _ ⟨⟩
        exact ⟨by simp, by simp⟩
      · simp [Numeral.text, Numeral.fractionText, Numeral.exponentText]
      · have hvalue : Text.decimalValue (whole ++ ['0']) = Text.decimalValue whole * 10 ^ 1 := by
          rw [show ['0'] = List.replicate 1 '0' from rfl, Text.decimalValue_append, Text.decimalValue_zeros,
            List.length_replicate, Nat.add_zero]
        simp only [Option.getD_some, Option.getD_none, hvalue, denotes_scale]
        simpa using hden
  | cons c fraction =>
      refine ⟨⟨negative, whole, some (c :: fraction), none⟩, ⟨hdigits.1, ?_⟩, rfl, ?_, toDouble_of_denotes hr ?_⟩
      · rintro _ ⟨⟩
        exact ⟨by simp, hdigits.2⟩
      · simp [Numeral.text, Numeral.fractionText, Numeral.exponentText]
      · simpa using hden

/-- The layout with an exponent. -/
theorem writtenAs_scientific {digits : Text} {point : Int} {units : Nat} (hd : Text.IsDigits digits)
    (h : Denotes (Text.decimalValue digits) (point - digits.length) units) :
    WrittenAs units (scientific digits point) := by
  intro hr negative
  have hdigits := isDigit_aroundPoint hd 1
  have hden := denotes_aroundPoint 1 (point - 1) (by simpa using h)
  simp only [scientific, positional]
  generalize aroundPoint digits 1 = around at hdigits hden ⊢
  obtain ⟨whole, fraction⟩ := around
  cases fraction with
  | nil =>
      refine ⟨⟨negative, whole, none, some (point - 1)⟩, ⟨hdigits.1, by simp⟩, rfl, ?_, toDouble_of_denotes hr ?_⟩
      · simp [Numeral.text, Numeral.fractionText, Numeral.exponentText]
      · simpa using hden
  | cons c fraction =>
      refine ⟨⟨negative, whole, some (c :: fraction), some (point - 1)⟩, ⟨hdigits.1, ?_⟩, rfl, ?_,
        toDouble_of_denotes hr ?_⟩
      · rintro _ ⟨⟩
        exact ⟨by simp, hdigits.2⟩
      · simp [Numeral.text, Numeral.fractionText, Numeral.exponentText]
      · simpa using hden

theorem writtenAs_literalMagnitude (units : Nat) : WrittenAs units (literalMagnitude units) := by
  intro hr negative
  by_cases hu : units = 0
  · subst hu
    refine ⟨⟨negative, ['0'], some ['0'], none⟩, ⟨⟨by simp, by simp⟩, ?_⟩, rfl, ?_, ?_⟩
    · rintro _ ⟨⟩
      exact ⟨by simp, by simp⟩
    · simp [Numeral.text, Numeral.fractionText, Numeral.exponentText, literalMagnitude]
    · rfl
  · obtain ⟨hd, hden⟩ := significant_spec hr hu
    simp only [literalMagnitude, hu, ↓reduceIte]
    split
    · exact writtenAs_positional hd hden hr negative
    · exact writtenAs_scientific hd hden hr negative

/-- The literal of a finite number is a numeral that denotes it. -/
theorem exists_numeral {x : Double} (h : x.isFinite = true) :
    ∃ numeral : Numeral, numeral.WellFormed ∧ numeral.isFractional = true ∧ numeral.text = x.literalText ∧
      numeral.toDouble = x := by
  cases x with
  | nan => cases h
  | infinite _ => cases h
  | finite negative units hr => exact writtenAs_literalMagnitude units hr negative

end Double

end CompiledRules
