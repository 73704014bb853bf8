import CompiledRules.Proofs.Double.Literal
import CompiledRules.Proofs.Parser.Reading
import Mathlib

/-!
# Reading numbers

A numeral is read back from its text where what follows does not go on with it. Integers of 64 bits and finite
floats are read back from their literals.
-/

namespace CompiledRules.Parser

open Double (Numeral)

/-- The point and the digits after it. -/
def fraction : Parser Text := do
  char '.'
  digits

/-- A text that does not go on with a numeral. -/
structure EndsNumeral (s : Text) : Prop where
  digit : Ends Char.isDigit s
  fraction : Refuses fraction s
  exponent : Refuses exponent s

theorem EndsNumeral.of_ends {s : Text} (h : Ends (fun c => c.isDigit || c == '.' || c == 'e' || c == 'E') s) :
    EndsNumeral s where
  digit := h.mono (by simp +contextual)
  fraction := (char_refuses (h.mono (by simp +contextual))).bind _
  exponent := (charWhere_refuses (h.mono (by simp +contextual [or_imp]))).bind _

theorem digits_append {ds r : Text} (hd : Text.IsDigits ds) (hr : Ends Char.isDigit r) :
    digits (ds ++ r) = .ok (ds, r) :=
  runSome_append hd.1 hd.2 hr

theorem digits_refuses {s : Text} (h : Ends Char.isDigit s) : Refuses digits s := runSome_refuses h

theorem IsDigits.ends {ds : Text} (hd : Text.IsDigits ds) {accepts : Char → Bool}
    (ha : ∀ c, c.isDigit = true → accepts c = false) (r : Text) : Ends accepts (ds ++ r) := by
  cases ds with
  | nil => exact absurd rfl hd.1
  | cons c ds => exact .cons (ha c (hd.2 c List.mem_cons_self)) _

theorem signed_natAbs (n : Int) : Double.signed (n < 0) n.natAbs = n := by
  simp only [Double.signed, decide_eq_true_eq]
  split <;> omega

theorem exponent_append (n : Int) {r : Text} (hr : Ends Char.isDigit r) :
    exponent ('e' :: (Text.signedDecimal n ++ r)) = .ok (n, r) := by
  have hds := Text.isDigits_decimal n.natAbs
  rw [exponent, bind_ok (charWhere_self (by decide) _)]
  by_cases hn : n < 0
  · have hvalue := signed_natAbs n
    simp only [Text.signedDecimal, hn, ↓reduceIte, List.cons_append] at hvalue ⊢
    rw [bind_ok (optional_ok (charWhere_self (by decide) _)), bind_ok (digits_append hds hr), pure_apply,
      Text.decimalValue_decimal]
    simpa using hvalue
  · have hvalue := signed_natAbs n
    simp only [Text.signedDecimal, hn, ↓reduceIte] at hvalue ⊢
    have hsign : Ends (fun c => decide (c = '+') || decide (c = '-')) (Text.decimal n.natAbs ++ r) := by
      refine IsDigits.ends hds (fun c hc => ?_) r
      simp only [Bool.or_eq_false_iff, decide_eq_false_iff_not]
      exact ⟨by rintro rfl; simp at hc, by rintro rfl; simp at hc⟩
    rw [bind_ok (charWhere_refuses hsign).optional, bind_ok (digits_append hds hr), pure_apply,
      Text.decimalValue_decimal]
    simpa using hvalue

/-- A numeral is read back from its text. -/
theorem numeral_append {numeral : Numeral} (h : numeral.WellFormed) {r : Text} (hr : EndsNumeral r) :
    Parser.numeral (numeral.text ++ r) = .ok (numeral, r) := by
  obtain ⟨negative, whole, part, power⟩ := numeral
  obtain ⟨hwhole, hpart⟩ := h
  simp only at hwhole hpart
  -- The exponent comes last, so the digits before it end.
  have hpower : optional exponent (Numeral.exponentText power ++ r) = .ok (power, r) ∧
      Ends Char.isDigit (Numeral.exponentText power ++ r) ∧
      (part = none → Refuses fraction (Numeral.exponentText power ++ r)) := by
    cases power with
    | none => exact ⟨hr.exponent.optional, hr.digit, fun _ => hr.fraction⟩
    | some n =>
        refine ⟨optional_ok (exponent_append n hr.digit), .cons (by decide) _, fun _ => ?_⟩
        exact (char_refuses (.cons (by decide) _)).bind _
  obtain ⟨hexp, hdigit, hfrac⟩ := hpower
  have hfraction : optional fraction (Numeral.fractionText part ++ (Numeral.exponentText power ++ r)) =
        .ok (part, Numeral.exponentText power ++ r) ∧
      Ends Char.isDigit (Numeral.fractionText part ++ (Numeral.exponentText power ++ r)) := by
    cases part with
    | none => exact ⟨(hfrac rfl).optional, hdigit⟩
    | some ds =>
        refine ⟨optional_ok ?_, .cons (by decide) _⟩
        rw [fraction, Numeral.fractionText, List.cons_append, bind_ok (char_self _ _),
          digits_append (hpart ds rfl) hdigit]
  obtain ⟨hfrac', hdigit'⟩ := hfraction
  have hsign : optional (char '-') (Double.signedText negative (whole ++
        (Numeral.fractionText part ++ Numeral.exponentText power)) ++ r) =
      .ok (if negative then some () else none,
        whole ++ (Numeral.fractionText part ++ (Numeral.exponentText power ++ r))) := by
    cases negative with
    | true =>
        simp only [Double.signedText, ↓reduceIte, List.cons_append, List.append_assoc]
        exact optional_ok (char_self _ _)
    | false =>
        simp only [Double.signedText, Bool.false_eq_true, ↓reduceIte, List.append_assoc]
        refine (char_refuses (IsDigits.ends hwhole (fun c hc => ?_) _)).optional
        simp only [decide_eq_false_iff_not]
        rintro rfl
        simp at hc
  have hfrac'' : optional (do char '.'; digits) (Numeral.fractionText part ++ (Numeral.exponentText power ++ r)) =
      .ok (part, Numeral.exponentText power ++ r) := hfrac'
  rw [Parser.numeral, Numeral.text, bind_ok hsign, bind_ok (digits_append hwhole hdigit'), bind_ok hfrac'',
    bind_ok hexp, pure_apply]
  cases negative <;> rfl

/-- A numeral starts with a digit or a minus sign. -/
theorem numeral_starts {numeral : Numeral} (h : numeral.WellFormed) {accepts : Char → Bool}
    (hdigit : ∀ c, c.isDigit = true → accepts c = false) (hminus : accepts '-' = false) (r : Text) :
    Ends accepts (numeral.text ++ r) := by
  obtain ⟨negative, whole, part, power⟩ := numeral
  cases negative with
  | true => exact .cons hminus _
  | false =>
      simp only [Numeral.text, Double.signedText, Bool.false_eq_true, ↓reduceIte, List.append_assoc]
      exact IsDigits.ends h.1 hdigit _

theorem number_refuses {s : Text} (h : Ends (fun c => c.isDigit || c == '-') s) : Refuses number s := by
  have hsign : optional (char '-') s = .ok (none, s) := (char_refuses (h.mono (by simp +contextual))).optional
  have hdigits : Refuses digits s := digits_refuses (h.mono (by simp +contextual))
  exact .bind (.bind_ok hsign (hdigits.bind _)) _

/-- The numeral of an integer. -/
theorem exists_numeral_int (n : Int) : ∃ numeral : Numeral, numeral.WellFormed ∧ numeral.isFractional = false ∧
    numeral.text = Text.signedDecimal n ∧ numeral.toInt = n := by
  refine ⟨⟨n < 0, Text.decimal n.natAbs, none, none⟩, ⟨Text.isDigits_decimal _, by simp⟩, rfl, ?_, ?_⟩
  · simp [Numeral.text, Double.signedText, Text.signedDecimal, Numeral.fractionText, Numeral.exponentText]
  · rw [Numeral.toInt, Text.decimalValue_decimal, signed_natAbs]

/-- An integer of 64 bits is read back from its digits. -/
theorem number_int (n : Int64) {r : Text} (hr : EndsNumeral r) :
    number (Text.signedDecimal n.toInt ++ r) = .ok (.int n, r) := by
  obtain ⟨numeral, hwf, hwhole, htext, hvalue⟩ := exists_numeral_int n.toInt
  have hlow := n.le_toInt
  have hhigh := n.toInt_lt
  rw [number, ← htext, bind_ok (numeral_append hwf hr), hvalue, if_neg (by simp [hwhole]),
    if_pos ⟨by omega, by omega⟩, pure_apply, Int64.ofInt_toInt]

/-- A finite float is read back from its literal. -/
theorem number_float {x : Double} (hx : x.isFinite = true) {r : Text} (hr : EndsNumeral r) :
    number (x.literalText ++ r) = .ok (.float x, r) := by
  obtain ⟨numeral, hwf, hfractional, htext, hvalue⟩ := Double.exists_numeral hx
  rw [number, ← htext, bind_ok (numeral_append hwf hr), if_pos hfractional, pure_apply, hvalue]

end CompiledRules.Parser
