import CompiledRules.Proofs.Parser.Aborts
import CompiledRules.Proofs.Value.Literal
import Mathlib

/-!
# Integers are read exactly or not at all

Digits that nothing goes on with are read as the integer that they denote, if it has 64 bits, and fail for good
otherwise. In a list, however deep, they fail with the whole list.
-/

namespace CompiledRules.Parser

open Double (Numeral)

variable {rest s u : Text}

/-! ## Where a numeral ends -/

/-- Whether a digit stands in front. -/
def startsDigit (s : Text) : Bool := s.head?.any Char.isDigit

/-- The text without a sign in front. -/
def unsigned : Text → Text
  | '+' :: s => s
  | '-' :: s => s
  | s => s

/-- Whether the text goes on with a numeral: with a digit, with a point and a digit, or with an exponent. -/
def continuesNumeral : Text → Bool
  | [] => false
  | c :: s => c.isDigit || (c == '.' && startsDigit s) || ((c == 'e' || c == 'E') && startsDigit (unsigned s))

theorem ends_of_startsDigit (h : startsDigit s = false) : Ends Char.isDigit s := by
  intro c hc
  simpa [startsDigit, hc] using h

theorem EndsNumeral.of_continuesNumeral (h : continuesNumeral s = false) : EndsNumeral s := by
  cases s with
  | nil => exact .of_ends (.nil _)
  | cons c s =>
      simp only [continuesNumeral, Bool.or_eq_false_iff, Bool.and_eq_false_imp, beq_iff_eq, Bool.or_eq_true] at h
      obtain ⟨⟨hdigit, hpoint⟩, hexponent⟩ := h
      refine ⟨.cons hdigit _, ?_, ?_⟩
      · by_cases hc : c = '.'
        · subst hc
          exact .bind_ok (char_self _ _) (digits_refuses (ends_of_startsDigit (hpoint rfl)))
        · exact (char_refuses (.cons (decide_eq_false hc) _)).bind _
      · by_cases hc : c = 'e' ∨ c = 'E'
        · have hs := ends_of_startsDigit (hexponent hc)
          refine .bind_ok (charWhere_self (by simpa using hc) _) ?_
          unfold unsigned at hs
          split at hs
          · exact .bind_ok (optional_ok (charWhere_self (by decide) _)) ((digits_refuses hs).bind _)
          · exact .bind_ok (optional_ok (charWhere_self (by decide) _)) ((digits_refuses hs).bind _)
          · rename_i hplus hminus
            have hsign : Ends (fun c => c = '+' || c = '-') s := by
              intro c hc
              cases s with
              | nil => cases hc
              | cons d s =>
                  cases hc
                  simp only [Bool.or_eq_false_iff, decide_eq_false_iff_not]
                  exact ⟨fun h => hplus s (h ▸ rfl), fun h => hminus s (h ▸ rfl)⟩
            exact .bind_ok (charWhere_refuses hsign).optional ((digits_refuses hs).bind _)
        · exact (charWhere_refuses (.cons (by simpa [not_or] using hc) _)).bind _

/-! ## Digits alone -/

/-- The integers of 64 bits. -/
def IsInt64 (n : Int) : Prop := -2 ^ 63 ≤ n ∧ n < 2 ^ 63

instance (n : Int) : Decidable (IsInt64 n) := instDecidableAnd

instance (ds : Text) : Decidable (Text.IsDigits ds) :=
  decidable_of_iff ((!ds.isEmpty && ds.all Char.isDigit) = true) (by simp [Text.IsDigits])

/-- Digits as a numeral, perhaps with a minus sign. -/
theorem exists_numeral_digits {ds : Text} (hd : Text.IsDigits ds) (negative : Bool) :
    ∃ numeral : Numeral, numeral.WellFormed ∧ numeral.isFractional = false ∧
      numeral.text = Double.signedText negative ds ∧
      numeral.toInt = Double.signed negative (Text.decimalValue ds) := by
  refine ⟨⟨negative, ds, none, none⟩, ⟨hd, by simp⟩, rfl, ?_, rfl⟩
  simp [Numeral.text, Numeral.fractionText, Numeral.exponentText]

theorem number_eq {numeral : Numeral} (hn : numeral.WellFormed) (hwhole : numeral.isFractional = false)
    (hr : EndsNumeral rest) : (IsInt64 numeral.toInt →
      number (numeral.text ++ rest) = .ok (.int (Int64.ofInt numeral.toInt), rest)) ∧
    (¬ IsInt64 numeral.toInt → Aborts rest number (numeral.text ++ rest)) := by
  have hnumeral := numeral_append hn hr
  constructor
  · rintro ⟨hlow, hhigh⟩
    rw [number, bind_ok hnumeral, if_neg (by simp [hwhole]), if_pos ⟨by omega, by omega⟩, pure_apply]
  · intro hrange
    refine .bind_ok hnumeral ?_
    rw [if_neg (by simp [hwhole]), if_neg fun h => hrange ⟨by omega, by omega⟩]
    exact ⟨_, rfl, rfl, rfl⟩

theorem toInt_ofInt {n : Int} (h : IsInt64 n) : (Int64.ofInt n).toInt = n :=
  Int64.toInt_ofInt_of_le h.1 h.2

/-! ## Numerals in lists -/

/-- The sign between two items of a list. -/
def itemComma : Parser Unit := do
  blanks
  char ','
  blanks

/-- A value that starts at `s` has `u` as a part, itself or in lists. -/
inductive PartAt (u : Text) : Text → Prop where
  | self {s : Text} : s.dropWhile Text.isBlank = u → PartAt u s
  | item {s r t : Text} : s.dropWhile Text.isBlank = '[' :: r →
      Passes value itemComma (r.dropWhile Text.isBlank) t → PartAt u t → PartAt u s

theorem item_consumes : Consumes (do itemComma; value) :=
  Tracks.consumes (t := []) fun _ => .taking (by omega) (.bind (.bind (.blanks .nil) fun _ =>
    .bind (.char (Ends.nil _)) fun _ => .blanks .nil) fun _ => .value .nil)

/-- What fails as a number for good starts like one. -/
theorem Aborts.startsNumeral (h : Aborts rest number s) : Ends (fun c => !(c.isDigit || c == '-')) s := by
  cases s with
  | nil => exact .nil _
  | cons c s =>
      refine .cons ?_ _
      rw [Bool.not_eq_false']
      by_contra hc
      exact h.not_refuses (number_refuses (.cons (by simpa using hc) _))

theorem value_aborts_number (h : Aborts rest number u) : Aborts rest value u := by
  have hstart : StartsValue u := h.startsNumeral.mono fun c hc => by
    simp only [startsValue, startsLiteral] at hc ⊢
    grind
  have hquote : Refuses quotedText u := quotedText_refuses (h.startsNumeral.mono fun c hc => by
    simp only [Bool.or_eq_true, decide_eq_true_eq] at hc
    rcases hc with rfl | rfl <;> rfl)
  rw [value_eq]
  exact .bind_ok (blanks_self (hstart.ends fun _ => isBlank_of_startsValue))
    (.expecting ((hquote.bind _).orElse_aborts (h.orElse _)) _)

theorem value_aborts_list (h : Aborts rest (listOf value) ('[' :: s)) : Aborts rest value ('[' :: s) := by
  have hquote : Refuses quotedText ('[' :: s) := quotedText_refuses (.cons (by decide) _)
  have hnumber : Refuses number ('[' :: s) := number_refuses (.cons (by decide) _)
  rw [value_eq]
  exact .bind_ok (blanks_self (.cons (by decide) _))
    (.expecting ((hquote.bind _).orElse_aborts (hnumber.orElse_aborts ((h.bind _).orElse _))) _)

/-- What fails as a value for good starts like one. -/
theorem Aborts.startsValue (h : Aborts rest value s) (hs : Ends Text.isBlank s) : StartsValue s := by
  intro c hc
  cases s with
  | nil => cases hc
  | cons d s =>
      cases hc
      rw [Bool.not_eq_false']
      by_contra hd
      exact h.not_refuses (value_refuses (hs c rfl) (by simpa using hd) s)

/-- A number that fails for good in a list, however deep, fails for good with the list. -/
theorem PartAt.aborts (hpart : PartAt u s) (h : Aborts rest number u) : Aborts rest value s := by
  induction hpart with
  | self hs =>
      refine value_skipsBlanks.aborts ?_
      rw [hs]
      exact value_aborts_number h
  | item hs hpasses _ ih =>
      refine value_skipsBlanks.aborts ?_
      rw [hs]
      refine value_aborts_list (.bind_ok (char_self _ _) (.bind_ok (blanks_apply _) ?_))
      exact (hpasses.separated_aborts item_consumes ih).bind _

end CompiledRules.Parser
