import CompiledRules.Double.Decimal
import Mathlib

/-!
# Rounding of quotients and decimals

The number nearest to a quotient depends on the value of the quotient only, so a decimal may be written with any
number of zeros at its end. The shortest decimal of a magnitude reads back to it.
-/

namespace CompiledRules.Double

/-! ## Quotients -/

theorem roundQuotient_scale (num den : Nat) {k : Nat} (hk : 0 < k) :
    roundQuotient (num * k) (den * k) = roundQuotient num den := by
  have hdiv : num * k / (den * k) = num / den := Nat.mul_div_mul_right _ _ hk
  have hmod : num * k % (den * k) = num % den * k := Nat.mul_mod_mul_right _ _ _
  have hlt : 2 * (num % den * k) < den * k ↔ 2 * (num % den) < den := by
    rw [← Nat.mul_assoc]
    exact Nat.mul_lt_mul_right hk
  have hgt : den * k < 2 * (num % den * k) ↔ den < 2 * (num % den) := by
    rw [← Nat.mul_assoc]
    exact Nat.mul_lt_mul_right hk
  simp only [roundQuotient, hdiv, hmod, hlt, hgt]

theorem nearestUnits_scale (num den : Nat) {k : Nat} (hk : 0 < k) :
    nearestUnits (num * k) (den * k) = nearestUnits num den := by
  have hdiv : num * k / (den * k) = num / den := Nat.mul_div_mul_right _ _ hk
  simp only [nearestUnits, hdiv]
  rw [Nat.mul_right_comm den k, roundQuotient_scale _ _ hk]

/-- Equal quotients round alike. -/
theorem nearestUnits_congr {num den num' den' : Nat} (h : num * den' = num' * den) (hd : 0 < den) (hd' : 0 < den') :
    nearestUnits num den = nearestUnits num' den' := by
  calc nearestUnits num den = nearestUnits (num * den') (den * den') := (nearestUnits_scale _ _ hd').symm
    _ = nearestUnits (num' * den) (den' * den) := by rw [h, Nat.mul_comm den]
    _ = nearestUnits num' den' := nearestUnits_scale _ _ hd

theorem ofQuotient_congr (negative : Bool) {num den num' den' : Nat} (h : num * den' = num' * den) (hd : 0 < den)
    (hd' : 0 < den') : ofQuotient negative num den = ofQuotient negative num' den' := by
  simp only [ofQuotient, nearestUnits_congr h hd hd']

theorem nearestUnits_eq_zero {num den : Nat} (h : 2 * num < den) : nearestUnits num den = 0 := by
  have hlt : num < den := by omega
  have hs : spareBits 0 = 0 := rfl
  simp only [nearestUnits, Nat.div_eq_of_lt hlt, hs, Nat.pow_eq, Nat.pow_zero, Nat.mul_one, roundQuotient,
    Nat.mod_eq_of_lt hlt, h, ↓reduceIte]

/-- Half of a magnitude at least is left when it is rounded. -/
theorem le_nearestUnits (num : Nat) : num ≤ 2 * nearestUnits num 1 := by
  have hstep : ∀ low step : Nat, 0 < step → step ≤ num → low = num / step → num ≤ 2 * (low * step) := by
    intro low step hpos hle hlow
    have hone : 1 ≤ num / step := (Nat.one_le_div_iff hpos).mpr hle
    have := Nat.div_add_mod num step
    have := Nat.mod_lt num hpos
    subst hlow
    nlinarith
  by_cases hzero : num = 0
  · simp [hzero]
  have hle : 2 ^ spareBits num ≤ num := by
    calc 2 ^ spareBits num ≤ 2 ^ num.log2 := Nat.pow_le_pow_right (by decide) (Nat.sub_le _ _)
      _ ≤ num := Nat.log2_self_le hzero
  have hround : num / 2 ^ spareBits num ≤ roundQuotient num (2 ^ spareBits num) := by
    simp only [roundQuotient]
    split <;> [rfl; skip]
    split <;> [omega; skip]
    split <;> omega
  simp only [nearestUnits, Nat.div_one, Nat.one_mul, Nat.pow_eq]
  calc num ≤ 2 * (num / 2 ^ spareBits num * 2 ^ spareBits num) := hstep _ _ (by positivity) hle rfl
    _ ≤ 2 * (roundQuotient num (2 ^ spareBits num) * 2 ^ spareBits num) := by gcongr

theorem ofQuotient_infinite (negative : Bool) {num : Nat} (h : 2 * 2 ^ limitExponent ≤ num) :
    ofQuotient negative num 1 = .infinite negative := by
  have hle := le_nearestUnits num
  have hbig : ¬ Representable (nearestUnits num 1) := by
    rintro ⟨-, hlt⟩
    rw [Nat.pow_eq] at hlt
    omega
  simp only [ofQuotient, hbig, ↓reduceDIte]

/-- A magnitude that is a number is the nearest one. -/
theorem nearestUnits_self {units : Nat} (h : Representable units) : nearestUnits units 1 = units := by
  have hmod := h.1
  rw [Nat.pow_eq] at hmod
  simp only [nearestUnits, Nat.div_one, Nat.one_mul, roundQuotient, Nat.pow_eq, hmod]
  rw [if_pos (by positivity), Nat.div_mul_cancel (Nat.dvd_of_mod_eq_zero hmod)]

theorem ofQuotient_eq (negative : Bool) {num den units : Nat} (h : Representable units)
    (hn : nearestUnits num den = units) : ofQuotient negative num den = .finite negative units h := by
  subst hn
  simp only [ofQuotient, h, ↓reduceDIte]

/-! ## Decimals -/

theorem two_pow_le_ten_pow {a b : Nat} (h : a ≤ 3 * b) : 2 ^ a ≤ 10 ^ b := by
  calc 2 ^ a ≤ 2 ^ (3 * b) := Nat.pow_le_pow_right (by decide) h
    _ = 8 ^ b := by rw [Nat.pow_mul]
    _ ≤ 10 ^ b := Nat.pow_le_pow_left (by decide) b

theorem large_decimal {digits exponent : Nat} (hd : digits ≠ 0) (he : 400 < exponent) :
    2 * 2 ^ limitExponent ≤ digits * 10 ^ exponent * 2 ^ unitExponent := by
  have hpow : 2 ^ (limitExponent + 1 - unitExponent) ≤ 10 ^ exponent :=
    two_pow_le_ten_pow (by simp only [limitExponent, unitExponent]; omega)
  have hsum : limitExponent + 1 - unitExponent + unitExponent = limitExponent + 1 := rfl
  calc 2 * 2 ^ limitExponent = 1 * 2 ^ (limitExponent + 1 - unitExponent) * 2 ^ unitExponent := by
        rw [Nat.one_mul, ← Nat.pow_add, hsum, Nat.pow_succ']
    _ ≤ digits * 10 ^ exponent * 2 ^ unitExponent := by
        gcongr
        omega

theorem small_decimal {digits places : Nat} (h : digits.log2 + 400 < places) :
    2 * (digits * 2 ^ unitExponent) < 10 ^ places := by
  have hlog : digits < 2 ^ (digits.log2 + 1) := Nat.lt_log2_self
  calc 2 * (digits * 2 ^ unitExponent) < 2 * (2 ^ (digits.log2 + 1) * 2 ^ unitExponent) := by gcongr
    _ = 2 ^ (digits.log2 + 1 + unitExponent + 1) := by rw [← Nat.pow_add, ← Nat.pow_succ']
    _ ≤ 10 ^ places := two_pow_le_ten_pow (by simp only [unitExponent]; omega)

/-- The decimal as a quotient of whole numbers of units: the early answers are those of rounding. -/
theorem ofDecimal_eq (negative : Bool) (digits : Nat) (exponent : Int) :
    ofDecimal negative digits exponent =
      ofQuotient negative (digits * 10 ^ exponent.toNat * 2 ^ unitExponent) (10 ^ (-exponent).toNat) := by
  unfold ofDecimal
  split
  · rename_i hd
    rw [ofQuotient_eq negative representable_zero (nearestUnits_eq_zero ?_)]
    · rfl
    · rw [hd, Nat.zero_mul, Nat.zero_mul]
      positivity
  · rename_i hd
    split
    · rename_i he
      have hneg : (-exponent).toNat = 0 := by omega
      rw [hneg, Nat.pow_zero, ofQuotient_infinite negative (large_decimal hd (by omega))]
    · split
      · rename_i he
        have hpos : exponent.toNat = 0 := by omega
        rw [hpos, Nat.pow_zero, Nat.mul_one, ofQuotient_eq negative representable_zero (nearestUnits_eq_zero ?_)]
        · rfl
        · exact small_decimal (by omega)
      · cases exponent with
        | ofNat e => simp [Nat.pow_eq]
        | negSucc e => simp [Nat.pow_eq, Int.neg_negSucc]

/-- Zeros at the end of the digits are as good as a greater exponent. -/
theorem ofDecimal_scale (negative : Bool) (digits k : Nat) (exponent : Int) :
    ofDecimal negative (digits * 10 ^ k) exponent = ofDecimal negative digits (exponent + k) := by
  have hsum : k + exponent.toNat + (-(exponent + k)).toNat = (exponent + k).toNat + (-exponent).toNat := by omega
  rw [ofDecimal_eq, ofDecimal_eq]
  refine ofQuotient_congr negative ?_ (by positivity) (by positivity)
  calc digits * 10 ^ k * 10 ^ exponent.toNat * 2 ^ unitExponent * 10 ^ (-(exponent + k)).toNat
      = digits * 10 ^ (k + exponent.toNat + (-(exponent + k)).toNat) * 2 ^ unitExponent := by
        rw [Nat.pow_add, Nat.pow_add]; ring
    _ = digits * 10 ^ (exponent + k).toNat * 2 ^ unitExponent * 10 ^ (-exponent).toNat := by
        rw [hsum, Nat.pow_add]; ring

/-- A decimal denotes a magnitude if its number has that magnitude, whatever its sign. -/
def Denotes (digits : Nat) (exponent : Int) (units : Nat) : Prop :=
  ∀ (negative : Bool) (h : Representable units), ofDecimal negative digits exponent = .finite negative units h

theorem denotes_scale {digits k units : Nat} {exponent : Int} :
    Denotes (digits * 10 ^ k) exponent units ↔ Denotes digits (exponent + k) units := by
  simp only [Denotes, ofDecimal_scale]

theorem denotes_of_readsBack {units digits : Nat} {exponent : Int} (h : readsBack units digits exponent = true) :
    Denotes digits exponent units := by
  intro negative hu
  simp only [readsBack] at h
  split at h
  · rename_i read hr heq
    simp only [beq_iff_eq] at h
    subst h
    rw [ofDecimal_eq] at heq ⊢
    simp only [ofQuotient] at heq
    split at heq
    · cases heq
      exact ofQuotient_eq negative hu rfl
    · cases heq
  · cases h

theorem readsBack_of_firstReadBack {units tries digits : Nat} {start exponent : Int}
    (h : firstReadBack units tries start = some (digits, exponent)) : readsBack units digits exponent = true := by
  induction tries generalizing start with
  | zero => cases h
  | succ tries ih =>
      simp only [firstReadBack] at h
      split at h
      · cases h; assumption
      · cases h; assumption
      · simp only [Option.some.injEq, Prod.mk.injEq] at h
        obtain ⟨hd, rfl⟩ := h
        split at hd <;> (subst hd; assumption)
      · exact ih h

/-- The exact decimal of a magnitude. -/
theorem denotes_exact (units : Nat) : Denotes (units * Nat.pow 5 unitExponent) (-(unitExponent : Int)) units := by
  intro negative hu
  have hneg : (-(unitExponent : Int)).toNat = 0 := by omega
  have hpos : (- -(unitExponent : Int)).toNat = unitExponent := by omega
  have hten : (10 : Nat) ^ unitExponent = 5 ^ unitExponent * 2 ^ unitExponent := by rw [← Nat.mul_pow]
  have hquotient : units * Nat.pow 5 unitExponent * 10 ^ 0 * 2 ^ unitExponent * 1 = units * 10 ^ unitExponent := by
    rw [Nat.pow_eq, hten]
    ring
  rw [ofDecimal_eq, hneg, hpos, ofQuotient_congr negative hquotient (by positivity) Nat.one_pos]
  exact ofQuotient_eq negative hu (nearestUnits_self hu)

/-- The shortest decimal reads back. -/
theorem denotes_shortest (units : Nat) : Denotes (shortest units).1 (shortest units).2 units := by
  rw [shortest]
  cases h : firstReadBack units 17 (leadingExponent units) with
  | none => exact denotes_exact units
  | some found => exact denotes_of_readsBack (readsBack_of_firstReadBack h)

theorem Denotes.ne_zero {digits units : Nat} {exponent : Int} (h : Denotes digits exponent units)
    (hr : Representable units) (hu : units ≠ 0) : digits ≠ 0 := by
  rintro rfl
  have := h false hr
  simp only [ofDecimal, ↓reduceIte, zero, Double.finite.injEq] at this
  exact hu this.2.symm

end CompiledRules.Double
