import CompiledRules.Double.Basic
import CompiledRules.Text.Basic

/-!
# Decimals and binary64 numbers

Reading rounds a decimal to the nearest number. The shortest decimal of a number has the fewest digits that
read back to it.
-/

namespace CompiledRules.Double

/-- The number nearest to `digits · 10^exponent`. Exponents far outside the range are settled without computing
the power. -/
def ofDecimal (negative : Bool) (digits : Nat) (exponent : Int) : Double :=
  if digits = 0 then zero negative
  else if 400 < exponent then .infinite negative
  else if exponent + digits.log2 + 400 < 0 then zero negative
  else
    match exponent with
    | .ofNat e => ofQuotient negative (digits * Nat.pow 10 e * Nat.pow 2 unitExponent) 1
    | .negSucc e => ofQuotient negative (digits * Nat.pow 2 unitExponent) (Nat.pow 10 (e + 1))

/-- How many whole steps of `10^exponent` a magnitude holds. -/
def decimalSteps (units : Nat) (exponent : Int) : Nat :=
  match exponent with
  | .ofNat e => units / (Nat.pow 2 unitExponent * Nat.pow 10 e)
  | .negSucc e => units * Nat.pow 10 (e + 1) / Nat.pow 2 unitExponent

/-- The exponent of the first digit of a magnitude other than zero. -/
def leadingExponent (units : Nat) : Int :=
  let guess : Int := ((units.log2 : Int) - unitExponent) * 30103 / 100000
  if decimalSteps units (guess + 1) ≠ 0 then guess + 1
  else if decimalSteps units guess ≠ 0 then guess
  else guess - 1

/-- Whether a decimal reads back to the given magnitude. -/
def readsBack (units digits : Nat) (exponent : Int) : Bool :=
  match ofDecimal false digits exponent with
  | .finite _ read _ => read == units
  | _ => false

/-- The first grid, from `10^exponent` downwards, on which a neighbour of the magnitude reads back to it. Of two
neighbours the nearer is taken, and the upper one if they are equally near. -/
def firstReadBack (units : Nat) : Nat → Int → Option (Nat × Int)
  | 0, _ => none
  | tries + 1, exponent =>
      let low := decimalSteps units exponent
      match readsBack units low exponent, readsBack units (low + 1) exponent with
      | true, false => some (low, exponent)
      | false, true => some (low + 1, exponent)
      | true, true =>
          some (if decimalSteps (2 * units) exponent ≤ 2 * low then low else low + 1, exponent)
      | false, false => firstReadBack units tries (exponent - 1)

/-- The shortest decimal that reads back to a magnitude other than zero, as digits and exponent. Seventeen digits
always suffice; the exact decimal stands in where they would not. -/
def shortest (units : Nat) : Nat × Int :=
  (firstReadBack units 17 (leadingExponent units)).getD (units * Nat.pow 5 unitExponent, -(unitExponent : Int))

/-- A numeral as written: sign, digits before and after the point, exponent. -/
structure Numeral where
  negative : Bool
  whole : Text
  fraction : Option Text
  exponent : Option Int

namespace Numeral

/-- Whether the numeral is written as a fraction or with an exponent. -/
def isFractional (numeral : Numeral) : Bool := numeral.fraction.isSome || numeral.exponent.isSome

/-- The number nearest to the numeral. -/
def toDouble (numeral : Numeral) : Double :=
  let fraction := numeral.fraction.getD []
  ofDecimal numeral.negative (Text.decimalValue (numeral.whole ++ fraction))
    (numeral.exponent.getD 0 - fraction.length)

/-- The integer that the digits before the point denote. -/
def toInt (numeral : Numeral) : Int :=
  signed numeral.negative (Text.decimalValue numeral.whole)

end Numeral

end CompiledRules.Double
