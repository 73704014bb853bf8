/-!
# Binary64 numbers

A finite binary64 number is a whole number of units of `2^-1074`, the distance between neighbours next to
zero. Rounding, order and text are therefore exact arithmetic on natural numbers.
-/

namespace CompiledRules

namespace Double

/-- The binary exponent of one unit, negated. -/
def unitExponent : Nat := 1074

/-- The binary logarithm, in units, of the least magnitude that is too large. -/
def limitExponent : Nat := 2098

/-- How many low bits of a magnitude do not fit a significand of 53 bits. -/
def spareBits (units : Nat) : Nat := units.log2 - 52

/-- A magnitude is a binary64 number if 53 bits hold it and it is not too large. -/
def Representable (units : Nat) : Prop := units % Nat.pow 2 (spareBits units) = 0 ∧ units < Nat.pow 2 limitExponent

instance (units : Nat) : Decidable (Representable units) :=
  inferInstanceAs (Decidable (_ ∧ _))

theorem representable_zero : Representable 0 := by decide +kernel

end Double

/-- A binary64 number. The two zeros differ; there is one value that is not a number. -/
inductive Double where
  | nan
  | infinite (negative : Bool)
  | finite (negative : Bool) (units : Nat) (representable : Double.Representable units)
deriving DecidableEq

namespace Double

/-- The zero of the given sign. -/
def zero (negative : Bool) : Double := .finite negative 0 representable_zero

/-- Neither infinite nor the value that is not a number. -/
def isFinite : Double → Bool
  | .finite _ _ _ => true
  | _ => false

/-- The quotient rounded to the nearest natural number, a half going to the even neighbour. -/
def roundQuotient (num den : Nat) : Nat :=
  let low := num / den
  let twice := 2 * (num % den)
  if twice < den then low
  else if den < twice then low + 1
  else if low % 2 = 0 then low else low + 1

/-- The multiple of the significand's step that is nearest to `num / den` units. -/
def nearestUnits (num den : Nat) : Nat :=
  let step := Nat.pow 2 (spareBits (num / den))
  roundQuotient num (den * step) * step

/-- The number nearest to `num / den` units, of the given sign. -/
def ofQuotient (negative : Bool) (num den : Nat) : Double :=
  if h : Representable (nearestUnits num den) then .finite negative (nearestUnits num den) h
  else .infinite negative

/-- The number nearest to an integer. -/
def ofInt (n : Int) : Double := ofQuotient (n < 0) (n.natAbs * Nat.pow 2 unitExponent) 1

/-- A magnitude with its sign. -/
def signed (negative : Bool) (magnitude : Nat) : Int := if negative then -(magnitude : Int) else magnitude

/-- The signed magnitude in units, an infinity counting as the first magnitude that is too large. -/
def signedUnits : Double → Int
  | .nan => 0
  | .infinite negative => signed negative (Nat.pow 2 limitExponent)
  | .finite negative units _ => signed negative units

/-- The order of numbers. The two zeros are equal; what is not a number has no order. -/
def compare? (a b : Double) : Option Ordering :=
  if a = .nan ∨ b = .nan then none else some (compare a.signedUnits b.signedUnits)

/-- Equality as numbers: the two zeros are equal, and what is not a number differs from itself. -/
def sameNumber (a b : Double) : Bool := a.compare? b == some .eq

end Double

end CompiledRules
