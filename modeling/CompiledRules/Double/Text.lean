import CompiledRules.Double.Decimal

/-!
# The text of a binary64 number

Both layouts write the shortest decimal. The positional layout never has an exponent; the literal layout
always shows that the number is a float.
-/

namespace CompiledRules.Double

/-- The significant digits of a magnitude, without zeros at the end, and the position of the point: the number is
`0.d₁d₂… · 10^point`. -/
def significant (units : Nat) : Text × Int :=
  let (digits, exponent) := shortest units
  let written := Text.decimal digits
  let kept := (written.reverse.dropWhile (· == '0')).reverse
  (kept, written.length + exponent)

/-- Digits before the point and digits after it, for digits that start at the position `point`. -/
def aroundPoint (digits : Text) (point : Int) : Text × Text :=
  if point ≤ 0 then (['0'], List.replicate (-point).toNat '0' ++ digits)
  else
    let whole := point.toNat
    (digits.take whole ++ List.replicate (whole - digits.length) '0', digits.drop whole)

/-- The digits with the point among them, and no point if nothing follows it. -/
def positional (digits : Text) (point : Int) : Text :=
  match aroundPoint digits point with
  | (whole, []) => whole
  | (whole, fraction) => whole ++ '.' :: fraction

/-- The digits with the point after the first, and the exponent. -/
def scientific (digits : Text) (point : Int) : Text :=
  positional digits 1 ++ 'e' :: Text.signedDecimal (point - 1)

/-- The literal layout is positional from `10^-4` up to below `10^16`, with a digit after the point. -/
def literalMagnitude (units : Nat) : Text :=
  if units = 0 then "0.0".toList
  else
    let (digits, point) := significant units
    if -4 < point ∧ point ≤ 16 then
      match aroundPoint digits point with
      | (whole, []) => whole ++ ".0".toList
      | (whole, fraction) => whole ++ '.' :: fraction
    else scientific digits point

/-- The positional layout of a magnitude. -/
def plainMagnitude (units : Nat) : Text :=
  if units = 0 then ['0'] else positional (significant units).1 (significant units).2

/-- A magnitude after the sign. -/
def signedText (negative : Bool) (magnitude : Text) : Text :=
  if negative then '-' :: magnitude else magnitude

/-- The number in the given layout of magnitudes. -/
def textWith (layout : Nat → Text) : Double → Text
  | .nan => "NaN".toList
  | .infinite negative => signedText negative "inf".toList
  | .finite negative units _ => signedText negative (layout units)

/-- The number as a literal. -/
def literalText (x : Double) : Text := textWith literalMagnitude x

/-- The number without an exponent. -/
def plainText (x : Double) : Text := textWith plainMagnitude x

end CompiledRules.Double
