/-!
# Text as a list of characters

Readers take text apart and printers put it together as a list of characters. This module holds the
character classes that both use.
-/

namespace CompiledRules

/-- Text that is being read or written. -/
abbrev Text := List Char

namespace Text

/-- The characters with the Unicode property White_Space. -/
def isBlank (c : Char) : Bool :=
  let n := c.toNat
  (9 ≤ n && n ≤ 13) || n == 0x20 || n == 0x85 || n == 0xA0 || n == 0x1680 || (0x2000 ≤ n && n ≤ 0x200A)
    || n == 0x2028 || n == 0x2029 || n == 0x202F || n == 0x205F || n == 0x3000

/-- The characters of the Unicode general category Cc. -/
def isControl (c : Char) : Bool :=
  let n := c.toNat
  n < 0x20 || (0x7F ≤ n && n < 0xA0)

/-- The characters a word may start with: the ASCII letters and the underscore. -/
def isWordStart (c : Char) : Bool := c.isAlpha || c == '_'

/-- The characters a word may go on with. -/
def isWordChar (c : Char) : Bool := isWordStart c || c.isDigit

/-- Whether the whole text is one word. -/
def isWord : Text → Bool
  | [] => false
  | c :: rest => isWordStart c && rest.all isWordChar

/-- The hexadecimal digits, of either case. -/
def isHexDigit (c : Char) : Bool :=
  c.isDigit || ('a' ≤ c && c ≤ 'f') || ('A' ≤ c && c ≤ 'F')

/-- The value of a hexadecimal digit. -/
def hexDigitValue (c : Char) : Nat :=
  if c.isDigit then c.toNat - '0'.toNat
  else if 'a' ≤ c then c.toNat - 'a'.toNat + 10
  else c.toNat - 'A'.toNat + 10

/-- The number that a run of hexadecimal digits denotes. -/
def hexValue (digits : Text) : Nat := digits.foldl (fun n c => 16 * n + hexDigitValue c) 0

/-- The number that a run of decimal digits denotes. -/
def decimalValue (digits : Text) : Nat := Nat.ofDigitChars 10 digits 0

/-- The decimal digits of a number. -/
def decimal (n : Nat) : Text := Nat.toDigits 10 n

/-- The decimal digits of an integer, after a minus sign if it is negative. -/
def signedDecimal (n : Int) : Text :=
  if n < 0 then '-' :: decimal n.natAbs else decimal n.natAbs

/-- The lower-case hexadecimal digits of a number. -/
def hexadecimal (n : Nat) : Text := Nat.toDigits 16 n

/-- The pieces with `, ` between neighbours. -/
def commaJoined : List Text → Text
  | [] => []
  | [piece] => piece
  | piece :: next :: rest => piece ++ ", ".toList ++ commaJoined (next :: rest)

/-- The escape of a character by its number: a backslash, `u` and the hexadecimal digits in braces. -/
def numberedEscape (c : Char) : Text :=
  ['\\', 'u', '\x7b'] ++ hexadecimal c.toNat ++ ['\x7d']

end Text

end CompiledRules
