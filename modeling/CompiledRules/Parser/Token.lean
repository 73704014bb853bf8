import CompiledRules.Double.Decimal
import CompiledRules.Parser.Basic
import CompiledRules.Value.Basic

/-!
# Tokens

Blanks, words, quoted text, numbers and literal values, as rules and units write them.
-/

namespace CompiledRules.Parser

/-- Skips blanks. -/
def blanks : Parser Unit := do
  let _ ← run Text.isBlank

/-- A word: an ASCII letter or underscore, then letters, digits and underscores. -/
def word : Parser Text := do
  let first ← charWhere Text.isWordStart
  let others ← run Text.isWordChar
  return first :: others

/-- A whole word that spells the keyword, in either case. -/
def keyword (spelling : String) : Parser Unit := fun s =>
  match word s with
  | .ok (found, rest) => if found.map Char.toLower = spelling.toList then .ok ((), rest) else fail s
  | .error failure => .error failure

/-- The character with the given number in braces, after a backslash and `u`. -/
def numberedEscape : Parser Text := do
  let digits ← commit do
    char '\x7b'
    let digits ← runUpTo 6 Text.isHexDigit
    char '\x7d'
    return digits
  let n := Text.hexValue digits
  if n.isValidChar then return [Char.ofNat n] else abort

/-- What follows a backslash. An unknown escape stands for itself. -/
def escape : Parser Text := do
  match ← commit anyChar with
  | 'n' => return ['\n']
  | 't' => return ['\t']
  | 'r' => return ['\r']
  | '\\' => return ['\\']
  | '"' => return ['"']
  | '\'' => return ['\'']
  | 'u' => numberedEscape
  | c => return ['\\', c]

/-- One character or escape in front of the closing quote. -/
def quotedPiece (quote : Char) : Parser Text := do
  let c ← expecting "closing quote" (commit anyChar)
  if c = quote then fail
  else if c = '\\' then escape
  else return [c]

/-- Quoted text between two equal quotes, double or single. -/
def quotedText : Parser Text := do
  let quote ← charWhere fun c => c = '"' || c = '\''
  let pieces ← many (quotedPiece quote)
  char quote
  return pieces.flatten

/-- At least one decimal digit. -/
def digits : Parser Text := runSome Char.isDigit

/-- The exponent of a numeral. -/
def exponent : Parser Int := do
  let _ ← charWhere fun c => c = 'e' || c = 'E'
  let sign ← optional (charWhere fun c => c = '+' || c = '-')
  let magnitude ← digits
  return Double.signed (sign = some '-') (Text.decimalValue magnitude)

/-- A numeral with optional sign, fraction and exponent. -/
def numeral : Parser Double.Numeral := do
  let sign ← optional (char '-')
  let whole ← digits
  let fraction ← optional do
    char '.'
    digits
  let exponent ← optional exponent
  return ⟨sign.isSome, whole, fraction, exponent⟩

/-- A number. Without fraction and exponent it is an integer, and must be one of 64 bits. -/
def number : Parser Value := do
  let numeral ← numeral
  if numeral.isFractional then return .float numeral.toDouble
  else if -0x8000000000000000 ≤ numeral.toInt ∧ numeral.toInt < 0x8000000000000000 then return .int (Int64.ofInt numeral.toInt)
  else abort

/-- A list in brackets, given how its items are read. -/
def listOf (item : Parser Value) : Parser (List Value) := do
  char '['
  blanks
  let items ← separated item do
    blanks
    char ','
    blanks
  blanks
  commit (char ']')
  return items

/-- A literal value, given how the items of a list are read. -/
def valueLayer (item : Parser Value) : Parser Value := do
  blanks
  expecting "value" <|
    (do return .string (String.ofList (← quotedText)))
    <|> number
    <|> (do return .list (← listOf item))
    <|> (do keyword "true"; return .bool true)
    <|> (do keyword "false"; return .bool false)
    <|> (do keyword "null"; return .null)

/-- A literal value. -/
def value : Parser Value := recursive valueLayer

end CompiledRules.Parser

namespace CompiledRules.Double

/-- The number that a text denotes: a numeral, an infinity, or what is not a number. -/
def ofText? (text : String) : Option Double :=
  match text with
  | "NaN" => some .nan
  | "inf" => some (.infinite false)
  | "-inf" => some (.infinite true)
  | text =>
      match Parser.complete Parser.numeral text.toList with
      | .ok numeral => some numeral.toDouble
      | .error _ => none

end CompiledRules.Double
