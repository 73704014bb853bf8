import CompiledRules.Text.Basic
import CompiledRules.Text.Printable

/-!
# Text as a message shows it
-/

namespace CompiledRules.Text

/-- A character as a message shows it between double quotes. -/
def shown (c : Char) : Text :=
  match c with
  | '"' => ['\\', '"']
  | '\\' => ['\\', '\\']
  | '\n' => ['\\', 'n']
  | '\r' => ['\\', 'r']
  | '\t' => ['\\', 't']
  | c => if c.toNat = 0 then ['\\', '0'] else if isPrintable c then [c] else numberedEscape c

/-- The text between double quotes, with everything escaped that would not show. -/
def inspected (text : Text) : Text := '"' :: text.flatMap shown ++ ['"']

end CompiledRules.Text
