import CompiledRules.Text.Basic

/-!
# Quoted text

The one written form of a text inside a unit. It holds no control character, so it stays on one line.
-/

namespace CompiledRules.Text

/-- A character as it stands between quotes. -/
def escaped (c : Char) : Text :=
  match c with
  | '"' => ['\\', '"']
  | '\\' => ['\\', '\\']
  | '\n' => ['\\', 'n']
  | '\r' => ['\\', 'r']
  | '\t' => ['\\', 't']
  | c => if isControl c then numberedEscape c else [c]

/-- The text between double quotes, with backslashes, double quotes and control characters escaped. -/
def quoted (text : Text) : Text := '"' :: text.flatMap escaped ++ ['"']

end CompiledRules.Text
