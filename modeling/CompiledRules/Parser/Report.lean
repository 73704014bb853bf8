import CompiledRules.Parser.Basic

/-!
# Reports of failed readings

A report points at the place where reading stopped and says what was expected there. A text of several
lines is shown by the line in question only.
-/

namespace CompiledRules.Failure

/-- The number of bytes a text takes in UTF-8. -/
def byteLength (text : Text) : Nat := text.foldr (fun c n => c.utf8Size + n) 0

/-- What was expected, and why the text was refused, on a line each. -/
def explanation (failure : Failure) : Text :=
  let expected :=
    match failure.expected with
    | [] => []
    | what => "expected ".toList ++ Text.commaJoined (what.map String.toList)
  match failure.refusal with
  | none => expected
  | some refusal =>
      match expected with
      | [] => refusal.message
      | expected => expected ++ '\n' :: refusal.message

/-- The last line of a text, without what stands before it. -/
def lastLine (text : Text) : Text := (text.reverse.takeWhile (· != '\n')).reverse

/-- A place in a text of several lines. -/
structure Place where
  /-- The line, counted from one. -/
  line : Nat
  /-- The number of columns before the place. -/
  column : Nat
  /-- The text of the line. -/
  content : Text

/-- The place after `before` and in front of `rest`. A newline belongs to the line it ends, and the end of the text to
the line of the last character. In front of a character of several bytes, columns count bytes. -/
def place (before rest : Text) : Place :=
  let content (start : Text) (following : Text) := start ++ following.takeWhile (· != '\n')
  match rest with
  | [] =>
      let inner := before.dropLast
      let start := lastLine inner
      ⟨inner.count '\n' + 1, start.length + 1, content start (before.drop inner.length)⟩
  | c :: _ =>
      let start := lastLine before
      ⟨before.count '\n' + 1, if c.utf8Size = 1 then start.length else byteLength start, content start rest⟩

/-- The report of a failure to read the given text. -/
def report (input : Text) (failure : Failure) : Text :=
  let before := input.take (input.length - failure.rest.length)
  let spaces (n : Nat) : Text := List.replicate n ' '
  if '\n' ∈ input then
    let place := place before failure.rest
    let number := Text.decimal place.line
    "parse error at line ".toList ++ number ++ ", column ".toList ++ Text.decimal (place.column + 1) ++ '\n' ::
      spaces number.length ++ " |\n".toList ++
      number ++ " | ".toList ++ place.content ++ '\n' ::
      spaces number.length ++ " | ".toList ++ spaces place.column ++ "^\n".toList ++ failure.explanation
  else
    input ++ '\n' :: spaces (byteLength before) ++ "^\n".toList ++ failure.explanation

end CompiledRules.Failure
