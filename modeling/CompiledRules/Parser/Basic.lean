import CompiledRules.Text.Basic

/-!
# Parsers

A parser reads from the front of a text. A failure keeps the place where reading stopped, says whether
another alternative may still be tried, and lists what was expected there, the innermost first. Only a
choice, an option and a repetition go back to where they began.
-/

namespace CompiledRules

/-- Why a parser refused a text that has the right form. -/
inductive Refusal where
  | numberTooLarge
deriving DecidableEq

/-- The refusal in words. -/
def Refusal.message : Refusal → Text
  | .numberTooLarge => "number too large to fit in target type".toList

/-- A failed reading. -/
structure Failure where
  /-- The text that was left when reading stopped. -/
  rest : Text
  /-- Whether the failure ends every choice around it. -/
  committed : Bool
  expected : List String
  refusal : Option Refusal
deriving DecidableEq

/-- Reads a value from the front of a text. -/
def Parser (α : Type) := Text → Except Failure (α × Text)

namespace Parser

variable {α β : Type}

instance : Monad Parser where
  pure a := fun s => .ok (a, s)
  bind p f := fun s =>
    match p s with
    | .ok (a, rest) => f a rest
    | .error failure => .error failure

/-- Fails where it stands, and lets other alternatives be tried. -/
def fail : Parser α := fun s => .error ⟨s, false, [], none⟩

/-- Fails where it stands, and ends every choice around it. -/
def abort : Parser α := fun s => .error ⟨s, true, [], none⟩

/-- Tries the second parser on the same text if the first fails without commitment. -/
def orElse (p : Parser α) (q : Unit → Parser α) : Parser α := fun s =>
  match p s with
  | .ok result => .ok result
  | .error failure => if failure.committed then .error failure else q () s

instance : OrElse (Parser α) := ⟨orElse⟩

/-- Turns every failure into one that ends the choices around it. -/
def commit (p : Parser α) : Parser α := fun s =>
  match p s with
  | .ok result => .ok result
  | .error failure => .error { failure with committed := true }

/-- Adds to a failure what was expected. -/
def expecting (what : String) (p : Parser α) : Parser α := fun s =>
  match p s with
  | .ok result => .ok result
  | .error failure => .error { failure with expected := failure.expected ++ [what] }

/-- Reads the item if it is there. -/
def optional (p : Parser α) : Parser (Option α) := fun s =>
  match p s with
  | .ok (a, rest) => .ok (some a, rest)
  | .error failure => if failure.committed then .error failure else .ok (none, s)

/-- Any one character. -/
def anyChar : Parser Char
  | [] => fail []
  | c :: rest => .ok (c, rest)

/-- One character of a class. -/
def charWhere (accepts : Char → Bool) : Parser Char
  | [] => fail []
  | c :: rest => if accepts c then .ok (c, rest) else fail (c :: rest)

/-- The given character. -/
def char (c : Char) : Parser Unit
  | [] => fail []
  | d :: rest => if d = c then .ok ((), rest) else fail (d :: rest)

/-- The given text. -/
def exactly (text : Text) : Parser Unit := fun s =>
  if text.isPrefixOf s then .ok ((), s.drop text.length) else fail s

/-- The longest run of characters of a class, which may be empty. -/
def run (accepts : Char → Bool) : Parser Text := fun s =>
  .ok (s.takeWhile accepts, s.dropWhile accepts)

/-- The longest run of characters of a class, at least one. -/
def runSome (accepts : Char → Bool) : Parser Text := fun s =>
  match s.takeWhile accepts with
  | [] => fail s
  | text => .ok (text, s.dropWhile accepts)

/-- The longest run of at least one and at most `limit` characters of a class. -/
def runUpTo (limit : Nat) (accepts : Char → Bool) : Parser Text := fun s =>
  match (s.take limit).takeWhile accepts with
  | [] => fail s
  | text => .ok (text, s.drop text.length)

/-- At most `count` items, until one is missing. -/
def repeated (p : Parser α) : Nat → Parser (List α)
  | 0, s => .ok ([], s)
  | count + 1, s =>
      match p s with
      | .error failure => if failure.committed then .error failure else .ok ([], s)
      | .ok (a, rest) =>
          match repeated p count rest with
          | .ok (as, rest) => .ok (a :: as, rest)
          | .error failure => .error failure

/-- Items until one is missing. Each item takes at least one character, so there are no more items than
characters. -/
def many (p : Parser α) : Parser (List α) := fun s => repeated p (s.length + 1) s

/-- At least one item. -/
def atLeastOne (p : Parser α) : Parser (List α) := do
  let first ← p
  let others ← many p
  return first :: others

/-- At least one item, with a separator between neighbours. -/
def separatedSome (p : Parser α) (separator : Parser Unit) : Parser (List α) := do
  let first ← p
  let others ← many do
    separator
    p
  return first :: others

/-- Items with a separator between neighbours. -/
def separated (p : Parser α) (separator : Parser Unit) : Parser (List α) := do
  let items ← optional (separatedSome p separator)
  return items.getD []

/-- Operands joined by a connective that groups to the left. After a connective an operand must follow. -/
def chain (operand : Parser α) (connective : Parser Unit) (join : α → α → α) : Parser α := do
  let first ← operand
  let others ← many do
    connective
    commit operand
  return others.foldl join first

/-- A parser that calls itself through `layer`, at most `depth` deep. -/
def nested (layer : Parser α → Parser α) : Nat → Parser α
  | 0, s => fail s
  | depth + 1, s => layer (nested layer depth) s

/-- The parser that `layer` describes in terms of itself. A layer reads at least one character before it calls itself,
so that the length of the text bounds the depth. -/
def recursive (layer : Parser α → Parser α) : Parser α := fun s => nested layer (s.length + 1) s

/-- Reads the whole text. -/
def complete (p : Parser α) (text : Text) : Except Failure α :=
  match p text with
  | .ok (a, []) => .ok a
  | .ok (_, rest) => .error ⟨rest, false, [], none⟩
  | .error failure => .error failure

end Parser

end CompiledRules
