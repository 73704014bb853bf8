import CompiledRules.Node.Basic
import CompiledRules.Parser.Token

/-!
# Reading executor bodies

From loosest to tightest: `||`, `xor`, `&&`, comparison, `!`, operand. The connectives group to the left, and
a comparison does not chain.
-/

namespace CompiledRules.Node.Grammar

open CompiledRules.Parser

/-- Quoted text in brackets. -/
def key : Parser String := do
  char '['
  blanks
  let text ← quotedText
  blanks
  char ']'
  return String.ofList text

/-- A path into the record: `$target` and its keys. -/
def targetAccess : Parser Node := do
  exactly "$target".toList
  return .target (← atLeastOne key)

/-- The index of a positional parameter, a number of 64 bits. -/
def index : Parser Nat := fun s =>
  match digits s with
  | .ok (ds, rest) =>
      if Text.decimalValue ds < 0x10000000000000000 then .ok (Text.decimalValue ds, rest)
      else .error ⟨s, false, [], some .numberTooLarge⟩
  | .error failure => .error failure

/-- A parameter: `$parameters` with a name or an index in brackets. -/
def parameterAccess : Parser Node := do
  exactly "$parameters".toList
  char '['
  blanks
  let found ← commit <|
    (do return Parameter.named (String.ofList (← quotedText)))
    <|> (do return Parameter.positional (← index))
  blanks
  commit (char ']')
  return .parameter found

/-- A constant of the executor. -/
def constantAccess : Parser Node := do
  exactly "$this->".toList
  return .this (String.ofList (← commit word))

/-- The arguments of a call. -/
def arguments (body : Parser Node) : Parser (List Node) := do
  blanks
  char '('
  blanks
  let args ← separated body do
    blanks
    char ','
  blanks
  char ')'
  return args

/-- A call of an operator by name. -/
def operatorCall (body : Parser Node) : Parser Node := do
  exactly "$operators".toList
  let name ← key
  return .call name (← commit (arguments body))

/-- A body in parentheses. -/
def parenthesised (body : Parser Node) : Parser Node := do
  char '('
  let node ← body
  blanks
  commit (char ')')
  return node

/-- An operand of a comparison, without negations. -/
def primary (body : Parser Node) : Parser Node := do
  blanks
  expecting "operand" <|
    parenthesised body
    <|> targetAccess
    <|> parameterAccess
    <|> constantAccess
    <|> operatorCall body
    <|> (do return .literal (← value))

/-- A comparison operator. -/
def compareOp : Parser CompareOp := do
  blanks
  (do exactly "==".toList; return .eq)
    <|> (do exactly "!=".toList; return .neq)
    <|> (do exactly ">=".toList; return .gte)
    <|> (do exactly "<=".toList; return .lte)
    <|> (do char '>'; return .gt)
    <|> (do char '<'; return .lt)
    <|> (do keyword "in"; return .isIn)

/-- One `!`. -/
def exclamation : Parser Unit := do
  blanks
  char '!'

/-- An operand after any number of `!`s. -/
def negation (body : Parser Node) : Parser Node := do
  match ← many exclamation with
  | [] => primary body
  | negations => return negations.foldr (fun _ node => .not node) (← commit (primary body))

/-- An operand, or two operands compared. -/
def comparison (body : Parser Node) : Parser Node := do
  let left ← negation body
  match ← optional compareOp with
  | none => return left
  | some op => return .compare op left (← commit (negation body))

def conjunction (body : Parser Node) : Parser Node :=
  chain (comparison body) (do blanks; exactly "&&".toList) .and

def exclusion (body : Parser Node) : Parser Node :=
  chain (conjunction body) (do blanks; keyword "xor") .xor

def disjunction (body : Parser Node) : Parser Node :=
  chain (exclusion body) (do blanks; exactly "||".toList) .or

/-- A body. -/
def body : Parser Node := recursive disjunction

end CompiledRules.Node.Grammar
