import CompiledRules.Expr.Basic
import CompiledRules.Parser.Report
import CompiledRules.Parser.Token
import CompiledRules.Text.Inspected

/-!
# Reading rules

From loosest to tightest: `or`, `xor`, `and`, `not`, comparison, operand. The connectives group to the left,
and a comparison does not chain.
-/

namespace CompiledRules

namespace Expr.Grammar

open CompiledRules.Parser

/-- The words that are no name of a field or an operator. -/
def reservedWords : List String := ["and", "or", "xor", "not", "in", "like", "true", "false", "null"]

/-- Whether a word is reserved, in either case. -/
def isReserved (word : Text) : Bool := reservedWords.any fun reserved => word.map Char.toLower = reserved.toList

/-- A parameter: `:name` or `?`. -/
def parameter : Parser Parameter :=
  (do char ':'; return .named (String.ofList (← commit word)))
  <|> (do char '?'; return .positional 0)

/-- The arguments of a call. -/
def arguments (expression : Parser Expr) : Parser (List Expr) := do
  char '('
  blanks
  let args ← separated expression do
    blanks
    char ','
  blanks
  commit (char ')')
  return args

/-- A path into the record, or a call of an operator. Only a path of one segment can be reserved or called. -/
def accessOrCall (expression : Parser Expr) : Parser Expr := fun s =>
  match separatedSome word (char '.') s with
  | .error failure => .error failure
  | .ok ([name], rest) =>
      if isReserved name then fail s
      else
        match optional (arguments expression) rest with
        | .error failure => .error failure
        | .ok (some args, rest) => .ok (.call (String.ofList name) args, rest)
        | .ok (none, rest) => .ok (.field (String.ofList name), rest)
  | .ok (segments, rest) => .ok (.field (String.ofList (List.intercalate ['.'] segments)), rest)

/-- An expression in parentheses. -/
def parenthesised (expression : Parser Expr) : Parser Expr := do
  char '('
  let e ← expression
  blanks
  commit (char ')')
  return e

/-- An operand of a comparison. -/
def operand (expression : Parser Expr) : Parser Expr := do
  blanks
  expecting "operand" <|
    parenthesised expression
    <|> (do return .literal (← value))
    <|> (do return .parameter (← parameter))
    <|> accessOrCall expression

/-- The comparison that a run of symbols stands for. -/
def symbolicOp (symbols : Text) : CompareOp :=
  match String.ofList symbols with
  | "=" => .eq
  | "==" => .eq
  | "!=" => .neq
  | "<>" => .neq
  | ">" => .gt
  | ">=" => .gte
  | "<" => .lt
  | "<=" => .lte
  | symbol => .custom symbol

/-- The characters of symbolic comparisons. -/
def isSymbol (c : Char) : Bool := "<>=!~".toList.contains c

/-- A comparison operator. -/
def compareOp : Parser CompareOp := do
  blanks
  (do return symbolicOp (← runSome isSymbol))
    <|> (do keyword "in"; return .isIn)
    <|> (do keyword "like"; return .like)

/-- An operand, or two operands compared. -/
def comparison (expression : Parser Expr) : Parser Expr := do
  let left ← operand expression
  match ← optional compareOp with
  | none => return left
  | some op => return .compare op left (← commit (operand expression))

/-- One `not`. -/
def negation : Parser Unit := do
  blanks
  keyword "not"

/-- A comparison after any number of `not`s. -/
def unary (expression : Parser Expr) : Parser Expr := do
  match ← many negation with
  | [] => comparison expression
  | negations => return negations.foldr (fun _ e => .not e) (← commit (comparison expression))

/-- A connective, after blanks. -/
def connective (spelling : String) : Parser Unit := do
  blanks
  keyword spelling

def conjunction (expression : Parser Expr) : Parser Expr :=
  chain (unary expression) (connective "and") .and

def exclusion (expression : Parser Expr) : Parser Expr :=
  chain (conjunction expression) (connective "xor") .xor

def disjunction (expression : Parser Expr) : Parser Expr :=
  chain (exclusion expression) (connective "or") .or

/-- An expression, given how the expressions in parentheses are read. -/
def expressionLayer (expression : Parser Expr) : Parser Expr := do
  blanks
  disjunction expression

/-- An expression. -/
def expression : Parser Expr := recursive expressionLayer

/-- A rule: an expression with its positional parameters numbered, then blanks. -/
def rule : Parser Expr := do
  let e ← expression
  blanks
  return (e.numbered 0).1

end Expr.Grammar

/-- A rule that cannot be read. -/
structure RuleError where
  rule : String
  detail : String
deriving DecidableEq

/-- The error in words. -/
def RuleError.message (error : RuleError) : String :=
  String.ofList ("syntax error in rule ".toList ++ Text.inspected error.rule.toList ++ ": ".toList) ++ error.detail

/-- Reads a rule. -/
def Expr.parse (rule : String) : Except RuleError Expr :=
  match Parser.complete Expr.Grammar.rule rule.toList with
  | .ok e => .ok e
  | .error failure => .error ⟨rule, String.ofList (failure.report rule.toList)⟩

end CompiledRules
