import CompiledRules.Value.Printer

/-!
# Rule expressions
-/

namespace CompiledRules

/-- A parameter of a rule, bound when the rule runs. -/
inductive Parameter where
  /-- Written `:name`. -/
  | named (name : String)
  /-- Written `?`; the parameters of a rule are numbered from the left, from zero. -/
  | positional (index : Nat)
deriving DecidableEq

/-- A rule as a tree. -/
inductive Expr where
  | literal (value : Value)
  /-- A path into the record, its segments joined by dots. -/
  | field (path : String)
  | parameter (parameter : Parameter)
  | call (name : String) (args : List Expr)
  | compare (op : CompareOp) (left right : Expr)
  | and (left right : Expr)
  | or (left right : Expr)
  | xor (left right : Expr)
  | not (operand : Expr)
deriving Inhabited

namespace Expr

/-- The rule that compares a field with a value. -/
def fieldIs (path : String) (op : CompareOp) (value : Value) : Expr :=
  .compare op (.field path) (.literal value)

/-- The rule that compares a field with a parameter. -/
def fieldIsParameter (path : String) (op : CompareOp) (parameter : Parameter) : Expr :=
  .compare op (.field path) (.parameter parameter)

mutual

/-- The expression with its positional parameters numbered from `next` on, left to right, and the number after the
last. -/
def numbered : Expr → Nat → Expr × Nat
  | .literal value, next => (.literal value, next)
  | .field path, next => (.field path, next)
  | .parameter (.named name), next => (.parameter (.named name), next)
  | .parameter (.positional _), next => (.parameter (.positional next), next + 1)
  | .call name args, next =>
      let (args, next) := numberedAll args next
      (.call name args, next)
  | .compare op left right, next =>
      let (left, next) := numbered left next
      let (right, next) := numbered right next
      (.compare op left right, next)
  | .and left right, next =>
      let (left, next) := numbered left next
      let (right, next) := numbered right next
      (.and left right, next)
  | .or left right, next =>
      let (left, next) := numbered left next
      let (right, next) := numbered right next
      (.or left right, next)
  | .xor left right, next =>
      let (left, next) := numbered left next
      let (right, next) := numbered right next
      (.xor left right, next)
  | .not operand, next =>
      let (operand, next) := numbered operand next
      (.not operand, next)

/-- The numbering of several expressions, one after the other. -/
def numberedAll : List Expr → Nat → List Expr × Nat
  | [], next => ([], next)
  | e :: es, next =>
      let (e, next) := numbered e next
      let (es, next) := numberedAll es next
      (e :: es, next)

end

end Expr

/-- The parameter as a rule writes it. -/
def Parameter.display : Parameter → Text
  | .named name => ':' :: name.toList
  | .positional _ => ['?']

namespace Expr

/-- Two operands around an operator, in parentheses. -/
def displayBinary (left operator right : Text) : Text :=
  '(' :: left ++ ' ' :: operator ++ ' ' :: right ++ [')']

mutual

/-- The expression for people, with every operation in parentheses. -/
def display : Expr → Text
  | .literal value => value.display
  | .field path => path.toList
  | .parameter p => p.display
  | .call name args => name.toList ++ '(' :: Text.commaJoined (displayAll args) ++ [')']
  | .compare op left right => displayBinary (display left) op.symbol.toList (display right)
  | .and left right => displayBinary (display left) "AND".toList (display right)
  | .or left right => displayBinary (display left) "OR".toList (display right)
  | .xor left right => displayBinary (display left) "XOR".toList (display right)
  | .not operand => "(NOT ".toList ++ display operand ++ [')']

/-- Each expression for people. -/
def displayAll : List Expr → List Text
  | [] => []
  | e :: es => display e :: displayAll es

end

end Expr

end CompiledRules
