import CompiledRules.Environment

/-!
# The meaning of rules

What an expression comes to on a record, read off the expression itself and apart from the bodies that it is compiled
to. With strict null tests, a comparison for equality with the null literal is a question to the operator `is_null`.
-/

namespace CompiledRules.Expr

/-- Whether the expression is the null literal. -/
def isNullLiteral : Expr → Bool
  | .literal .null => true
  | _ => false

/-- Whether a comparison with this operand asks if the other operand is null. -/
def asksNull (strict : Bool) (op : CompareOp) (operand : Expr) : Bool :=
  strict && (op = .eq || op = .neq) && isNullLiteral operand

/-- What a value stands for where a rule asks for a truth. Null is false, and no other value than a boolean will do. -/
def truthOf : Value → Except ExecutionError Bool
  | .bool b => .ok b
  | .null => .ok false
  | .int _ => .error (.notBoolean "int")
  | .float _ => .error (.notBoolean "float")
  | .string _ => .error (.notBoolean "string")
  | .list _ => .error (.notBoolean "list")

/-- The answer of `is_null`, turned around for an inequality. -/
def nullAnswer (env : Environment) (op : CompareOp) (operand : Value) : Except ExecutionError Value := do
  let answer ← env.operators.call "is_null" [operand]
  if op = .eq then return answer else return .bool (!(← truthOf answer))

mutual

/-- The value of an expression. A field or parameter without a value is null, and a comparison that the values do not
admit is false. The right operand of `and` and `or` is read only where the left one leaves it open. -/
def eval (strict : Bool) (env : Environment) : Expr → Except ExecutionError Value
  | .literal value => .ok value
  | .field path => .ok ((env.record.get? path).getD .null)
  | .parameter (.named name) => .ok ((env.parameters.named.find? name).getD .null)
  | .parameter (.positional index) => .ok (env.parameters.positional[index]?.getD .null)
  | .call name args => do
      let values ← evalAll strict env args
      env.operators.call name values
  | .compare op left right =>
      if asksNull strict op left then do nullAnswer env op (← eval strict env right)
      else if asksNull strict op right then do nullAnswer env op (← eval strict env left)
      else do
        let l ← eval strict env left
        let r ← eval strict env right
        if op = .like then env.operators.call "like" [l, r]
        else return .bool ((Value.compare? op l r).getD false)
  | .and left right => do
      if ← truthOf (← eval strict env left) then return .bool (← truthOf (← eval strict env right))
      else return .bool false
  | .or left right => do
      if ← truthOf (← eval strict env left) then return .bool true
      else return .bool (← truthOf (← eval strict env right))
  | .xor left right => do
      let l ← truthOf (← eval strict env left)
      let r ← truthOf (← eval strict env right)
      return .bool (l != r)
  | .not operand => do
      return .bool (!(← truthOf (← eval strict env operand)))

/-- The values of several expressions, from left to right. -/
def evalAll (strict : Bool) (env : Environment) : List Expr → Except ExecutionError (List Value)
  | [] => .ok []
  | e :: es => do
      let value ← eval strict env e
      let values ← evalAll strict env es
      return value :: values

end

/-- Whether a rule holds. -/
def holds (strict : Bool) (env : Environment) (e : Expr) : Except ExecutionError Bool := do
  truthOf (← e.eval strict env)

end CompiledRules.Expr
