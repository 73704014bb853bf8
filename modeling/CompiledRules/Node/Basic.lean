import CompiledRules.Environment

/-!
# Executor bodies

The body of an executor reads the record, the parameters and the executor's constants, and calls operators.
-/

namespace CompiledRules

/-- The body of an executor as a tree. -/
inductive Node where
  | literal (value : Value)
  /-- The value at the end of a path into the record. -/
  | target (segments : List String)
  | parameter (parameter : Parameter)
  /-- A constant of the executor. -/
  | this (name : String)
  | call (name : String) (args : List Node)
  | compare (op : CompareOp) (left right : Node)
  | and (left right : Node)
  | or (left right : Node)
  | xor (left right : Node)
  | not (operand : Node)
deriving Inhabited

namespace Node

mutual

/-- The constants that a body reads, from left to right. -/
def constants : Node → List String
  | .literal _ => []
  | .target _ => []
  | .parameter _ => []
  | .this name => [name]
  | .call _ args => constantsAll args
  | .compare _ left right => constants left ++ constants right
  | .and left right => constants left ++ constants right
  | .or left right => constants left ++ constants right
  | .xor left right => constants left ++ constants right
  | .not operand => constants operand

/-- The constants that several bodies read. -/
def constantsAll : List Node → List String
  | [] => []
  | node :: nodes => constants node ++ constantsAll nodes

end

mutual

/-- The value of a body. The right operand of `&&` and `||` is read only where the left one leaves it open. -/
def eval (env : Environment) (data : Table Value) : Node → Except ExecutionError Value
  | .literal value => .ok value
  | .target segments => .ok ((env.record.getSegments? segments).getD .null)
  | .parameter p => .ok (env.resolve p)
  | .this name =>
      match data.find? name with
      | some value => .ok value
      | none => .error (.undefinedConstant name)
  | .call name args => do
      let values ← evalAll env data args
      env.operators.call name values
  | .compare op left right => do
      let l ← eval env data left
      let r ← eval env data right
      return .compared op l r
  | .and left right => do
      if ← (← eval env data left).truth then return .bool (← (← eval env data right).truth)
      else return .bool false
  | .or left right => do
      if ← (← eval env data left).truth then return .bool true
      else return .bool (← (← eval env data right).truth)
  | .xor left right => do
      let l ← (← eval env data left).truth
      let r ← (← eval env data right).truth
      return .bool (l != r)
  | .not operand => do
      return .bool (!(← (← eval env data operand).truth))

/-- The values of several bodies, from left to right. -/
def evalAll (env : Environment) (data : Table Value) : List Node → Except ExecutionError (List Value)
  | [] => .ok []
  | node :: nodes => do
      let value ← eval env data node
      let values ← evalAll env data nodes
      return value :: values

end

end Node

end CompiledRules
