import CompiledRules.Expr.Basic
import CompiledRules.Operators.Basic
import CompiledRules.Parameters
import CompiledRules.Record

/-!
# What a rule sees when it runs
-/

namespace CompiledRules

/-- A record, the operators at hand, and the bindings of the parameters. -/
structure Environment where
  record : Record
  operators : Operators
  parameters : Parameters

namespace Environment

/-- The value bound to a parameter, null if there is none. -/
def resolve (env : Environment) : Parameter → Value
  | .named name => (env.parameters.named? name).getD .null
  | .positional index => (env.parameters.positional? index).getD .null

end Environment

/-- The truth of a value: a boolean is itself, and null is false. -/
def Value.truth : Value → Except ExecutionError Bool
  | .bool b => .ok b
  | .null => .ok false
  | v => .error (.notBoolean v.typeName)

/-- The value of a comparison, false where the values do not admit it. -/
def Value.compared (op : CompareOp) (left right : Value) : Value := .bool ((compare? op left right).getD false)

end CompiledRules
