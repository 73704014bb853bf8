import CompiledRules.Table
import CompiledRules.Value.Basic

/-!
# Parameter bindings
-/

namespace CompiledRules

/-- The values bound to the parameters of a rule. -/
structure Parameters where
  named : Table Value := .empty
  positional : List Value := []
deriving Inhabited

namespace Parameters

/-- Binds a named parameter. -/
def set (parameters : Parameters) (name : String) (value : Value) : Parameters :=
  { parameters with named := parameters.named.insert name value }

/-- Binds the next positional parameter. -/
def push (parameters : Parameters) (value : Value) : Parameters :=
  { parameters with positional := parameters.positional ++ [value] }

def named? (parameters : Parameters) (name : String) : Option Value := parameters.named.find? name

def positional? (parameters : Parameters) (index : Nat) : Option Value := parameters.positional[index]?

end Parameters

end CompiledRules
