import CompiledRules.Context
import CompiledRules.Expr.Basic

/-!
# Compilation targets

A target turns an expression into the code of a unit: a body, the constants that it reads, and mixins.
-/

namespace CompiledRules

/-- What a target makes of an expression. -/
structure GeneratedCode where
  body : String
  mixins : List String := []
  data : Table Value := .empty
deriving Inhabited

/-- Why a target refuses an expression. -/
inductive TargetError where
  | unsupportedOperator (target operator : String)
  | unknownOperator (target name : String)
  | unsupported (target construct : String)
deriving DecidableEq

/-- The refusal in words. -/
def TargetError.message : TargetError → String
  | .unsupportedOperator target operator =>
      "target '" ++ target ++ "' does not support operator '" ++ operator ++ "'"
  | .unknownOperator target name => "target '" ++ target ++ "' has no operator named '" ++ name ++ "'"
  | .unsupported target construct => "target '" ++ target ++ "' cannot compile " ++ construct

/-- A way to compile expressions, known by its variant. -/
structure Target where
  variant : String
  compile : Expr → Context → Except TargetError GeneratedCode

end CompiledRules
