import CompiledRules.Executor
import CompiledRules.Expr.Grammar
import CompiledRules.Store.Disk

/-!
# Errors of compilation
-/

namespace CompiledRules

/-- An identifier that belongs to another pair of variant and rule. -/
structure Conflict where
  identifier : String
  existingVariant : String
  existingRule : String
  variant : String
  rule : String
deriving DecidableEq

/-- The conflict in words. -/
def Conflict.message (conflict : Conflict) : String :=
  String.ofList <|
    "identifier ".toList ++ conflict.identifier.toList ++ " already belongs to ".toList ++
      Text.inspected conflict.existingVariant.toList ++ " rule ".toList ++
      Text.inspected conflict.existingRule.toList ++ ", not ".toList ++
      Text.inspected conflict.variant.toList ++ " rule ".toList ++ Text.inspected conflict.rule.toList

/-- Why a rule has no executor. -/
inductive CompileError where
  | rule (error : RuleError)
  | target (error : TargetError)
  | assembly (error : AssemblyError)
  | load (error : LoadError)
  /-- The store could not write the unit. -/
  | unwritable (error : WriteError)
  | conflict (clash : Conflict)
deriving DecidableEq

/-- The error in words. -/
def CompileError.message : CompileError → String
  | .rule error => error.message
  | .target error => error.message
  | .assembly error => error.message
  | .load error => error.message
  | .unwritable error => error.message
  | .conflict clash => clash.message

end CompiledRules
