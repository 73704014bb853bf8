import CompiledRules.Identifier
import CompiledRules.Table
import CompiledRules.Value.Basic

/-!
# Compilation contexts

A context carries the caller's options to the target, and the names of the executor that is being compiled.
-/

namespace CompiledRules

/-- Options and names of a compilation. -/
structure Context where
  options : Table Value := .empty
  names : Option Names := none
deriving Inhabited

namespace Context

def set (context : Context) (key : String) (value : Value) : Context :=
  { context with options := context.options.insert key value }

def get? (context : Context) (key : String) : Option Value := context.options.find? key

/-- A boolean option, with a default where it is absent or not a boolean. -/
def flag (context : Context) (key : String) (default : Bool) : Bool :=
  ((context.get? key).bind Value.asBool?).getD default

/-- Writes the names of the executor to be compiled. -/
def identify (context : Context) (names : Names) : Context := { context with names := some names }

end Context

end CompiledRules
