import CompiledRules.Operators.Like
import CompiledRules.Table
import CompiledRules.Text.Casing
import CompiledRules.Text.Inspected
import CompiledRules.Value.Basic

/-!
# Operators

A registry names the operators that rules may call when they run.
-/

namespace CompiledRules

/-- Why running a rule failed. -/
inductive ExecutionError where
  | unknownOperator (name : String)
  | arity (operator : String) (expected got : Nat)
  | operatorFailed (operator message : String)
  | notBoolean (found : String)
  | undefinedConstant (name : String)
  | missingMixin (mixin : String)
deriving DecidableEq

/-- The failure in words. -/
def ExecutionError.message : ExecutionError → String
  | .unknownOperator name => "no operator named '" ++ name ++ "' is registered"
  | .arity operator expected got =>
      "operator '" ++ operator ++ "' takes " ++ toString expected ++ " argument(s), got " ++ toString got
  | .operatorFailed operator message => "operator '" ++ operator ++ "' failed: " ++ message
  | .notBoolean found => "expected a boolean, found " ++ found
  | .undefinedConstant name => "executor has no constant named '" ++ name ++ "'"
  | .missingMixin mixin => "executor does not carry the '" ++ mixin ++ "' mixin"

/-- An operator takes evaluated arguments. -/
abbrev Operator := List Value → Except ExecutionError Value

/-- A registry of named operators. -/
structure Operators where
  table : Table Operator

namespace Operators

/-- The names of the operators that are always at hand. -/
def builtinNames : List String := ["is_null", "length", "like", "lower", "upper"]

/-- The operator of one argument with the given name and meaning. -/
def unary (name : String) (meaning : Value → Value) : Operator
  | [value] => .ok (meaning value)
  | args => .error (.arity name 1 args.length)

/-- A number of things, as far as 64 bits go. -/
def count (n : Nat) : Value := .int (Int64.ofInt (min n 0x7FFFFFFFFFFFFFFF))

/-- The number of characters of a text or of items of a list; null for all else. -/
def length : Value → Value
  | .string s => count s.toList.length
  | .list items => count items.length
  | _ => .null

/-- A text changed as a whole; null for all else. -/
def onText (change : Text → Text) : Value → Value
  | .string s => .string (String.ofList (change s.toList))
  | _ => .null

/-- Whether a text matches a pattern; false unless both are texts. -/
def likeOperator : Operator
  | [.string text, .string pattern] => .ok (.bool (like text.toList pattern.toList))
  | [_, _] => .ok (.bool false)
  | args => .error (.arity "like" 2 args.length)

/-- The registry without operators. -/
def empty : Operators := ⟨.empty⟩

/-- Registers an operator, in place of any of that name. -/
def insert (operators : Operators) (name : String) (operator : Operator) : Operators :=
  ⟨operators.table.insert name operator⟩

/-- The registry of the operators that are always at hand. -/
def builtin : Operators :=
  ((((empty.insert "is_null" (unary "is_null" fun v => .bool v.isNull)).insert
    "length" (unary "length" length)).insert
    "like" likeOperator).insert
    "lower" (unary "lower" (onText Text.lower))).insert
    "upper" (unary "upper" (onText Text.upper))

def contains (operators : Operators) (name : String) : Bool := operators.table.has name

/-- Calls an operator by name. -/
def call (operators : Operators) (name : String) (args : List Value) : Except ExecutionError Value :=
  match operators.table.find? name with
  | some operator => operator args
  | none => .error (.unknownOperator name)

/-- The registry as a message shows it: its names in order. -/
def describe (operators : Operators) : String :=
  let names := operators.table.keys.map fun name => Text.inspected name.toList
  String.ofList ("Operators \x7b names: [".toList ++ Text.commaJoined names ++ "] \x7d".toList)

end Operators

end CompiledRules
