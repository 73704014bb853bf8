import CompiledRules.Value.Basic

/-!
# The text of a value

A value is displayed for people and written as a literal for readers. A float that is not finite has no
literal, and neither has a list that holds one.
-/

namespace CompiledRules.Value

mutual

/-- The value for people. Text stands between quotes as it is. -/
def display : Value → Text
  | .null => "null".toList
  | .int n => Text.signedDecimal n.toInt
  | .float x => x.plainText
  | .bool true => "true".toList
  | .bool false => "false".toList
  | .string s => '"' :: s.toList ++ ['"']
  | .list items => '[' :: Text.commaJoined (displayAll items) ++ [']']

/-- Each value for people. -/
def displayAll : List Value → List Text
  | [] => []
  | v :: vs => display v :: displayAll vs

end

mutual

/-- Whether every float in the value is finite, at any depth. -/
def isFinite : Value → Bool
  | .float x => x.isFinite
  | .list items => allFinite items
  | _ => true

/-- Whether every float in the values is finite. -/
def allFinite : List Value → Bool
  | [] => true
  | v :: vs => isFinite v && allFinite vs

end

mutual

/-- The literal of a finite value: the text that reads back to it. -/
def literal : Value → Text
  | .null => "null".toList
  | .int n => Text.signedDecimal n.toInt
  | .float x => x.literalText
  | .bool true => "true".toList
  | .bool false => "false".toList
  | .string s => Text.quoted s.toList
  | .list items => '[' :: Text.commaJoined (literalAll items) ++ [']']

/-- The literal of each value. -/
def literalAll : List Value → List Text
  | [] => []
  | v :: vs => literal v :: literalAll vs

end

/-- The literal of a value, if it is finite. -/
def literal? (v : Value) : Option Text := if v.isFinite then some v.literal else none

end CompiledRules.Value
