import CompiledRules.Node.Basic

/-!
# The text of executor bodies

A body is written with every operation in parentheses, or with those parentheses only that keep its shape.
-/

namespace CompiledRules.Node

/-- The look-up of a path in the record. -/
def targetText (segments : List String) : Text :=
  "$target".toList ++ segments.flatMap fun segment => '[' :: Text.quoted segment.toList ++ [']']

/-- The look-up of a parameter. -/
def parameterText : Parameter → Text
  | .named name => "$parameters[".toList ++ Text.quoted name.toList ++ [']']
  | .positional index => "$parameters[".toList ++ Text.decimal index ++ [']']

/-- The look-up of a constant. -/
def thisText (name : String) : Text := "$this->".toList ++ name.toList

/-- The call of an operator. -/
def callText (name : String) (args : List Text) : Text :=
  "$operators[".toList ++ Text.quoted name.toList ++ "](".toList ++ Text.commaJoined args ++ [')']

/-- The comparison as a body writes it. -/
def compareSymbol : CompareOp → String
  | .eq => "=="
  | .neq => "!="
  | op => op.symbol

/-- Two operands around an operator. -/
def binaryText (left : Text) (operator : String) (right : Text) : Text :=
  left ++ ' ' :: operator.toList ++ ' ' :: right

/-- A text in parentheses. -/
def inParentheses (text : Text) : Text := '(' :: text ++ [')']

mutual

/-- The body with every operation of two operands in parentheses. -/
def display : Node → Text
  | .literal value => value.literal
  | .target segments => targetText segments
  | .parameter p => parameterText p
  | .this name => thisText name
  | .call name args => callText name (displayAll args)
  | .compare op left right => inParentheses (binaryText (display left) (compareSymbol op) (display right))
  | .and left right => inParentheses (binaryText (display left) "&&" (display right))
  | .or left right => inParentheses (binaryText (display left) "||" (display right))
  | .xor left right => inParentheses (binaryText (display left) "xor" (display right))
  | .not operand => '!' :: display operand

/-- Each body with every operation of two operands in parentheses. -/
def displayAll : List Node → List Text
  | [] => []
  | node :: nodes => display node :: displayAll nodes

end

/-- How tightly an operation binds, from the loosest on. -/
inductive Tightness where
  | disjunction
  | exclusion
  | conjunction
  | comparison
  | negation
  | primary
deriving DecidableEq

/-- The place of a tightness in their order. -/
def Tightness.rank : Tightness → Nat
  | .disjunction => 0
  | .exclusion => 1
  | .conjunction => 2
  | .comparison => 3
  | .negation => 4
  | .primary => 5

/-- The text of an operation that binds as `own` where something at least as tight as `needed` must stand. -/
def atLeast (needed own : Tightness) (text : Text) : Text :=
  if needed.rank ≤ own.rank then text else inParentheses text

mutual

/-- The body with only the parentheses that it needs where something as tight as `needed` must stand. -/
def render (needed : Tightness) : Node → Text
  | .literal value => value.literal
  | .target segments => targetText segments
  | .parameter p => parameterText p
  | .this name => thisText name
  | .call name args => callText name (renderAll args)
  | .compare op left right =>
      atLeast needed .comparison
        (binaryText (render .negation left) (compareSymbol op) (render .negation right))
  | .and left right =>
      atLeast needed .conjunction (binaryText (render .conjunction left) "&&" (render .comparison right))
  | .or left right =>
      atLeast needed .disjunction (binaryText (render .disjunction left) "||" (render .exclusion right))
  | .xor left right =>
      atLeast needed .exclusion (binaryText (render .exclusion left) "xor" (render .conjunction right))
  | .not operand => atLeast needed .negation ('!' :: render .negation operand)

/-- Each body with only the parentheses that it needs as an argument. -/
def renderAll : List Node → List Text
  | [] => []
  | node :: nodes => render .disjunction node :: renderAll nodes

end

/-- The body with the fewest parentheses. -/
def text (n : Node) : Text := render .disjunction n

end CompiledRules.Node
