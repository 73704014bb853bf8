import CompiledRules.Expr.Basic

/-!
# Rules with few parentheses

An expression as a rule that keeps its shape with the fewest parentheses.
-/

namespace CompiledRules.Expr

/-- How tightly an operation binds, from the loosest on. -/
inductive Tightness where
  | disjunction
  | exclusion
  | conjunction
  | negation
  | comparison
  | primary
deriving DecidableEq

/-- The place of a tightness in their order. -/
def Tightness.rank : Tightness → Nat
  | .disjunction => 0
  | .exclusion => 1
  | .conjunction => 2
  | .negation => 3
  | .comparison => 4
  | .primary => 5

/-- The text of an operation that binds as `own` where something at least as tight as `needed` must stand. -/
def atLeast (needed own : Tightness) (text : Text) : Text :=
  if needed.rank ≤ own.rank then text else '(' :: text ++ [')']

/-- Two operands around an operator. -/
def binaryText (left : Text) (operator : String) (right : Text) : Text :=
  left ++ ' ' :: operator.toList ++ ' ' :: right

mutual

/-- The expression with only the parentheses that it needs where something as tight as `needed` must stand. -/
def render (needed : Tightness) : Expr → Text
  | .literal value => value.literal
  | .field path => path.toList
  | .parameter p => p.display
  | .call name args => name.toList ++ '(' :: Text.commaJoined (renderAll args) ++ [')']
  | .compare op left right =>
      atLeast needed .comparison (binaryText (render .primary left) op.symbol (render .primary right))
  | .and left right =>
      atLeast needed .conjunction (binaryText (render .conjunction left) "and" (render .negation right))
  | .or left right =>
      atLeast needed .disjunction (binaryText (render .disjunction left) "or" (render .exclusion right))
  | .xor left right =>
      atLeast needed .exclusion (binaryText (render .exclusion left) "xor" (render .conjunction right))
  | .not operand => atLeast needed .negation ("not ".toList ++ render .negation operand)

/-- Each expression with only the parentheses that it needs as an argument. -/
def renderAll : List Expr → List Text
  | [] => []
  | e :: es => render .disjunction e :: renderAll es

end

/-- The expression as a rule with the fewest parentheses. -/
def text (e : Expr) : Text := render .disjunction e

end CompiledRules.Expr
