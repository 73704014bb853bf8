import CompiledRules.Expr.Basic

/-!
# Parts of an expression

The literals and the parameters of an expression, and the expression without the numbers of its parameters. Numbering
depends on nothing else, so it changes nothing the second time.
-/

namespace CompiledRules

namespace Expr

mutual

/-- The literals of an expression, from left to right. -/
def literals : Expr → List Value
  | .literal value => [value]
  | .field _ => []
  | .parameter _ => []
  | .call _ args => literalsAll args
  | .compare _ left right => literals left ++ literals right
  | .and left right => literals left ++ literals right
  | .or left right => literals left ++ literals right
  | .xor left right => literals left ++ literals right
  | .not operand => literals operand

/-- The literals of several expressions. -/
def literalsAll : List Expr → List Value
  | [] => []
  | e :: es => literals e ++ literalsAll es

end

mutual

/-- The parameters of an expression, from left to right. -/
def parameters : Expr → List Parameter
  | .literal _ => []
  | .field _ => []
  | .parameter p => [p]
  | .call _ args => parametersAll args
  | .compare _ left right => parameters left ++ parameters right
  | .and left right => parameters left ++ parameters right
  | .or left right => parameters left ++ parameters right
  | .xor left right => parameters left ++ parameters right
  | .not operand => parameters operand

/-- The parameters of several expressions. -/
def parametersAll : List Expr → List Parameter
  | [] => []
  | e :: es => parameters e ++ parametersAll es

end

mutual

/-- The expression with the number zero at every positional parameter. -/
def unnumbered : Expr → Expr
  | .literal value => .literal value
  | .field path => .field path
  | .parameter (.named name) => .parameter (.named name)
  | .parameter (.positional _) => .parameter (.positional 0)
  | .call name args => .call name (unnumberedAll args)
  | .compare op left right => .compare op (unnumbered left) (unnumbered right)
  | .and left right => .and (unnumbered left) (unnumbered right)
  | .or left right => .or (unnumbered left) (unnumbered right)
  | .xor left right => .xor (unnumbered left) (unnumbered right)
  | .not operand => .not (unnumbered operand)

/-- Each expression with the number zero at every positional parameter. -/
def unnumberedAll : List Expr → List Expr
  | [] => []
  | e :: es => unnumbered e :: unnumberedAll es

end

theorem unnumberedAll_eq (es : List Expr) : unnumberedAll es = es.map unnumbered := by
  induction es with
  | nil => rfl
  | cons e es ih => rw [unnumberedAll, ih, List.map_cons]

mutual

theorem numbered_unnumbered : (e : Expr) → (n : Nat) → e.unnumbered.numbered n = e.numbered n
  | .literal _, _ => rfl
  | .field _, _ => rfl
  | .parameter (.named _), _ => rfl
  | .parameter (.positional _), _ => rfl
  | .call _ args, n => by simp only [unnumbered, numbered, numberedAll_unnumberedAll args]
  | .compare _ left right, n => by simp only [unnumbered, numbered, numbered_unnumbered left, numbered_unnumbered right]
  | .and left right, n => by simp only [unnumbered, numbered, numbered_unnumbered left, numbered_unnumbered right]
  | .or left right, n => by simp only [unnumbered, numbered, numbered_unnumbered left, numbered_unnumbered right]
  | .xor left right, n => by simp only [unnumbered, numbered, numbered_unnumbered left, numbered_unnumbered right]
  | .not operand, n => by simp only [unnumbered, numbered, numbered_unnumbered operand]

theorem numberedAll_unnumberedAll : (es : List Expr) → (n : Nat) → numberedAll (unnumberedAll es) n = numberedAll es n
  | [], _ => rfl
  | e :: es, n => by
      simp only [unnumberedAll, numberedAll, numbered_unnumbered e, numberedAll_unnumberedAll es]

end

mutual

theorem unnumbered_numbered : (e : Expr) → (n : Nat) → (e.numbered n).1.unnumbered = e.unnumbered
  | .literal _, _ => rfl
  | .field _, _ => rfl
  | .parameter (.named _), _ => rfl
  | .parameter (.positional _), _ => rfl
  | .call _ args, n => by simp only [unnumbered, numbered, unnumberedAll_numberedAll args]
  | .compare _ left right, n => by simp only [unnumbered, numbered, unnumbered_numbered left, unnumbered_numbered right]
  | .and left right, n => by simp only [unnumbered, numbered, unnumbered_numbered left, unnumbered_numbered right]
  | .or left right, n => by simp only [unnumbered, numbered, unnumbered_numbered left, unnumbered_numbered right]
  | .xor left right, n => by simp only [unnumbered, numbered, unnumbered_numbered left, unnumbered_numbered right]
  | .not operand, n => by simp only [unnumbered, numbered, unnumbered_numbered operand]

theorem unnumberedAll_numberedAll : (es : List Expr) → (n : Nat) →
    unnumberedAll (numberedAll es n).1 = unnumberedAll es
  | [], _ => rfl
  | e :: es, n => by
      simp only [unnumberedAll, numberedAll, unnumbered_numbered e, unnumberedAll_numberedAll es]

end

theorem numbered_numbered (e : Expr) (n : Nat) : (e.numbered n).1.numbered n = e.numbered n := by
  rw [← numbered_unnumbered (e.numbered n).1, unnumbered_numbered, numbered_unnumbered]

end Expr

end CompiledRules
