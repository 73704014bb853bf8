import CompiledRules.Node.Printer
import CompiledRules.Target.Basic

/-!
# The target for records in memory

An expression becomes a body that reads fields from the record and calls operators by name. Each list literal
becomes a constant of the unit.
-/

namespace CompiledRules

/-- The target that lets rules call the built-in operators and the given ones. -/
structure ArrayTarget where
  operators : List String := Operators.builtinNames

namespace ArrayTarget

/-- The variant of the target, also in its refusals. -/
def variant : String := "array"

/-- The option to ask the operator `is_null` where a rule compares with the null literal. -/
def strictNull : String := "array.strict_null"

/-- The target that also lets rules call the given operator. -/
def withOperator (target : ArrayTarget) (name : String) : ArrayTarget := ⟨target.operators ++ [name]⟩

/-- The name of the constant that holds the list literal with the given number. -/
def listName (number : Nat) : String := "list_" ++ String.ofList (Text.decimal number)

/-- Whether a comparison with this operand is compiled to a null test of the other one. -/
def testsNull (strict : Bool) (op : CompareOp) : Expr → Bool
  | .literal .null => strict && (op = .eq || op = .neq)
  | _ => false

/-- The test whether an operand is null, or is not. -/
def nullTest (op : CompareOp) (operand : Node) : Node :=
  let test := .call "is_null" [operand]
  if op = .eq then test else .not test

/-- The comparison of two bodies. Patterns are matched by an operator. -/
def compareNode (op : CompareOp) (left right : Node) : Node :=
  if op = .like then .call "like" [left, right] else .compare op left right

/-- A literal that stands in the body itself. -/
def literalNode (value : Value) : Except TargetError Node :=
  if value.isFinite then .ok (.literal value)
  else
    .error (.unsupported variant
      (String.ofList ("literal ".toList ++ value.display ++ ": non-finite float".toList)))

mutual

/-- The body of an expression. The list literals met so far go in and come out. -/
def lower (operators : List String) (strict : Bool) : Expr → List Value → Except TargetError (Node × List Value)
  | .literal (.list items), lists => .ok (.this (listName lists.length), lists ++ [.list items])
  | .literal value, lists => do return (← literalNode value, lists)
  | .field path, lists => .ok (.target (Text.segments path), lists)
  | .parameter p, lists => .ok (.parameter p, lists)
  | .call name args, lists =>
      if operators.contains name then do
        let (nodes, lists) ← lowerAll operators strict args lists
        return (.call name nodes, lists)
      else .error (.unknownOperator variant name)
  | .compare op left right, lists =>
      if testsNull strict op left then do
        let (node, lists) ← lower operators strict right lists
        return (nullTest op node, lists)
      else if testsNull strict op right then do
        let (node, lists) ← lower operators strict left lists
        return (nullTest op node, lists)
      else
        match op with
        | .custom symbol => .error (.unsupportedOperator variant symbol)
        | op => do
            let (l, lists) ← lower operators strict left lists
            let (r, lists) ← lower operators strict right lists
            return (compareNode op l r, lists)
  | .and left right, lists => do
      let (l, lists) ← lower operators strict left lists
      let (r, lists) ← lower operators strict right lists
      return (.and l r, lists)
  | .or left right, lists => do
      let (l, lists) ← lower operators strict left lists
      let (r, lists) ← lower operators strict right lists
      return (.or l r, lists)
  | .xor left right, lists => do
      let (l, lists) ← lower operators strict left lists
      let (r, lists) ← lower operators strict right lists
      return (.xor l r, lists)
  | .not operand, lists => do
      let (node, lists) ← lower operators strict operand lists
      return (.not node, lists)

/-- The bodies of several expressions, from left to right. -/
def lowerAll (operators : List String) (strict : Bool) :
    List Expr → List Value → Except TargetError (List Node × List Value)
  | [], lists => .ok ([], lists)
  | e :: es, lists => do
      let (node, lists) ← lower operators strict e lists
      let (nodes, lists) ← lowerAll operators strict es lists
      return (node :: nodes, lists)

end

/-- The constants of a unit: its list literals under their names. -/
def listTable (lists : List Value) : Table Value :=
  Table.ofEntries (lists.zipIdx.map fun (list, number) => (listName number, list))

/-- Compiles an expression. -/
def compile (target : ArrayTarget) (e : Expr) (context : Context) : Except TargetError GeneratedCode := do
  let (body, lists) ← lower target.operators (context.flag strictNull false) e []
  return { body := String.ofList body.display, mixins := ["filter"], data := listTable lists }

/-- The target for records in memory, as a target. -/
def toTarget (target : ArrayTarget) : Target := ⟨variant, target.compile⟩

end ArrayTarget

end CompiledRules
