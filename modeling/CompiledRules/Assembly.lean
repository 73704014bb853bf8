import CompiledRules.Target.Basic

/-!
# Assembling units

A unit is one text that names the rule, the executor and the target, and carries the generated code. What
generated code gives by name must be a word, and every constant must have a literal.
-/

namespace CompiledRules

/-- What a unit says about itself. -/
structure Header where
  identifier : String
  name : String
  path : String
  variant : String
  rule : String
deriving DecidableEq

/-- The header of the unit for a pair of variant and rule. -/
def Header.ofNames (names : Names) (variant rule : String) : Header :=
  ⟨names.identifier, names.name, names.path, variant, rule⟩

/-- Why generated code cannot be written as a unit. -/
inductive AssemblyError where
  | nonLiteral (field : String)
  | invalidName (kind name : String)
deriving DecidableEq

/-- The reason in words. -/
def AssemblyError.message : AssemblyError → String
  | .nonLiteral field => "compiled data '" ++ field ++ "' has no literal form: non-finite float"
  | .invalidName kind name => "invalid " ++ kind ++ " name '" ++ name ++ "'"

namespace Assembly

/-- Accepts a word only. -/
def checkName (kind name : String) : Except AssemblyError Unit :=
  if Text.isWord name.toList then .ok () else .error (.invalidName kind name)

/-- One line per mixin. -/
def mixinLines : List String → Except AssemblyError Text
  | [] => .ok []
  | mixin :: mixins => do
      checkName "mixin" mixin
      return "    use ".toList ++ mixin.toList ++ ";\n".toList ++ (← mixinLines mixins)

/-- One line per constant. -/
def constantLines : List (String × Value) → Except AssemblyError Text
  | [] => .ok []
  | (key, value) :: rest => do
      checkName "field" key
      match value.literal? with
      | none => .error (.nonLiteral key)
      | some literal =>
          return "    const ".toList ++ key.toList ++ " = ".toList ++ literal ++ ";\n".toList ++ (← constantLines rest)

/-- A group of lines after an empty line, or nothing. -/
def paragraph (lines : Text) : Text := if lines.isEmpty then [] else '\n' :: lines

/-- The lines that come before mixins and constants. -/
def opening (header : Header) : Text :=
  "// rule: ".toList ++ Text.quoted header.rule.toList ++ '\n' ::
    "unit ".toList ++ header.name.toList ++ " \x7b\n".toList ++
    "    path ".toList ++ Text.quoted header.path.toList ++ ";\n".toList ++
    "    target ".toList ++ Text.quoted header.variant.toList ++ ";\n".toList

/-- The line before the body. -/
def signature : Text := "    fn execute($target, $operators, $parameters) \x7b\n        return ".toList

/-- The lines after the body. -/
def closing : Text := ";\n    \x7d\n\x7d\n".toList

end Assembly

/-- The unit text of a header and generated code. -/
def assemble (header : Header) (code : GeneratedCode) : Except AssemblyError String := do
  Assembly.checkName "unit" header.name
  let mixins ← Assembly.mixinLines code.mixins
  let constants ← Assembly.constantLines code.data.entries
  return String.ofList <| Assembly.opening header ++ Assembly.paragraph mixins ++ Assembly.paragraph constants ++
    '\n' :: Assembly.signature ++ code.body.toList ++ Assembly.closing

end CompiledRules
