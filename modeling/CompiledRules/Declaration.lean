import CompiledRules.Node.Grammar

/-!
# Reading units

A unit declares its rule, name, path and target, then mixins and constants, and one method with the body.
-/

namespace CompiledRules

/-- What a unit text declares. -/
structure Declaration where
  rule : String
  name : String
  path : String
  variant : String
  mixins : List String
  constants : List (String × Value)
  body : Node

namespace Declaration.Grammar

open CompiledRules.Parser

/-- A keyword between blanks. -/
def spacedKeyword (spelling : String) : Parser Unit := do
  blanks
  keyword spelling
  blanks

/-- A character after blanks. -/
def spacedChar (c : Char) : Parser Unit := do
  blanks
  char c

/-- A text after blanks. -/
def spacedText (text : String) : Parser Unit := do
  blanks
  exactly text.toList

/-- The comment that holds the rule. -/
def ruleComment : Parser String := expecting "rule comment" do
  spacedText "//"
  spacedText "rule:"
  blanks
  return String.ofList (← commit quotedText)

/-- The keyword, the name and the opening brace of a unit. -/
def unitName : Parser String := expecting "unit declaration" do
  spacedKeyword "unit"
  let name ← commit word
  blanks
  commit (char '\x7b')
  return String.ofList name

/-- A keyword with quoted text. -/
def directive (spelling : String) : Parser String := do
  spacedKeyword spelling
  let text ← commit quotedText
  blanks
  commit (char ';')
  return String.ofList text

/-- The use of a mixin. -/
def mixin : Parser String := do
  spacedKeyword "use"
  commit do
    let name ← word
    spacedChar ';'
    return String.ofList name

/-- A constant and its value. -/
def constant : Parser (String × Value) := do
  spacedKeyword "const"
  commit do
    let name ← word
    spacedChar '='
    let value ← value
    spacedChar ';'
    return (String.ofList name, value)

/-- The name of the method. -/
def methodName : Parser Unit := expecting "execute method" do
  spacedKeyword "fn"
  keyword "execute"
  spacedChar '('

/-- The parameters of the method, and its opening brace. -/
def methodSignature : Parser Unit := expecting "execute signature" do
  spacedText "$target"
  spacedChar ','
  spacedText "$operators"
  spacedChar ','
  spacedText "$parameters"
  spacedChar ')'
  spacedChar '\x7b'

/-- The method with the body. -/
def method : Parser Node := do
  methodName
  methodSignature
  blanks
  keyword "return"
  let body ← commit Node.Grammar.body
  blanks
  commit (char ';')
  blanks
  commit (char '\x7d')
  return body

/-- A whole unit. -/
def unit : Parser Declaration := do
  let rule ← ruleComment
  let name ← unitName
  let path ← directive "path"
  let variant ← directive "target"
  let mixins ← many mixin
  let constants ← many constant
  let body ← commit method
  blanks
  commit (char '\x7d')
  blanks
  return ⟨rule, name, path, variant, mixins, constants, body⟩

end Declaration.Grammar

end CompiledRules
