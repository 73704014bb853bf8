import CompiledRules.Text.Casing.Cased
import CompiledRules.Text.Casing.Mapping

/-!
# Lower and upper case

Whole texts are mapped by the full Unicode case mappings. One of these looks around: a capital sigma at the
end of a word becomes the final sigma.
-/

namespace CompiledRules.Text

/-- The lower-case form of a character that stands alone. -/
def lowerChar (c : Char) : List Char := mapCase lowerRuns lowerExpansions c

/-- The upper-case form of a character. -/
def upperChar (c : Char) : List Char := mapCase upperRuns upperExpansions c

/-- Whether the first character that is not case-ignorable exists and is cased. -/
def startsCased (text : List Char) : Bool :=
  match text.dropWhile isCaseIgnorable with
  | [] => false
  | c :: _ => isCased c

/-- Lower case of a text, given in reverse what stands before it. -/
def lowerAfter (before : List Char) : List Char → List Char
  | [] => []
  | c :: rest =>
      let image :=
        if c == 'Σ' then [if startsCased before && !startsCased rest then 'ς' else 'σ']
        else lowerChar c
      image ++ lowerAfter (c :: before) rest

/-- The text in lower case. -/
def lower (text : List Char) : List Char := lowerAfter [] text

/-- The text in upper case. -/
def upper (text : List Char) : List Char := text.flatMap upperChar

end CompiledRules.Text
