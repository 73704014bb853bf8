/-!
# Text patterns

In a pattern `%` stands for any run of characters, `_` for any one character, and every other character for
itself. Matching keeps, for each beginning of the text, whether the pattern read so far matches it.
-/

namespace CompiledRules.Operators

/-- Which texts a pattern stands for. -/
inductive Matches : List Char → List Char → Prop where
  | empty : Matches [] []
  | run {pattern text rest : List Char} : rest <:+ text → Matches pattern rest → Matches ('%' :: pattern) text
  | one {pattern text : List Char} {c : Char} : Matches pattern text → Matches ('_' :: pattern) (c :: text)
  | same {pattern text : List Char} {c : Char} :
      c ≠ '%' → c ≠ '_' → Matches pattern text → Matches (c :: pattern) (c :: text)

/-- Whether any entry up to here holds, at each place. -/
def runningOr : Bool → List Bool → List Bool
  | _, [] => []
  | seen, b :: rest => (seen || b) :: runningOr (seen || b) rest

/-- Which beginnings of the text match after one more character of the pattern. -/
def advance (text : List Char) (matched : List Bool) (p : Char) : List Bool :=
  if p = '%' then runningOr false matched
  else false :: List.zipWith (fun b c => b && (p == '_' || p == c)) matched text

/-- Whether the text matches the pattern. -/
def like (text pattern : List Char) : Bool :=
  (pattern.foldl (advance text) (true :: text.map fun _ => false)).getLastD false

end CompiledRules.Operators
