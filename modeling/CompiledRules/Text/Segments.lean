import CompiledRules.Text.Basic

/-!
# Dotted paths
-/

namespace CompiledRules.Text

/-- The parts of a text between the given separators; there is always at least one. -/
def splitAt (separator : Char) : Text → List Text
  | [] => [[]]
  | c :: rest =>
      if c = separator then [] :: splitAt separator rest
      else
        match splitAt separator rest with
        | [] => [[c]]
        | part :: parts => (c :: part) :: parts

/-- The segments of a dotted path. -/
def segments (path : String) : List String := (splitAt '.' path.toList).map String.ofList

theorem splitAt_ne_nil (separator : Char) (text : Text) : splitAt separator text ≠ [] := by
  induction text with
  | nil => simp [splitAt]
  | cons c text ih =>
      rw [splitAt]
      split
      · simp
      · split <;> simp

theorem segments_ne_nil (path : String) : segments path ≠ [] := by
  simpa [segments] using splitAt_ne_nil '.' path.toList

end CompiledRules.Text
