/-!
# Sets of code points
-/

namespace CompiledRules.Text

/-- Whether a number lies in the set whose ranges begin and end in turn at the given increasing boundaries. -/
def inRanges (boundaries : List Nat) (n : Nat) : Bool := boundaries.countP (· ≤ n) % 2 == 1

end CompiledRules.Text
