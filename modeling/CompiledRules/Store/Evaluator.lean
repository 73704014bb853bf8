import CompiledRules.CompileError
import CompiledRules.Event

/-!
# Evaluators

An evaluator answers for an identifier with a unit text. It may have one, or it produces one by the given
means and may keep it.
-/

namespace CompiledRules

/-- What was done in the course of a call. -/
structure Activity where
  log : List Event := []
  /-- How often a unit was produced. -/
  productions : Nat := 0
  /-- How often a target was asked to compile. -/
  targetCalls : Nat := 0
deriving DecidableEq

namespace Activity

/-- One activity after another. -/
def append (a b : Activity) : Activity :=
  ⟨a.log ++ b.log, a.productions + b.productions, a.targetCalls + b.targetCalls⟩

instance : Append Activity := ⟨append⟩

/-- Reporting one event. -/
def event (e : Event) : Activity := { log := [e] }

end Activity

/-- A unit text that was produced, or the reason why there is none. -/
structure Production where
  result : Except CompileError String
  activity : Activity

/-- The answer of an evaluator, and its state after it. -/
structure Evaluation (σ : Type) where
  result : Except CompileError String
  state : σ
  activity : Activity

/-- An evaluator with states of type `σ`: what it answers for an identifier, given how a unit is produced. -/
abbrev Evaluator (σ : Type) := σ → String → (Unit → Production) → Evaluation σ

end CompiledRules
