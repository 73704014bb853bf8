/-!
# Schedules

Callers that share a state take turns. A schedule says who arrives and who takes the next step, in which order.
-/

namespace CompiledRules

/-- A turn: a caller arrives with a request, or the one with the number takes its next step. The outcome is what comes
of a question that the step asks. -/
inductive Turn (ρ ω : Type) where
  | arrive (request : ρ)
  | act (number : Nat) (outcome : ω)

namespace Schedule

variable {σ τ : Type} (next : σ → τ → Option σ)

/-- The state after the turns, if none of them has to wait. -/
def play (s : σ) (turns : List τ) : Option σ := turns.foldlM next s

/-- The state after the turns, where one that has to wait is passed over. -/
def run (s : σ) (turns : List τ) : σ := turns.foldl (fun s turn => (next s turn).getD s) s

variable {next}

@[simp] theorem play_nil (s : σ) : play next s [] = some s := rfl

@[simp] theorem play_cons (s : σ) (turn : τ) (turns : List τ) :
    play next s (turn :: turns) = (next s turn).bind fun s => play next s turns := rfl

@[simp] theorem run_nil (s : σ) : run next s [] = s := rfl

@[simp] theorem run_cons (s : σ) (turn : τ) (turns : List τ) :
    run next s (turn :: turns) = run next ((next s turn).getD s) turns := rfl

theorem run_append (s : σ) (turns turns' : List τ) :
    run next s (turns ++ turns') = run next (run next s turns) turns' := List.foldl_append

section

variable {P : σ → Prop} {turns : List τ} (hnext : ∀ {s s' turn}, turn ∈ turns → P s → next s turn = some s' → P s')
include hnext

/-- What every turn preserves holds after all of them. -/
theorem play_preserves {s s' : σ} (hs : P s) (h : play next s turns = some s') : P s' := by
  induction turns generalizing s with
  | nil =>
      cases h
      exact hs
  | cons turn turns ih =>
      obtain ⟨s₁, hturn, h⟩ := Option.bind_eq_some_iff.mp h
      exact ih (fun hmem => hnext (List.mem_cons_of_mem _ hmem)) (hnext List.mem_cons_self hs hturn) h

theorem run_preserves {s : σ} (hs : P s) : P (run next s turns) := by
  induction turns generalizing s with
  | nil => exact hs
  | cons turn turns ih =>
      have ih {s : σ} : P s → P (run next s turns) := ih fun hmem => hnext (List.mem_cons_of_mem _ hmem)
      rw [run_cons]
      cases hturn : next s turn with
      | none => exact ih hs
      | some s' => exact ih (hnext List.mem_cons_self hs hturn)

end

end Schedule

end CompiledRules
