import CompiledRules.Proofs.Target.Shape
import Mathlib

/-!
# Strict null tests

With strict null tests the target asks the operator `is_null` where a rule compares for equality or inequality with the
null literal. Code is refused for the same reasons and carries the same lists either way. A rule without an inequality
with the null literal gives the same answers, for a comparison of null with anything else is false and not an error.
-/

namespace CompiledRules

/-! ## Values of rules -/

namespace Expr

mutual

/-- Whether an inequality with the null literal, on either side, stands anywhere in the expression. -/
def deniesNull : Expr → Bool
  | .literal _ => false
  | .field _ => false
  | .parameter _ => false
  | .call _ args => anyDeniesNull args
  | .compare op left right =>
      op = .neq && (isNullLiteral left || isNullLiteral right) || deniesNull left || deniesNull right
  | .and left right => deniesNull left || deniesNull right
  | .or left right => deniesNull left || deniesNull right
  | .xor left right => deniesNull left || deniesNull right
  | .not operand => deniesNull operand

/-- Whether one of the expressions has such an inequality. -/
def anyDeniesNull : List Expr → Bool
  | [] => false
  | e :: es => deniesNull e || anyDeniesNull es

end

theorem eq_of_asksNull {strict : Bool} {op : CompareOp} {operand : Expr} (h : asksNull strict op operand = true)
    (hop : op = .neq → isNullLiteral operand = false) : op = .eq ∧ operand = .literal .null := by
  rw [← ArrayTarget.testsNull_eq] at h
  obtain ⟨heq | hneq, rfl⟩ := ArrayTarget.of_testsNull h
  · exact ⟨heq, rfl⟩
  · cases hop hneq

@[simp] theorem asksNull_false (op : CompareOp) (operand : Expr) : asksNull false op operand = false := rfl

theorem compare?_null_left (v : Value) : (Value.compare? .eq .null v).getD false = v.isNull := by
  cases v <;> rfl

theorem compare?_null_right (v : Value) : (Value.compare? .eq v .null).getD false = v.isNull := by
  cases v <;> rfl

variable {env : Environment}

mutual

theorem eval_strict (hnull : env.operators.NullIsBuiltin) :
    (e : Expr) → e.deniesNull = false → e.eval true env = e.eval false env
  | .literal _, _ => by rw [eval, eval]
  | .field _, _ => by rw [eval, eval]
  | .parameter (.named _), _ => by rw [eval, eval]
  | .parameter (.positional _), _ => by rw [eval, eval]
  | .call name args, h => by rw [eval, eval, evalAll_strict hnull args h]
  | .compare op left right, h => by
      simp only [deniesNull, Bool.or_eq_false_iff] at h
      obtain ⟨⟨hop, hleft⟩, hright⟩ := h
      rw [eval, eval, eval_strict hnull left hleft, eval_strict hnull right hright]
      simp only [asksNull_false, Bool.false_eq_true, ↓reduceIte]
      have hsides : op = .neq → isNullLiteral left = false ∧ isNullLiteral right = false := by
        intro hneq
        simpa [hneq] using hop
      -- The question whether the other operand is null has the answer of the comparison that it stands for.
      split
      · rename_i hasks
        obtain ⟨rfl, rfl⟩ := eq_of_asksNull hasks fun hneq => (hsides hneq).1
        cases right.eval false env with
        | error e => rfl
        | ok v =>
            refine (nullAnswer_builtin hnull .eq v).trans ?_
            rw [← compare?_null_left v]
            rfl
      · split
        · rename_i hasks
          obtain ⟨rfl, rfl⟩ := eq_of_asksNull hasks fun hneq => (hsides hneq).2
          cases left.eval false env with
          | error e => rfl
          | ok v =>
              refine (nullAnswer_builtin hnull .eq v).trans ?_
              rw [← compare?_null_right v]
              rfl
        · rfl
  | .and left right, h => by
      obtain ⟨hleft, hright⟩ := Bool.or_eq_false_iff.mp h
      rw [eval, eval, eval_strict hnull left hleft, eval_strict hnull right hright]
  | .or left right, h => by
      obtain ⟨hleft, hright⟩ := Bool.or_eq_false_iff.mp h
      rw [eval, eval, eval_strict hnull left hleft, eval_strict hnull right hright]
  | .xor left right, h => by
      obtain ⟨hleft, hright⟩ := Bool.or_eq_false_iff.mp h
      rw [eval, eval, eval_strict hnull left hleft, eval_strict hnull right hright]
  | .not operand, h => by rw [eval, eval, eval_strict hnull operand h]

theorem evalAll_strict (hnull : env.operators.NullIsBuiltin) :
    (es : List Expr) → anyDeniesNull es = false → evalAll true env es = evalAll false env es
  | [], _ => by rw [evalAll, evalAll]
  | e :: es, h => by
      obtain ⟨he, hes⟩ := Bool.or_eq_false_iff.mp h
      rw [evalAll, evalAll, eval_strict hnull e he, evalAll_strict hnull es hes]

end

theorem holds_strict (hnull : env.operators.NullIsBuiltin) {e : Expr} (h : e.deniesNull = false) :
    e.holds true env = e.holds false env := by
  rw [holds, holds, eval_strict hnull e h]

end Expr

@[simp] theorem Context.flag_set (context : Context) (key : String) (b default : Bool) :
    (context.set key (.bool b)).flag key default = b := by
  simp [Context.flag, Context.get?, Context.set, Value.asBool?]

namespace ArrayTarget

/-! ## Lowering -/

/-- Both are refused for the same reason, or both are lowered and the same lists were met. -/
inductive SameLists {α : Type} : Except TargetError (α × List Value) → Except TargetError (α × List Value) → Prop where
  | refused {error} : SameLists (.error error) (.error error)
  | lowered {a b lists} : SameLists (.ok (a, lists)) (.ok (b, lists))

theorem SameLists.refl {α : Type} (x : Except TargetError (α × List Value)) : SameLists x x := by
  cases x with
  | error error => exact .refused
  | ok lowered => exact .lowered

theorem SameLists.bind {α β : Type} {x y : Except TargetError (α × List Value)}
    {f g : α × List Value → Except TargetError (β × List Value)} (h : SameLists x y)
    (hfg : ∀ a b lists, SameLists (f (a, lists)) (g (b, lists))) : SameLists (x >>= f) (y >>= g) := by
  cases h with
  | refused => exact .refused
  | lowered => exact hfg _ _ _

@[simp] theorem testsNull_false (op : CompareOp) (operand : Expr) : testsNull false op operand = false :=
  testsNull_eq op operand

variable {operators : List String}

mutual

theorem lower_sameLists : (e : Expr) → (lists : List Value) →
    SameLists (lower operators true e lists) (lower operators false e lists)
  | .literal value, lists => by cases value <;> exact .refl _
  | .field _, _ => .lowered
  | .parameter _, _ => .lowered
  | .call name args, lists => by
      rw [lower, lower]
      split
      · exact (lowerAll_sameLists args lists).bind fun _ _ _ => .lowered
      · exact .refused
  | .compare op left right, lists => by
      unfold lower
      simp only [testsNull_false, Bool.false_eq_true, ↓reduceIte]
      -- The null literal that a question leaves out is never refused and adds no list.
      split
      · rename_i hasks
        obtain ⟨rfl | rfl, rfl⟩ := of_testsNull hasks
        · exact (lower_sameLists right lists).bind fun _ _ _ => .lowered
        · exact (lower_sameLists right lists).bind fun _ _ _ => .lowered
      · split
        · rename_i hasks
          obtain ⟨rfl | rfl, rfl⟩ := of_testsNull hasks
          · exact (lower_sameLists left lists).bind fun _ _ _ => .lowered
          · exact (lower_sameLists left lists).bind fun _ _ _ => .lowered
        · split
          · exact .refused
          · exact (lower_sameLists left lists).bind fun _ _ lists =>
              (lower_sameLists right lists).bind fun _ _ _ => .lowered
  | .and left right, lists => by
      rw [lower, lower]
      exact (lower_sameLists left lists).bind fun _ _ lists => (lower_sameLists right lists).bind fun _ _ _ => .lowered
  | .or left right, lists => by
      rw [lower, lower]
      exact (lower_sameLists left lists).bind fun _ _ lists => (lower_sameLists right lists).bind fun _ _ _ => .lowered
  | .xor left right, lists => by
      rw [lower, lower]
      exact (lower_sameLists left lists).bind fun _ _ lists => (lower_sameLists right lists).bind fun _ _ _ => .lowered
  | .not operand, lists => by
      rw [lower, lower]
      exact (lower_sameLists operand lists).bind fun _ _ _ => .lowered

theorem lowerAll_sameLists : (es : List Expr) → (lists : List Value) →
    SameLists (lowerAll operators true es lists) (lowerAll operators false es lists)
  | [], _ => .lowered
  | e :: es, lists => by
      rw [lowerAll, lowerAll]
      exact (lower_sameLists e lists).bind fun _ _ lists => (lowerAll_sameLists es lists).bind fun _ _ _ => .lowered

end

/-! ## Compilation -/

theorem compile_alike (target : ArrayTarget) (e : Expr) (context : Context) :
    (∃ error, target.compile e (context.set strictNull (.bool true)) = .error error ∧
      target.compile e (context.set strictNull (.bool false)) = .error error) ∨
    ∃ strict plain, target.compile e (context.set strictNull (.bool true)) = .ok strict ∧
      target.compile e (context.set strictNull (.bool false)) = .ok plain ∧
      strict.mixins = plain.mixins ∧ strict.data = plain.data := by
  have hlists : SameLists (lower target.operators true e []) (lower target.operators false e []) :=
    lower_sameLists e []
  simp only [compile, Context.flag_set]
  generalize lower target.operators true e [] = strict at hlists ⊢
  generalize lower target.operators false e [] = plain at hlists ⊢
  cases hlists with
  | refused => exact Or.inl ⟨_, rfl, rfl⟩
  | lowered => exact Or.inr ⟨_, _, rfl, rfl, rfl, rfl⟩

/-- With and without strict null tests, the target refuses a rule for the same reason, or compiles it to code with the
same mixins and constants. If no inequality with the null literal stands in the rule, then the executors of both units,
under whatever headers they were assembled and loaded, give the same answer or fail alike on every record, for all
parameters and all operators of which `is_null` is the built-in one. -/
theorem compile_strictNull (target : ArrayTarget) (e : Expr) (context : Context) :
    (∃ error, target.compile e (context.set strictNull (.bool true)) = .error error ∧
      target.compile e (context.set strictNull (.bool false)) = .error error) ∨
    ∃ strict plain, target.compile e (context.set strictNull (.bool true)) = .ok strict ∧
      target.compile e (context.set strictNull (.bool false)) = .ok plain ∧
      strict.mixins = plain.mixins ∧ strict.data = plain.data ∧
      (e.deniesNull = false → (∀ p ∈ e.parameters, p.InRange) →
        ∀ header source executor, assemble header strict = .ok source → Executor.load source = .ok executor →
        ∀ header' source' executor', assemble header' plain = .ok source' → Executor.load source' = .ok executor' →
        ∀ record operators parameters, operators.NullIsBuiltin →
          executor.execute record operators parameters = executor'.execute record operators parameters) := by
  rcases compile_alike target e context with hrefused | ⟨strict, plain, hstrict, hplain, hmixins, hdata⟩
  · exact Or.inl hrefused
  · refine Or.inr ⟨strict, plain, hstrict, hplain, hmixins, hdata, ?_⟩
    intro hnull hindices header source executor hassemble hload header' source' executor' hassemble' hload' record
      operators parameters hoperators
    rw [execute_of_load hindices hstrict hassemble hload, execute_of_load hindices hplain hassemble' hload',
      Context.flag_set, Context.flag_set]
    exact Expr.holds_strict hoperators hnull

/-- A rule that compares null with a call and a field, and a list with something else. -/
def nullRule : Expr :=
  .or (.compare .eq (.literal .null) (.call "length" [.parameter (.positional 0)]))
    (.not (.and (.compare .eq (.field "a.b") (.literal .null))
      (.compare .neq (.literal (.list [.null])) (.compare .isIn (.literal .null) (.literal (.list [.int 1, .null]))))))

theorem compile_strictNull_nullRule : nullRule.deniesNull = false ∧ (∀ p ∈ nullRule.parameters, p.InRange) ∧
    Operators.builtin.NullIsBuiltin ∧ ∃ strict plain source executor source' executor',
      ArrayTarget.compile {} nullRule (Context.set {} strictNull (.bool true)) = .ok strict ∧
      ArrayTarget.compile {} nullRule (Context.set {} strictNull (.bool false)) = .ok plain ∧
      strict.body ≠ plain.body ∧ strict.mixins = plain.mixins ∧ strict.data = plain.data ∧
      assemble (.ofNames (.ofIdentifier "0123456789abcdef0123456789abcdef") "array" "r") strict = .ok source ∧
      Executor.load source = .ok executor ∧
      assemble (.ofNames (.ofIdentifier "0123456789abcdef0123456789abcdef") "array" "r") plain = .ok source' ∧
      Executor.load source' = .ok executor' ∧ ∀ record parameters,
        executor.execute record .builtin parameters = executor'.execute record .builtin parameters := by
  have hnull : nullRule.deniesNull = false := by decide
  have hindices : ∀ p ∈ nullRule.parameters, p.InRange := by
    simp [nullRule, Expr.parameters, Expr.parametersAll, Parameter.InRange]
  have hfinite : ∀ list ∈ nullRule.lists, list.isFinite = true := by
    simp [nullRule, Expr.lists, Expr.literals, Expr.literalsAll, Value.isList, Value.isFinite, Value.allFinite]
  have hid : Identifier.isIdentifier "0123456789abcdef0123456789abcdef" = true := by decide
  have hbodies : (ArrayTarget.compile {} nullRule (Context.set {} strictNull (.bool true))).map GeneratedCode.body ≠
      (ArrayTarget.compile {} nullRule (Context.set {} strictNull (.bool false))).map GeneratedCode.body := by
    decide +kernel
  refine ⟨hnull, hindices, Operators.nullIsBuiltin_builtin, ?_⟩
  rcases compile_strictNull {} nullRule {} with
    ⟨error, hrefused, -⟩ | ⟨strict, plain, hstrict, hplain, hmixins, hdata, hexecute⟩
  · cases hrefused
  · obtain ⟨source, executor, hassemble, hload, -⟩ := executor_of_compile hindices hstrict hid "array" "r" hfinite
    obtain ⟨source', executor', hassemble', hload', -⟩ := executor_of_compile hindices hplain hid "array" "r" hfinite
    rw [hstrict, hplain] at hbodies
    have hsame := hexecute hnull hindices _ _ _ hassemble hload _ _ _ hassemble' hload'
    exact ⟨strict, plain, source, executor, source', executor', hstrict, hplain,
      fun heq => hbodies (congrArg Except.ok heq), hmixins, hdata, hassemble, hload, hassemble', hload',
      fun record parameters => hsame record .builtin parameters Operators.nullIsBuiltin_builtin⟩

/-- An inequality with the null literal holds of what is not null only if null tests are strict. -/
example :
    let rule : Expr := .compare .neq (.field "a") (.literal .null)
    let env : Environment := ⟨Record.empty.insert "a" (.int 1), .builtin, {}⟩
    rule.deniesNull = true ∧ rule.holds true env = .ok true ∧ rule.holds false env = .ok false :=
  ⟨rfl, rfl, rfl⟩

end ArrayTarget

end CompiledRules
