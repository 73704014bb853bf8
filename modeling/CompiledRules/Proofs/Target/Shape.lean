import CompiledRules.Proofs.Expr.Shape
import CompiledRules.Proofs.Target.Meaning
import Mathlib

/-!
# Compiled rules of boolean shape

The target with the built-in operators compiles every expression that has a shape. The executor of a rule of boolean
shape has an answer on every record, for all parameters.
-/

namespace CompiledRules.ArrayTarget

/-! ## Lowering -/

variable {operators : List String} {strict : Bool}

/-- The expression is lowered, whatever lists were met before. -/
def Accepts (operators : List String) (strict : Bool) (e : Expr) : Prop :=
  ∀ lists, ∃ lowered, lower operators strict e lists = .ok lowered

theorem accepts_literal {v : Value} (h : v.isFinite = true) : Accepts operators strict (.literal v) := by
  intro lists
  have hnode : literalNode v = .ok (.literal v) := literalNode_eq_ok.mpr ⟨h, rfl⟩
  cases v with
  | list items => exact ⟨_, rfl⟩
  | _ => exact ⟨_, by simp only [lower, hnode]; rfl⟩

theorem lowerAll_of_accepts {es : List Expr} (h : ∀ e ∈ es, Accepts operators strict e) (lists : List Value) :
    ∃ lowered, lowerAll operators strict es lists = .ok lowered := by
  induction es generalizing lists with
  | nil => exact ⟨_, rfl⟩
  | cons e es ih =>
      obtain ⟨⟨node, lists'⟩, hnode⟩ := h e List.mem_cons_self lists
      obtain ⟨⟨nodes, lists''⟩, hnodes⟩ := ih (fun e' hmem => h e' (List.mem_cons_of_mem _ hmem)) lists'
      refine ⟨(node :: nodes, lists''), ?_⟩
      rw [lowerAll, hnode]
      simp only [bind, Except.bind, hnodes]
      rfl

/-- Two operands are lowered one after the other. -/
theorem lower_both {left right : Expr} (hl : Accepts operators strict left) (hr : Accepts operators strict right)
    (lists : List Value) (join : Node → Node → Node) :
    ∃ lowered, (do
      let (l, lists) ← lower operators strict left lists
      let (r, lists) ← lower operators strict right lists
      return (join l r, lists) : Except TargetError (Node × List Value)) = .ok lowered := by
  obtain ⟨⟨l, lists'⟩, hl⟩ := hl lists
  obtain ⟨⟨r, lists''⟩, hr⟩ := hr lists'
  refine ⟨(join l r, lists''), ?_⟩
  simp only [bind, Except.bind, hl, hr]
  rfl

/-- One operand is lowered. -/
theorem lower_one {operand : Expr} (h : Accepts operators strict operand) (lists : List Value) (wrap : Node → Node) :
    ∃ lowered, (do
      let (node, lists) ← lower operators strict operand lists
      return (wrap node, lists) : Except TargetError (Node × List Value)) = .ok lowered := by
  obtain ⟨⟨node, lists'⟩, hnode⟩ := h lists
  refine ⟨(wrap node, lists'), ?_⟩
  simp only [bind, Except.bind, hnode]
  rfl

theorem accepts_compare {op : CompareOp} {left right : Expr} (hop : ∀ symbol, op ≠ .custom symbol)
    (hl : Accepts operators strict left) (hr : Accepts operators strict right) :
    Accepts operators strict (.compare op left right) := by
  intro lists
  unfold lower
  -- A null test lowers the other operand only.
  split
  · exact lower_one hr lists _
  · split
    · exact lower_one hl lists _
    · split
      · exact absurd rfl (hop _)
      · exact lower_both hl hr lists _

theorem accepts_of_hasShape {shape : Shape} {e : Expr} (h : e.HasShape shape)
    (hoperators : Operators.builtinNames ⊆ operators) : Accepts operators strict e := by
  induction h with
  | compare hop _ _ hl hr => exact accepts_compare hop hl hr
  | and _ _ hl hr | or _ _ hl hr | xor _ _ hl hr =>
      intro lists
      rw [lower]
      exact lower_both hl hr lists _
  | not _ ih =>
      intro lists
      rw [lower]
      exact lower_one ih lists _
  | bool | null => exact accepts_literal rfl
  | literal hfinite => exact accepts_literal hfinite
  | field | parameter => exact fun lists => ⟨_, rfl⟩
  | ofBoolean _ ih => exact ih
  | @call name args arity shape hsignature _ _ ih =>
      intro lists
      have hname : operators.contains name = true :=
        List.contains_iff_mem.mpr (hoperators (Operators.mem_builtinNames hsignature))
      obtain ⟨⟨nodes, lists'⟩, hnodes⟩ := lowerAll_of_accepts ih lists
      refine ⟨(.call name nodes, lists'), ?_⟩
      rw [lower, if_pos hname, hnodes]
      rfl

/-! ## Executors -/

/-- A rule of boolean shape is compiled by every target that knows the built-in operators, with and without strict null
tests. Whatever target compiles it, its unit is assembled and loaded, and with the built-in operators the executor
answers on every record with all parameters. -/
theorem execute_boolean {e : Expr} (he : e.HasShape .boolean) (hindices : ∀ p ∈ e.parameters, p.InRange)
    (target : ArrayTarget) (context : Context) :
    (Operators.builtinNames ⊆ target.operators → ∃ code, target.compile e context = .ok code) ∧
    ∀ code, target.compile e context = .ok code →
      ∀ identifier, Identifier.isIdentifier identifier = true → ∀ variant rule,
        ∃ source executor, assemble (.ofNames (.ofIdentifier identifier) variant rule) code = .ok source ∧
          Executor.load source = .ok executor ∧
          ∀ record parameters, ∃ answer, executor.execute record .builtin parameters = .ok answer := by
  refine ⟨fun hoperators => ?_, fun code hcode identifier hid variant rule => ?_⟩
  · have haccepts : Accepts target.operators (context.flag strictNull false) e := accepts_of_hasShape he hoperators
    obtain ⟨⟨node, lists⟩, hlower⟩ := haccepts []
    exact ⟨_, by rw [compile, hlower]; rfl⟩
  · have hfinite : ∀ list ∈ e.lists, list.isFinite = true :=
      fun list hlist => he.isFinite list (List.mem_of_mem_filter hlist)
    obtain ⟨source, executor, hassemble, hload, hexecute⟩ :=
      executor_of_compile hindices hcode hid variant rule hfinite
    refine ⟨source, executor, hassemble, hload, fun record parameters => ?_⟩
    rw [hexecute]
    exact he.holds _ rfl

/-- A rule that compares a comparison, asks for the length of anything, and matches what need not be a text. -/
def mixedRule : Expr :=
  .xor (.not (.call "is_null" [.call "length" [.parameter (.positional 0)]]))
    (.or (.compare .neq (.compare .isIn (.field "a.b") (.literal (.list [.int 1, .string "x"]))) (.literal .null))
      (.call "like" [.call "upper" [.field "a"], .literal (.int 7)]))

theorem hasShape_mixedRule : mixedRule.HasShape .boolean := by
  have hlength : (Expr.call "length" [.parameter (.positional 0)]).HasShape .value :=
    .call rfl rfl (List.forall_mem_singleton.mpr .parameter)
  have hmember : (Expr.compare .isIn (.field "a.b") (.literal (.list [.int 1, .string "x"]))).HasShape .boolean :=
    .compare (by simp) .field (.literal rfl)
  have hupper : (Expr.call "upper" [.field "a"]).HasShape .value := .call rfl rfl (List.forall_mem_singleton.mpr .field)
  exact .xor (.not (.call rfl rfl (List.forall_mem_singleton.mpr hlength)))
    (.or (.compare (by simp) (.ofBoolean hmember) (.literal rfl))
      (.call rfl rfl (List.forall_mem_cons.mpr ⟨hupper, List.forall_mem_singleton.mpr (.literal rfl)⟩)))

theorem execute_boolean_mixedRule : mixedRule.HasShape .boolean ∧ ∃ code source executor,
    ArrayTarget.compile {} mixedRule (Context.set {} strictNull (.bool true)) = .ok code ∧
    assemble (.ofNames (.ofIdentifier "0123456789abcdef0123456789abcdef") "array" "\"") code = .ok source ∧
    Executor.load source = .ok executor ∧
    ∀ record parameters, ∃ answer, executor.execute record .builtin parameters = .ok answer := by
  have hindices : ∀ p ∈ mixedRule.parameters, p.InRange := by
    simp [mixedRule, Expr.parameters, Expr.parametersAll, Parameter.InRange]
  obtain ⟨hcompiles, hanswers⟩ :=
    execute_boolean hasShape_mixedRule hindices {} (Context.set {} strictNull (.bool true))
  obtain ⟨code, hcode⟩ := hcompiles (List.Subset.refl _)
  obtain ⟨source, executor, hexecutor⟩ :=
    hanswers code hcode "0123456789abcdef0123456789abcdef" (by decide) "array" "\""
  exact ⟨hasShape_mixedRule, code, source, executor, hcode, hexecutor⟩

end CompiledRules.ArrayTarget
