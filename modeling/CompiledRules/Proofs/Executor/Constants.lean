import CompiledRules.Proofs.Executor.Load
import Mathlib

/-!
# Executors have their constants

Loading refuses a body that reads a constant that the unit does not have. So no constant is missing when the rule runs,
whichever parts of the body the record makes it run through.
-/

namespace CompiledRules

/-! ## Computations -/

/-- The computation does not fail for want of a constant. -/
def Defined {α : Type} (x : Except ExecutionError α) : Prop := ∀ name, x ≠ .error (.undefinedConstant name)

theorem defined_ok {α : Type} (a : α) : Defined (.ok a) := by
  intro name h
  cases h

theorem Defined.bind {α β : Type} {x : Except ExecutionError α} {f : α → Except ExecutionError β} (hx : Defined x)
    (hf : ∀ a, Defined (f a)) : Defined (x >>= f) := by
  intro name h
  rcases Except.bind_eq_error_iff.mp h with h | ⟨a, -, h⟩
  · exact hx name h
  · exact hf a name h

theorem defined_truth (v : Value) : Defined v.truth := by
  intro name h
  cases v <;> cases h

/-- A value is asked for its truth, and the computation goes on with it. -/
theorem Defined.bind_truth {α : Type} {x : Except ExecutionError Value} {f : Bool → Except ExecutionError α}
    (hx : Defined x) (hf : ∀ b, Defined (f b)) : Defined (x >>= fun v => v.truth >>= f) :=
  hx.bind fun v => (defined_truth v).bind hf

/-! ## Operators -/

namespace Operators

/-- No operator of the registry reports a missing constant. -/
def LeavesConstants (operators : Operators) : Prop :=
  ∀ name operator, operators.table.find? name = some operator → ∀ args, Defined (operator args)

theorem LeavesConstants.call {operators : Operators} (h : operators.LeavesConstants) (name : String)
    (args : List Value) : Defined (operators.call name args) := by
  unfold Operators.call
  split
  · rename_i operator hfind
    exact h name operator hfind args
  · intro constant h
    cases h

theorem leavesConstants_empty : empty.LeavesConstants := by
  intro name operator hfind
  cases hfind

theorem LeavesConstants.insert {operators : Operators} (h : operators.LeavesConstants) (name : String)
    {operator : Operator} (hoperator : ∀ args, Defined (operator args)) :
    (operators.insert name operator).LeavesConstants := by
  intro key found hfind
  rw [Operators.insert, Table.find?_insert] at hfind
  split at hfind
  · cases hfind
    exact hoperator
  · exact h key found hfind

theorem defined_unary (name : String) (meaning : Value → Value) (args : List Value) :
    Defined (unary name meaning args) := by
  intro constant h
  unfold unary at h
  split at h <;> cases h

theorem defined_likeOperator (args : List Value) : Defined (likeOperator args) := by
  intro constant h
  unfold likeOperator at h
  split at h <;> cases h

theorem leavesConstants_builtin : builtin.LeavesConstants :=
  ((((leavesConstants_empty.insert _ (defined_unary _ _)).insert _ (defined_unary _ _)).insert _
    defined_likeOperator).insert _ (defined_unary _ _)).insert _ (defined_unary _ _)

end Operators

/-! ## Bodies -/

namespace Node

/-- The table has a constant under every name. -/
def HasAll (data : Table Value) (names : List String) : Prop := ∀ name ∈ names, data.has name = true

theorem HasAll.append {data : Table Value} {names names' : List String} (h : HasAll data (names ++ names')) :
    HasAll data names ∧ HasAll data names' := List.forall_mem_append.mp h

variable {env : Environment} {data : Table Value}

theorem defined_this {name : String} (h : data.has name = true) : Defined ((Node.this name).eval env data) := by
  obtain ⟨value, hvalue⟩ := Option.isSome_iff_exists.mp h
  rw [Node.eval, hvalue]
  exact defined_ok value

mutual

theorem defined_eval (hoperators : env.operators.LeavesConstants) : (node : Node) → HasAll data node.constants →
    Defined (node.eval env data)
  | .literal _, _ => by rw [Node.eval]; exact defined_ok _
  | .target _, _ => by rw [Node.eval]; exact defined_ok _
  | .parameter _, _ => by rw [Node.eval]; exact defined_ok _
  | .this _, h => defined_this (h _ List.mem_cons_self)
  | .call name args, h => by
      rw [Node.eval]
      exact (defined_evalAll hoperators args h).bind fun values => hoperators.call name values
  | .compare op left right, h => by
      obtain ⟨hleft, hright⟩ := h.append
      rw [Node.eval]
      exact (defined_eval hoperators left hleft).bind fun l =>
        (defined_eval hoperators right hright).bind fun r => defined_ok _
  | .and left right, h => by
      obtain ⟨hleft, hright⟩ := h.append
      rw [Node.eval]
      refine (defined_eval hoperators left hleft).bind_truth fun l => ?_
      split
      · exact (defined_eval hoperators right hright).bind_truth fun r => defined_ok _
      · exact defined_ok _
  | .or left right, h => by
      obtain ⟨hleft, hright⟩ := h.append
      rw [Node.eval]
      refine (defined_eval hoperators left hleft).bind_truth fun l => ?_
      split
      · exact defined_ok _
      · exact (defined_eval hoperators right hright).bind_truth fun r => defined_ok _
  | .xor left right, h => by
      obtain ⟨hleft, hright⟩ := h.append
      rw [Node.eval]
      exact (defined_eval hoperators left hleft).bind_truth fun l =>
        (defined_eval hoperators right hright).bind_truth fun r => defined_ok _
  | .not operand, h => by
      rw [Node.eval]
      exact (defined_eval hoperators operand h).bind_truth fun b => defined_ok _

theorem defined_evalAll (hoperators : env.operators.LeavesConstants) : (nodes : List Node) →
    HasAll data (constantsAll nodes) → Defined (evalAll env data nodes)
  | [], _ => by rw [evalAll]; exact defined_ok _
  | node :: nodes, h => by
      obtain ⟨hnode, hnodes⟩ := h.append
      rw [evalAll]
      exact (defined_eval hoperators node hnode).bind fun value =>
        (defined_evalAll hoperators nodes hnodes).bind fun values => defined_ok _

end

end Node

/-! ## Executors -/

namespace Executor

variable {executor : Executor} {operators : Operators}

theorem defined_execute (hconstants : Node.HasAll executor.data executor.body.constants)
    (hoperators : operators.LeavesConstants) (record : Record) (parameters : Parameters) :
    Defined (executor.execute record operators parameters) :=
  Defined.bind (Node.defined_eval hoperators executor.body hconstants) defined_truth

theorem defined_keep {α : Type} {recordOf : α → Record} {parameters : Parameters}
    (hexecute : ∀ record, Defined (executor.execute record operators parameters)) (items : List α) :
    Defined (executor.keep recordOf operators parameters items) := by
  induction items with
  | nil => exact defined_ok []
  | cons item items ih =>
      rw [keep]
      exact (hexecute (recordOf item)).bind fun accepts => ih.bind fun kept => defined_ok _

/-- What was loaded, from whatever text, never runs into a missing constant, neither on one record nor in filtering
any number of them, unless an operator says so itself. -/
theorem constants_closed {source : String} {executor : Executor} (hload : load source = .ok executor)
    {operators : Operators} (hoperators : operators.LeavesConstants) (parameters : Parameters) :
    (∀ record constant, executor.execute record operators parameters ≠ .error (.undefinedConstant constant)) ∧
    ∀ records constant, executor.filter records operators parameters ≠ .error (.undefinedConstant constant) := by
  obtain ⟨-, unit, -, hloaded⟩ := loaded_of_load hload
  have hconstants : Node.HasAll executor.data executor.body.constants := by
    rw [hloaded.body]
    exact hloaded.defined
  have hexecute (record : Record) : Defined (executor.execute record operators parameters) :=
    defined_execute hconstants hoperators record parameters
  refine ⟨hexecute, fun records constant h => ?_⟩
  unfold filter filterBy at h
  split at h
  · exact defined_keep hexecute records constant h
  · cases h

/-- Code whose body reads constants where it depends on the record whether it gets there. -/
def guardedCode : GeneratedCode where
  body := "$target[\"a\"] && !($operators[\"length\"]($this->low) in $this->low) || $parameters[0] == $this->high"
  mixins := ["filter"]
  data := Table.ofEntries [("high", .int 3), ("low", .list [.int 1])]

theorem constants_closed_guardedCode : ∃ source executor,
    assemble (.ofNames (.ofIdentifier "0123456789abcdef0123456789abcdef") "hand" "r") guardedCode = .ok source ∧
    load source = .ok executor ∧ executor.body.constants = ["low", "low", "high"] ∧
    Operators.builtin.LeavesConstants ∧ ∀ parameters,
      (∀ record constant, executor.execute record .builtin parameters ≠ .error (.undefinedConstant constant)) ∧
      ∀ records constant, executor.filter records .builtin parameters ≠ .error (.undefinedConstant constant) := by
  have hid : Identifier.isIdentifier "0123456789abcdef0123456789abcdef" = true := by decide
  have hwritable : guardedCode.Writable := ⟨by decide, by decide, by decide⟩
  have hnode : Node.ofText guardedCode.body = .ok (.or
      (.and (.target ["a"]) (.not (.compare .isIn (.call "length" [.this "low"]) (.this "low"))))
      (.compare .eq (.parameter (.positional 0)) (.this "high"))) := by rfl
  have hassemble := (Assembly.assemble_eq_ok (isWord_name hid "hand" "r")).mpr ⟨hwritable, rfl⟩
  have hload := (load_unitText hid "hand" "r" hwritable rfl).mpr ⟨by decide, _, hnode, by decide, rfl⟩
  exact ⟨_, _, hassemble, hload, rfl, Operators.leavesConstants_builtin,
    constants_closed hload Operators.leavesConstants_builtin⟩

end Executor

end CompiledRules
