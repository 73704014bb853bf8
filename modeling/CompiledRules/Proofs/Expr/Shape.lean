import CompiledRules.Expr.Meaning
import CompiledRules.Proofs.Except
import CompiledRules.Proofs.Expr.Parts
import CompiledRules.Proofs.Table
import Mathlib

/-!
# Rules of boolean shape

`HasShape` tells by the form of an expression whether its value can only be a boolean or null. With the built-in
operators such a rule has an answer on every record: operands that do not fit each other make a comparison false, and
what is missing is null.
-/

namespace CompiledRules

/-- What an expression can be relied on to come to. -/
inductive Shape where
  /-- A boolean, or null. -/
  | boolean
  | value
deriving DecidableEq

/-- The value is of the shape. -/
def Value.Fits : Shape → Value → Prop
  | .boolean, v => ∃ b, Expr.truthOf v = .ok b
  | .value, _ => True

@[simp] theorem Value.fits_value (v : Value) : v.Fits .value := trivial

@[simp] theorem Value.fits_bool (shape : Shape) (b : Bool) : (Value.bool b).Fits shape := by
  cases shape with
  | boolean => exact ⟨b, rfl⟩
  | value => trivial

/-! ## Built-in operators -/

namespace Operators

/-- How many arguments a built-in operator takes, and the shape of its answers. -/
def signature? : String → Option (Nat × Shape)
  | "is_null" => some (1, .boolean)
  | "length" => some (1, .value)
  | "like" => some (2, .boolean)
  | "lower" => some (1, .value)
  | "upper" => some (1, .value)
  | _ => none

theorem mem_builtinNames {name : String} {arity : Nat} {shape : Shape}
    (h : signature? name = some (arity, shape)) : name ∈ builtinNames := by
  unfold signature? at h
  split at h
  case h_6 => cases h
  all_goals decide

theorem call_is_null (v : Value) : builtin.call "is_null" [v] = .ok (.bool v.isNull) := rfl

/-- The operator `is_null` of the registry is the built-in one. -/
def NullIsBuiltin (operators : Operators) : Prop := ∀ args, operators.call "is_null" args = builtin.call "is_null" args

theorem nullIsBuiltin_builtin : builtin.NullIsBuiltin := fun _ => rfl

theorem unary_of_length {name : String} {meaning : Value → Value} {shape : Shape} {args : List Value}
    (h : args.length = 1) (hmeaning : ∀ v, (meaning v).Fits shape) :
    ∃ v, unary name meaning args = .ok v ∧ v.Fits shape := by
  obtain ⟨v, rfl⟩ := List.length_eq_one_iff.mp h
  exact ⟨meaning v, rfl, hmeaning v⟩

theorem likeOperator_of_length {args : List Value} (h : args.length = 2) :
    ∃ b, likeOperator args = .ok (.bool b) := by
  obtain ⟨l, r, rfl⟩ := List.length_eq_two.mp h
  unfold likeOperator
  split
  · exact ⟨_, rfl⟩
  · exact ⟨_, rfl⟩
  · rename_i hpair
    exact absurd rfl (hpair l r)

/-- A built-in operator answers every call with the right number of arguments. -/
theorem call_of_signature {name : String} {arity : Nat} {shape : Shape} {args : List Value}
    (h : signature? name = some (arity, shape)) (hargs : args.length = arity) :
    ∃ v, builtin.call name args = .ok v ∧ v.Fits shape := by
  unfold signature? at h
  split at h
  case h_3 =>
      cases h
      obtain ⟨b, hb⟩ := likeOperator_of_length hargs
      exact ⟨_, hb, Value.fits_bool _ _⟩
  case h_6 => cases h
  all_goals
    cases h
    exact unary_of_length hargs fun v => by simp

end Operators

/-! ## Shapes of expressions -/

namespace Expr

/-- The expression has the shape. Comparisons take any values, logic takes booleans, and the built-in operators are
called as they are declared. -/
inductive HasShape : Shape → Expr → Prop where
  | compare {op left right} : (∀ symbol, op ≠ .custom symbol) → HasShape .value left → HasShape .value right →
      HasShape .boolean (.compare op left right)
  | and {left right} : HasShape .boolean left → HasShape .boolean right → HasShape .boolean (.and left right)
  | or {left right} : HasShape .boolean left → HasShape .boolean right → HasShape .boolean (.or left right)
  | xor {left right} : HasShape .boolean left → HasShape .boolean right → HasShape .boolean (.xor left right)
  | not {operand} : HasShape .boolean operand → HasShape .boolean (.not operand)
  | bool {b} : HasShape .boolean (.literal (.bool b))
  | null : HasShape .boolean (.literal .null)
  | call {name args arity shape} : Operators.signature? name = some (arity, shape) → args.length = arity →
      (∀ arg ∈ args, HasShape .value arg) → HasShape shape (.call name args)
  | literal {v} : v.isFinite = true → HasShape .value (.literal v)
  | field {path} : HasShape .value (.field path)
  | parameter {p} : HasShape .value (.parameter p)
  | ofBoolean {e} : HasShape .boolean e → HasShape .value e

theorem mem_literalsAll {es : List Expr} {v : Value} (h : v ∈ literalsAll es) : ∃ e ∈ es, v ∈ e.literals := by
  induction es with
  | nil => cases h
  | cons e es ih =>
      rcases List.mem_append.mp h with h | h
      · exact ⟨e, List.mem_cons_self, h⟩
      · obtain ⟨e', hmem, hv⟩ := ih h
        exact ⟨e', List.mem_cons_of_mem _ hmem, hv⟩

/-- The literals of an expression that has a shape are finite. -/
theorem HasShape.isFinite {shape : Shape} {e : Expr} (h : HasShape shape e) : ∀ v ∈ e.literals, v.isFinite = true := by
  induction h with
  | compare _ _ _ hl hr | and _ _ hl hr | or _ _ hl hr | xor _ _ hl hr => exact List.forall_mem_append.mpr ⟨hl, hr⟩
  | not _ ih | ofBoolean _ ih => exact ih
  | bool | null => exact List.forall_mem_singleton.mpr rfl
  | literal hfinite => exact List.forall_mem_singleton.mpr hfinite
  | field | parameter => exact fun v hv => absurd hv List.not_mem_nil
  | call _ _ _ ih =>
      intro v hv
      obtain ⟨arg, hmem, hv⟩ := mem_literalsAll hv
      exact ih arg hmem v hv

/-! ## Values -/

theorem nullAnswer_builtin {env : Environment} (h : env.operators.NullIsBuiltin) (op : CompareOp) (v : Value) :
    nullAnswer env op v = .ok (.bool (if op = .eq then v.isNull else !v.isNull)) := by
  rw [nullAnswer, h, Operators.call_is_null]
  by_cases hop : op = .eq <;> simp only [hop, ↓reduceIte] <;> rfl

variable {strict : Bool} {env : Environment}

theorem evalAll_eq_ok {es : List Expr} (h : ∀ e ∈ es, ∃ v, e.eval strict env = .ok v) :
    ∃ values, evalAll strict env es = .ok values ∧ values.length = es.length := by
  induction es with
  | nil => exact ⟨[], rfl, rfl⟩
  | cons e es ih =>
      obtain ⟨v, hv⟩ := h e List.mem_cons_self
      obtain ⟨values, hvalues, hlength⟩ := ih fun e' hmem => h e' (List.mem_cons_of_mem _ hmem)
      refine ⟨v :: values, ?_, congrArg (· + 1) hlength⟩
      rw [evalAll, hv, hvalues]
      rfl

/-- A comparison of two values is a boolean. -/
theorem eval_compare {op : CompareOp} {left right : Expr} {l r : Value} (henv : env.operators = .builtin)
    (hl : left.eval strict env = .ok l) (hr : right.eval strict env = .ok r) :
    ∃ b, (Expr.compare op left right).eval strict env = .ok (.bool b) := by
  have hnull : env.operators.NullIsBuiltin := henv ▸ Operators.nullIsBuiltin_builtin
  rw [eval, hl, hr]
  split
  · exact ⟨_, nullAnswer_builtin hnull op r⟩
  · split
    · exact ⟨_, nullAnswer_builtin hnull op l⟩
    · by_cases hlike : op = .like
      · obtain ⟨b, hb⟩ := Operators.likeOperator_of_length (show [l, r].length = 2 from rfl)
        refine ⟨b, ?_⟩
        simp only [hlike, henv]
        exact hb
      · exact ⟨_, by simp only [hlike]; rfl⟩

section Logic

variable {left right : Expr} {a b : Bool}

/-- An expression that comes to a boolean or null holds or does not hold. -/
theorem holds_of_fits {e : Expr} (h : ∃ v, e.eval strict env = .ok v ∧ v.Fits .boolean) :
    ∃ b, e.holds strict env = .ok b := by
  obtain ⟨v, hv, b, hb⟩ := h
  exact ⟨b, Except.bind_eq_ok_iff.mpr ⟨v, hv, hb⟩⟩

theorem eval_and (hl : left.holds strict env = .ok a) (hr : right.holds strict env = .ok b) :
    (Expr.and left right).eval strict env = .ok (.bool (a && b)) := by
  obtain ⟨l, hl, ha⟩ := Except.bind_eq_ok_iff.mp hl
  obtain ⟨r, hr, hb⟩ := Except.bind_eq_ok_iff.mp hr
  rw [eval, hl, hr]
  cases a <;> simp only [bind, Except.bind, ha, hb] <;> rfl

theorem eval_or (hl : left.holds strict env = .ok a) (hr : right.holds strict env = .ok b) :
    (Expr.or left right).eval strict env = .ok (.bool (a || b)) := by
  obtain ⟨l, hl, ha⟩ := Except.bind_eq_ok_iff.mp hl
  obtain ⟨r, hr, hb⟩ := Except.bind_eq_ok_iff.mp hr
  rw [eval, hl, hr]
  cases a <;> simp only [bind, Except.bind, ha, hb] <;> rfl

theorem eval_xor (hl : left.holds strict env = .ok a) (hr : right.holds strict env = .ok b) :
    (Expr.xor left right).eval strict env = .ok (.bool (a != b)) := by
  obtain ⟨l, hl, ha⟩ := Except.bind_eq_ok_iff.mp hl
  obtain ⟨r, hr, hb⟩ := Except.bind_eq_ok_iff.mp hr
  rw [eval, hl, hr]
  simp only [bind, Except.bind, ha, hb]
  rfl

theorem eval_not (h : left.holds strict env = .ok a) : (Expr.not left).eval strict env = .ok (.bool !a) := by
  obtain ⟨l, hl, ha⟩ := Except.bind_eq_ok_iff.mp h
  rw [eval, hl]
  simp only [bind, Except.bind, ha]
  rfl

end Logic

/-- With the built-in operators, an expression that has a shape has a value of this shape. -/
theorem HasShape.eval {shape : Shape} {e : Expr} (h : HasShape shape e) (henv : env.operators = .builtin) :
    ∃ v, e.eval strict env = .ok v ∧ v.Fits shape := by
  induction h with
  | compare _ _ _ hl hr =>
      obtain ⟨l, hl, -⟩ := hl
      obtain ⟨r, hr, -⟩ := hr
      obtain ⟨b, hb⟩ := eval_compare henv hl hr
      exact ⟨_, hb, Value.fits_bool _ _⟩
  | and _ _ hl hr =>
      obtain ⟨a, ha⟩ := holds_of_fits hl
      obtain ⟨b, hb⟩ := holds_of_fits hr
      exact ⟨_, eval_and ha hb, Value.fits_bool _ _⟩
  | or _ _ hl hr =>
      obtain ⟨a, ha⟩ := holds_of_fits hl
      obtain ⟨b, hb⟩ := holds_of_fits hr
      exact ⟨_, eval_or ha hb, Value.fits_bool _ _⟩
  | xor _ _ hl hr =>
      obtain ⟨a, ha⟩ := holds_of_fits hl
      obtain ⟨b, hb⟩ := holds_of_fits hr
      exact ⟨_, eval_xor ha hb, Value.fits_bool _ _⟩
  | not _ ih =>
      obtain ⟨b, hb⟩ := holds_of_fits ih
      exact ⟨_, eval_not hb, Value.fits_bool _ _⟩
  | bool => exact ⟨_, rfl, Value.fits_bool _ _⟩
  | null => exact ⟨_, rfl, false, rfl⟩
  | call hsignature hlength _ ih =>
      obtain ⟨values, hvalues, hsame⟩ := evalAll_eq_ok fun arg hmem => (ih arg hmem).imp fun _ => And.left
      obtain ⟨v, hv, hfits⟩ := Operators.call_of_signature hsignature (hsame.trans hlength)
      refine ⟨v, ?_, hfits⟩
      rw [Expr.eval, hvalues, henv]
      exact hv
  | literal _ | field => exact ⟨_, rfl, trivial⟩
  | @parameter p => cases p <;> exact ⟨_, rfl, trivial⟩
  | ofBoolean _ ih => exact ih.imp fun _ h => ⟨h.1, trivial⟩

/-- A rule of boolean shape holds or does not hold. -/
theorem HasShape.holds {e : Expr} (h : HasShape .boolean e) (strict : Bool) (henv : env.operators = .builtin) :
    ∃ b, e.holds strict env = .ok b := holds_of_fits (h.eval henv)

end Expr

end CompiledRules
