import CompiledRules.Proofs.Expr.Parts
import CompiledRules.Proofs.Expr.Reads

/-!
# Expressions that a rule can write

An expression is readable if a rule can write all its names. A path that starts with `not` can only stand right after a
comparison operator, where no `not` is looked for.
-/

namespace CompiledRules

open CompiledRules.Parser

/-- A rule can write the parameter. -/
def Parameter.Readable : Parameter → Prop
  | .named name => Text.isWord name.toList = true
  | .positional _ => True

namespace Expr

/-- The path is words with dots between them. The first one is no value, and a single one is not reserved. Only after an
operator the first one may be `not`. -/
def ReadablePath (afterOperator : Bool) (path : String) : Prop :=
  ∃ first others, path.toList = List.intercalate ['.'] (first :: others) ∧
    (∀ w ∈ first :: others, Text.isWord w = true) ∧ (∀ spelling ∈ valueWords, ¬ Spells spelling first) ∧
    (others = [] → Grammar.isReserved first = false) ∧ (afterOperator = false → ¬ Spells "not" first)

mutual

/-- A rule can write every part of the expression, which may stand right after a comparison operator or not. -/
def Readable (afterOperator : Bool) : Expr → Prop
  | .literal _ => True
  | .field path => ReadablePath afterOperator path
  | .parameter p => p.Readable
  | .call name args =>
      Text.isWord name.toList = true ∧ Grammar.isReserved name.toList = false ∧ ReadableAll args
  | .compare op left right => op.Readable ∧ Readable false left ∧ Readable true right
  | .and left right => Readable false left ∧ Readable false right
  | .or left right => Readable false left ∧ Readable false right
  | .xor left right => Readable false left ∧ Readable false right
  | .not operand => Readable false operand

/-- A rule can write every part of the expressions as arguments. -/
def ReadableAll : List Expr → Prop
  | [] => True
  | e :: es => Readable false e ∧ ReadableAll es

end

theorem readableAll_iff (es : List Expr) : ReadableAll es ↔ ∀ e ∈ es, e.Readable false := by
  induction es with
  | nil => simp [ReadableAll]
  | cons e es ih => simp [ReadableAll, ih]

mutual

theorem Readable.numbered {afterOperator : Bool} : (e : Expr) → (n : Nat) → e.Readable afterOperator →
    (e.numbered n).1.Readable afterOperator
  | .literal _, _, _ => trivial
  | .field _, _, h => h
  | .parameter (.named _), _, h => h
  | .parameter (.positional _), _, _ => trivial
  | .call _ args, n, h => ⟨h.1, h.2.1, ReadableAll.numberedAll args n h.2.2⟩
  | .compare _ left right, n, h => ⟨h.1, Readable.numbered left n h.2.1, Readable.numbered right _ h.2.2⟩
  | .and left right, n, h => ⟨Readable.numbered left n h.1, Readable.numbered right _ h.2⟩
  | .or left right, n, h => ⟨Readable.numbered left n h.1, Readable.numbered right _ h.2⟩
  | .xor left right, n, h => ⟨Readable.numbered left n h.1, Readable.numbered right _ h.2⟩
  | .not operand, n, h => Readable.numbered operand n h

theorem ReadableAll.numberedAll : (es : List Expr) → (n : Nat) → ReadableAll es → ReadableAll (numberedAll es n).1
  | [], _, _ => trivial
  | e :: es, n, h => ⟨Readable.numbered e n h.1, ReadableAll.numberedAll es _ h.2⟩

end

namespace Grammar

/-! ## Paths -/

theorem ReadsOperand.field {afterOperator : Bool} {path : String} (h : ReadablePath afterOperator path) :
    ReadsOperand (.field path) path.toList := by
  obtain ⟨first, others, htext, hw, hvalue, hreserved, -⟩ := h
  intro r hr
  have hfield := operand_field (p := expression) hw hvalue hreserved hr
  rwa [← htext, String.ofList_toList] at hfield

theorem Opens.field {path : String} (h : ReadablePath false path) : Opens path.toList := by
  obtain ⟨first, others, htext, hw, -, -, hnot⟩ := h
  intro r hr
  rw [htext, intercalate_cons, List.append_assoc]
  refine negation_refuses_word (hw first List.mem_cons_self) (hnot rfl) ?_
  cases others with
  | nil => exact hr.operand.word
  | cons next others => exact .cons (by decide) _

/-- What can stand right after an operator is an operand anywhere, or a path. -/
theorem ReadsOperand.of_readable {e : Expr} {text : Text} (h : e.Readable true)
    (hfield : ∀ path, e = .field path → ReadsOperand e.unnumbered text)
    (hreads : e.Readable false → Reads .primary e.unnumbered text) : ReadsOperand e.unnumbered text := by
  cases e with
  | field path => exact hfield path rfl
  | _ => exact (hreads h).1

end Grammar

/-! ## Whole rules -/

/-- A rule is an expression and blanks behind it; then the parameters are numbered. -/
theorem parse_eq_ok {rule : String} {e : Expr} : parse rule = .ok e ↔
    ∃ e' u, Grammar.expression rule.toList = .ok (e', u) ∧ Blanks u ∧ e = (e'.numbered 0).1 := by
  have hblanks (u : Text) : Blanks u ↔ u.dropWhile Text.isBlank = [] := by
    rw [List.dropWhile_eq_nil_iff]
    rfl
  unfold parse complete
  cases hexpression : Grammar.expression rule.toList with
  | error failure =>
      rw [Grammar.rule, bind_error hexpression]
      exact ⟨nofun, nofun⟩
  | ok out =>
      obtain ⟨e', u⟩ := out
      rw [Grammar.rule, bind_ok hexpression, bind_ok (blanks_apply u), pure_apply]
      cases hu : u.dropWhile Text.isBlank with
      | nil =>
          constructor
          · rintro ⟨⟩
            exact ⟨e', u, rfl, (hblanks u).2 hu, rfl⟩
          · rintro ⟨_, _, ⟨⟩, -, rfl⟩
            rfl
      | cons c v =>
          constructor
          · nofun
          · rintro ⟨_, _, ⟨⟩, hblank, -⟩
            rw [(hblanks _).1 hblank] at hu
            cases hu

theorem parse_of_reads {e : Expr} {text u : Text} (h : Grammar.Reads .disjunction e.unnumbered text) (hu : Blanks u) :
    parse (String.ofList (text ++ u)) = .ok (e.numbered 0).1 := by
  have hends := Grammar.endsExpression_nil.afterBlanks hu
  rw [List.append_nil] at hends
  refine parse_eq_ok.2 ⟨e.unnumbered, u, ?_, hu, by rw [numbered_unnumbered]⟩
  rw [String.toList_ofList, h.expression_eq hends]

end Expr

end CompiledRules
