import CompiledRules.Expr.Grammar
import CompiledRules.Proofs.Parser.Layout

/-!
# Rules are read in finitely many steps

Every level of a rule takes a character where it succeeds and calls itself only on shorter texts, so that the rule of an
expression holds as an equation. Every level skips blanks in front.
-/

namespace CompiledRules.Expr.Grammar

open CompiledRules.Parser

variable {n : Nat} {p q : Parser Expr}

/-! ## Progress -/

theorem tracks_parameter : Tracks [] 1 n parameter parameter :=
  .orElse (.taking (by omega) (.bind (.char (Ends.nil _)) fun _ => .bind (.commit (.word .nil)) fun _ => .pure _))
    (.bind (.char (Ends.nil _)) fun _ => .pure _)

theorem tracks_arguments (h : Tracks [] 1 (n - 1) p q) : Tracks [] 2 n (arguments p) (arguments q) :=
  .bind (.char (Ends.nil _)) fun _ => .bind (.blanks .nil) fun _ =>
    .bind (.separated h (.bind (.blanks .nil) fun _ => .char (Ends.nil _))) fun _ =>
      .bind (.blanks .nil) fun _ => .bind (.commit (.char (Ends.nil _))) fun _ => .pure _

theorem tracks_accessOrCall (h : Tracks [] 1 (n - 1) p q) : Tracks [] 1 n (accessOrCall p) (accessOrCall q) := by
  intro s hs
  have hpath := Tracks.separatedSome (n := n) (.word .nil) (Tracks.char (c := '.') (Ends.nil _)) s hs
  simp only [accessOrCall]
  generalize separatedSome word (char '.') s = x at hpath ⊢
  generalize separatedSome word (char '.') (s ++ []) = y at hpath ⊢
  cases hpath with
  | error hc he => exact .error hc he
  | @ok segments r hl =>
      match segments with
      | [] => exact .ok hl
      | _ :: _ :: _ => exact .ok hl
      | [name] =>
          dsimp only
          split
          · exact .error rfl fun _ => by rw [List.append_nil]
          · have hshort := hl.2
            have hargs := (tracks_arguments (n := n) h).optional r (by omega)
            generalize Parser.optional (arguments p) r = x at hargs ⊢
            generalize Parser.optional (arguments q) (r ++ []) = y at hargs ⊢
            cases hargs with
            | error hc he => exact .error hc he
            | @ok args u hl' => cases args <;> exact .ok (hl.trans hl')

theorem tracks_parenthesised (h : Tracks [] 1 (n - 1) p q) : Tracks [] 1 n (parenthesised p) (parenthesised q) :=
  .taking (by omega) (.bind (.char (Ends.nil _)) fun _ => .bind h fun _ => .bind (.blanks .nil) fun _ =>
    .bind (.commit (.char (Ends.nil _))) fun _ => .pure _)

theorem tracks_operand (h : Tracks [] 1 (n - 1) p q) : Tracks [] 1 n (operand p) (operand q) :=
  .taking (by omega) (.bind (.blanks .nil) fun _ => .expecting _ <|
    .orElse (tracks_parenthesised (h.below (by omega))) <|
    .orElse (.bind (.value .nil) fun _ => .pure _) <|
    .orElse (.bind tracks_parameter fun _ => .pure _) (tracks_accessOrCall (h.below (by omega))))

theorem tracks_compareOp : Tracks [] 1 n compareOp compareOp :=
  .taking (by omega) (.bind (.blanks .nil) fun _ =>
    .orElse (.bind (.runSome (Ends.nil _)) fun _ => .pure _) <|
    .orElse (.bind (.keyword .nil _) fun _ => .pure _) (.bind (.keyword .nil _) fun _ => .pure _))

theorem tracks_comparison (h : Tracks [] 1 (n - 1) p q) : Tracks [] 1 n (comparison p) (comparison q) :=
  .taking (by omega) (.bind (tracks_operand h) fun _ => .bind (.optional tracks_compareOp) fun
    | none => .pure _
    | some _ => .taking (by omega) (.bind (.commit (tracks_operand (h.below (by omega)))) fun _ => .pure _))

theorem tracks_negation : Tracks [] 1 n negation negation :=
  .taking (by omega) (.bind (.blanks .nil) fun _ => .keyword .nil _)

theorem tracks_unary (h : Tracks [] 1 (n - 1) p q) : Tracks [] 1 n (unary p) (unary q) :=
  .taking (by omega) (.bind (.many tracks_negation) fun
    | [] => tracks_comparison (h.below (by omega))
    | _ :: _ => .bind (.commit (tracks_comparison (h.below (by omega)))) fun _ => .pure _)

theorem tracks_connective (spelling : String) : Tracks [] 1 n (connective spelling) (connective spelling) :=
  .taking (by omega) (.bind (.blanks .nil) fun _ => .keyword .nil _)

theorem tracks_conjunction (h : Tracks [] 1 (n - 1) p q) : Tracks [] 1 n (conjunction p) (conjunction q) :=
  .chain _ (tracks_unary h) (tracks_connective _)

theorem tracks_exclusion (h : Tracks [] 1 (n - 1) p q) : Tracks [] 1 n (exclusion p) (exclusion q) :=
  .chain _ (tracks_conjunction h) (tracks_connective _)

theorem tracks_disjunction (h : Tracks [] 1 (n - 1) p q) : Tracks [] 1 n (disjunction p) (disjunction q) :=
  .chain _ (tracks_exclusion h) (tracks_connective _)

theorem guarded_expressionLayer : Guarded [] 1 expressionLayer := fun _ _ _ h =>
  .taking (by omega) (.bind (.blanks .nil) fun _ => tracks_disjunction (h.below (by omega)))

theorem tracks_expression : Tracks [] 1 n expression expression := Guarded.recursive guarded_expressionLayer

theorem expression_eq : expression = expressionLayer expression := Guarded.recursive_eq guarded_expressionLayer

theorem negation_consumes : Consumes negation := Tracks.consumes fun _ => tracks_negation

theorem connective_consumes (spelling : String) : Consumes (connective spelling) :=
  Tracks.consumes fun _ => tracks_connective spelling

/-! ## Blanks in front -/

theorem operand_skipsBlanks : SkipsBlanks (operand p) := blanks_skipsBlanks.bind _

theorem compareOp_skipsBlanks : SkipsBlanks compareOp := blanks_skipsBlanks.bind _

theorem comparison_skipsBlanks : SkipsBlanks (comparison p) := .bind operand_skipsBlanks _

theorem negation_skipsBlanks : SkipsBlanks negation := blanks_skipsBlanks.bind _

theorem connective_skipsBlanks (spelling : String) : SkipsBlanks (connective spelling) := blanks_skipsBlanks.bind _

/-- Without a `not` the comparison itself skips the blanks; otherwise the first `not` does. -/
theorem unary_skipsBlanks : SkipsBlanks (unary p) :=
  negation_skipsBlanks.many_bind negation_consumes comparison_skipsBlanks

theorem conjunction_skipsBlanks : SkipsBlanks (conjunction p) := .chain unary_skipsBlanks _ _

theorem exclusion_skipsBlanks : SkipsBlanks (exclusion p) := .chain conjunction_skipsBlanks _ _

theorem disjunction_skipsBlanks : SkipsBlanks (disjunction p) := .chain exclusion_skipsBlanks _ _

theorem expression_skipsBlanks : SkipsBlanks expression := by
  rw [expression_eq]
  exact blanks_skipsBlanks.bind _

/-- Blanks in front of an expression are skipped by its first operand in any case. -/
theorem expression_apply (s : Text) : expression s = disjunction expression s := by
  rw [congrFun expression_eq s, expressionLayer, bind_ok (blanks_apply s), disjunction_skipsBlanks s]

end CompiledRules.Expr.Grammar
