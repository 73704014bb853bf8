import CompiledRules.Proofs.Expr.Reads
import CompiledRules.Proofs.Value.Integer
import Mathlib

/-!
# Where a rule has its operands

`OperandAt` says at which places reading a rule comes to an operand: alone, on either side of an operator, after `not`,
between connectives, in parentheses and among the arguments of a call. An operand that fails for good at such a place
fails the whole rule.
-/

namespace CompiledRules

namespace Expr.Grammar

open CompiledRules.Parser

variable {rest s r u : Text} {t : Tightness}

/-- How a part of a rule is read that must bind at least this tightly. -/
def level : Tightness → Parser Expr
  | .disjunction => disjunction expression
  | .exclusion => exclusion expression
  | .conjunction => conjunction expression
  | .negation => unary expression
  | .comparison => comparison expression
  | .primary => operand expression

/-- Reading a part of a rule from `s` on comes to an operand at `u`. -/
inductive OperandAt (u : Text) : Tightness → Text → Prop where
  | self {s : Text} : s.dropWhile Text.isBlank = u → OperandAt u .primary s
  | parenthesised {s r : Text} : s.dropWhile Text.isBlank = '(' :: r → OperandAt u .disjunction r →
      OperandAt u .primary s
  | argument {s r v : Text} (name : Text) : s.dropWhile Text.isBlank = name ++ '(' :: r → Text.isWord name = true →
      isReserved name = false → Passes expression comma (r.dropWhile Text.isBlank) v →
      OperandAt u .disjunction v → OperandAt u .primary s
  | left {s : Text} : OperandAt u .primary s → OperandAt u .comparison s
  | right {s r v : Text} : Takes (operand expression) s r → Takes compareOp r v → OperandAt u .primary v →
      OperandAt u .comparison s
  | negated {s r : Text} : Takes (many negation) s r → OperandAt u .comparison r → OperandAt u .negation s
  | conjunct {s r : Text} : Passes (unary expression) (connective "and") s r → OperandAt u .negation r →
      OperandAt u .conjunction s
  | exclusive {s r : Text} : Passes (conjunction expression) (connective "xor") s r → OperandAt u .conjunction r →
      OperandAt u .exclusion s
  | disjunct {s r : Text} : Passes (exclusion expression) (connective "or") s r → OperandAt u .exclusion r →
      OperandAt u .disjunction s

theorem argument_consumes : Consumes (do comma; expression) :=
  Tracks.consumes (t := []) fun _ => .taking (by omega) (.bind (.bind (.blanks .nil) fun _ =>
    .char (Ends.nil _)) fun _ => tracks_expression)

theorem expression_aborts (h : Aborts rest (level .disjunction) s) : Aborts rest expression s :=
  .of_eq (expression_apply s) h

theorem operand_aborts_parenthesised (h : Aborts rest expression r) : Aborts rest (operand expression) ('(' :: r) := by
  have hparenthesised : Aborts rest (parenthesised expression) ('(' :: r) := .bind_ok (char_self _ _) (h.bind _)
  exact .bind_ok (blanks_self (.cons (by decide) _)) ((hparenthesised.orElse _).expecting _)

theorem operand_aborts_call {name : Text} (hname : Text.isWord name = true) (hreserved : isReserved name = false)
    (h : Aborts rest (arguments expression) ('(' :: r)) : Aborts rest (operand expression) (name ++ '(' :: r) := by
  obtain ⟨e, he, hc⟩ := h.optional
  have hcall : Aborts rest (accessOrCall expression) (name ++ '(' :: r) :=
    ⟨e, by simp [accessOrCall, path_name hname, hreserved, he], hc⟩
  have hvalue : Refuses value (name ++ '(' :: r) := value_refuses_name hname hreserved (.cons (by decide) _)
  exact .of_eq (operand_word_eq hname hvalue) (hcall.expecting _)

/-- An operand that fails for good fails what it is a part of. -/
theorem OperandAt.aborts (h : OperandAt u t s) (hu : Aborts rest (operand expression) u) : Aborts rest (level t) s := by
  induction h with
  | self hs =>
      refine operand_skipsBlanks.aborts ?_
      rw [hs]
      exact hu
  | parenthesised hs _ ih =>
      refine operand_skipsBlanks.aborts ?_
      rw [hs]
      exact operand_aborts_parenthesised (expression_aborts ih)
  | argument name hs hname hreserved hpasses _ ih =>
      refine operand_skipsBlanks.aborts ?_
      rw [hs]
      refine operand_aborts_call hname hreserved (.bind_ok (char_self _ _) (.bind_ok (blanks_apply _) ?_))
      exact (hpasses.separated_aborts argument_consumes (expression_aborts ih)).bind _
  | left _ ih => exact ih.bind _
  | right hleft hop _ ih =>
      obtain ⟨op, hop⟩ := hop
      exact hleft.bind_aborts fun _ => .bind_ok (optional_ok hop) (ih.commit.bind _)
  | negated hmarks _ ih =>
      refine hmarks.bind_aborts fun marks => ?_
      cases marks with
      | nil => exact ih
      | cons mark marks => exact ih.commit.bind _
  | conjunct hpasses _ ih => exact hpasses.chain_aborts (connective_consumes "and") tracks_unary_expression ih
  | exclusive hpasses _ ih => exact hpasses.chain_aborts (connective_consumes "xor") tracks_conjunction_expression ih
  | disjunct hpasses _ ih => exact hpasses.chain_aborts (connective_consumes "or") tracks_exclusion_expression ih

theorem operand_aborts_value (h : Aborts rest value s) : Aborts rest (operand expression) s := by
  have hblank := ends_dropWhile Text.isBlank s
  replace h : Aborts rest value (s.dropWhile Text.isBlank) := .of_eq (value_skipsBlanks s) h
  refine operand_skipsBlanks.aborts ?_
  generalize s.dropWhile Text.isBlank = s at h hblank
  have hopen : Ends (· = '(') s := (h.startsValue hblank).mono fun c hc => by
    simp only [decide_eq_true_eq] at hc
    subst hc
    rfl
  have hparenthesised : Refuses (parenthesised expression) s := (char_refuses hopen).bind _
  exact .bind_ok (blanks_self hblank) (.expecting (hparenthesised.orElse_aborts (.orElse (h.bind _) _)) _)

/-- A rule has a number at `u`: it is an operand, or in lists in one. -/
def NumberAt (u s : Text) : Prop := ∃ v, OperandAt v .disjunction s ∧ PartAt u v

/-- A number that fails for good, wherever it stands in a rule, fails the rule. -/
theorem NumberAt.aborts (h : NumberAt u s) (hu : Aborts rest number u) : Aborts rest rule s := by
  obtain ⟨v, hoperand, hpart⟩ := h
  have hv : Aborts rest (operand expression) v := operand_aborts_value (hpart.aborts hu)
  exact (expression_aborts (hoperand.aborts hv)).bind _

end Expr.Grammar

/-- The rule is refused for good, with `rest` left to read. -/
def Expr.RefusedAt (rest : Text) (rule : String) : Prop := ∃ e : Failure, e.committed = true ∧ e.rest = rest ∧
  Expr.parse rule = .error ⟨rule, String.ofList (e.report rule.toList)⟩

theorem Expr.refusedAt_of_aborts {rest : Text} {rule : String} (h : Parser.Aborts rest Expr.Grammar.rule rule.toList) :
    Expr.RefusedAt rest rule := by
  obtain ⟨e, he, hc, hr⟩ := h.complete
  refine ⟨e, hc, hr, ?_⟩
  unfold Expr.parse
  rw [he]

end CompiledRules
