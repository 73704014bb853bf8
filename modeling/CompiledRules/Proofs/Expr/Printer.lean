import CompiledRules.Proofs.Expr.Readable
import Mathlib

/-!
# Printed rules

A readable expression is read back from its text with the fewest parentheses: the grammar has the precedence and the
grouping that the printer counts on.
-/

namespace CompiledRules

open CompiledRules.Parser

/-- The number of a positional parameter. -/
def Parameter.index? : Parameter → Option Nat
  | .named _ => none
  | .positional index => some index

namespace Expr

/-! ## Numbers of parameters -/

/-- The numbers of the positional parameters, from left to right. -/
def indices (e : Expr) : List Nat := e.parameters.filterMap Parameter.index?

/-- The numbers of the positional parameters of several expressions. -/
def indicesAll (es : List Expr) : List Nat := (parametersAll es).filterMap Parameter.index?

section

variable (op : CompareOp) (left right : Expr)

theorem indices_compare : (compare op left right).indices = left.indices ++ right.indices := List.filterMap_append

theorem indices_and : (and left right).indices = left.indices ++ right.indices := List.filterMap_append

theorem indices_or : (or left right).indices = left.indices ++ right.indices := List.filterMap_append

theorem indices_xor : (xor left right).indices = left.indices ++ right.indices := List.filterMap_append

theorem indicesAll_cons (es : List Expr) : indicesAll (left :: es) = left.indices ++ indicesAll es :=
  List.filterMap_append

end

theorem range'_append {a b : List Nat} {n : Nat} (h : a ++ b = List.range' n (a ++ b).length) :
    a = List.range' n a.length ∧ b = List.range' (n + a.length) b.length := by
  rw [List.length_append, ← List.range'_append_1] at h
  exact List.append_inj h (by simp)

/-- Two parts are numbered one after the other. -/
theorem numbered_pair {a b : List Nat} {n : Nat} {left right : Expr} (h : a ++ b = List.range' n (a ++ b).length)
    (hleft : a = List.range' n a.length → left.numbered n = (left, n + a.length))
    (hright : b = List.range' (n + a.length) b.length →
      right.numbered (n + a.length) = (right, n + a.length + b.length)) :
    left.numbered n = (left, n + a.length) ∧ right.numbered (n + a.length) = (right, n + (a ++ b).length) := by
  obtain ⟨ha, hb⟩ := range'_append h
  refine ⟨hleft ha, ?_⟩
  rw [hright hb, List.length_append, Nat.add_assoc]

mutual

/-- An expression whose parameters are numbered from the left stays as it is. -/
theorem numbered_of_indices : (e : Expr) → (n : Nat) → e.indices = List.range' n e.indices.length →
    e.numbered n = (e, n + e.indices.length)
  | .literal _, _, _ => rfl
  | .field _, _, _ => rfl
  | .parameter (.named _), _, _ => rfl
  | .parameter (.positional _), _, h => by
      cases h
      rfl
  | .call _ args, n, h => by
      have hargs := numberedAll_of_indices args n h
      rw [numbered, hargs]
      rfl
  | .compare op left right, n, h => by
      rw [indices_compare] at h ⊢
      obtain ⟨hleft, hright⟩ := numbered_pair h (numbered_of_indices left n) (numbered_of_indices right _)
      simp only [numbered, hleft, hright]
  | .and left right, n, h => by
      rw [indices_and] at h ⊢
      obtain ⟨hleft, hright⟩ := numbered_pair h (numbered_of_indices left n) (numbered_of_indices right _)
      simp only [numbered, hleft, hright]
  | .or left right, n, h => by
      rw [indices_or] at h ⊢
      obtain ⟨hleft, hright⟩ := numbered_pair h (numbered_of_indices left n) (numbered_of_indices right _)
      simp only [numbered, hleft, hright]
  | .xor left right, n, h => by
      rw [indices_xor] at h ⊢
      obtain ⟨hleft, hright⟩ := numbered_pair h (numbered_of_indices left n) (numbered_of_indices right _)
      simp only [numbered, hleft, hright]
  | .not operand, n, h => by
      have hoperand := numbered_of_indices operand n h
      rw [numbered, hoperand]
      rfl

theorem numberedAll_of_indices : (es : List Expr) → (n : Nat) → indicesAll es = List.range' n (indicesAll es).length →
    numberedAll es n = (es, n + (indicesAll es).length)
  | [], _, _ => rfl
  | e :: es, n, h => by
      rw [indicesAll_cons] at h ⊢
      obtain ⟨he, hes⟩ := range'_append h
      simp only [numberedAll, numbered_of_indices e n he, numberedAll_of_indices es _ hes, List.length_append,
        Nat.add_assoc]

end

/-! ## Reading what is printed -/

namespace Grammar

theorem Reads.atLeast {own : Tightness} {e : Expr} {text : Text} (h : Reads own e text) (needed : Tightness) :
    Reads needed e (atLeast needed own text) := by
  have hprimary : needed.rank ≤ Tightness.primary.rank := by cases needed <;> decide
  rw [Expr.atLeast]
  split
  · exact h.mono ‹_›
  · have hinside := Reads.parenthesised (h.mono (Nat.zero_le _)) .nil
    rw [List.nil_append] at hinside
    exact hinside.mono hprimary

theorem binaryText_eq (left : Text) (operator : String) (right : Text) :
    binaryText left operator right = left ++ ([' '] ++ (operator.toList ++ ([' '] ++ right))) := by
  simp [binaryText]

theorem spelled_symbol (op : CompareOp) : op.Spelled op.symbol.toList := by
  cases op with
  | isIn => exact (by decide : Spells "in" "in".toList)
  | like => exact (by decide : Spells "like" "like".toList)
  | _ => rfl

end Grammar

open Grammar

theorem renderAll_eq (es : List Expr) : renderAll es = es.map (render .disjunction) := by
  induction es with
  | nil => rfl
  | cons e es ih => rw [renderAll, ih, List.map_cons]

mutual

theorem reads_render : (e : Expr) → e.Readable false → (∀ v ∈ e.literals, v.isFinite = true) → (needed : Tightness) →
    Reads needed e.unnumbered (e.render needed)
  | .literal v, _, hv, needed =>
      (Reads.literal (value_literal v (hv v List.mem_cons_self))).mono (by cases needed <;> decide)
  | .field path, h, _, needed => Reads.mono (t := .primary) ⟨.field h, .field h⟩ (by cases needed <;> decide)
  | .parameter (.named name), h, _, needed => (Reads.named h).mono (by cases needed <;> decide)
  | .parameter (.positional _), _, _, needed => Reads.positional.mono (by cases needed <;> decide)
  | .call name args, h, hv, needed => by
      have hargs : Listed (Reads .disjunction) (args.map unnumbered)
          (Text.commaJoined (args.map (render .disjunction))) :=
        .commaJoined (R := Reads .disjunction) Reads.afterBlanks (readsAll_render args h.2.2 hv)
      have hcall := Reads.call h.1 h.2.1 hargs .nil
      rw [List.nil_append] at hcall
      rw [unnumbered, unnumberedAll_eq, render, renderAll_eq, List.append_assoc, List.cons_append]
      exact hcall.mono (by cases needed <;> decide)
  | .compare op left right, h, hv, needed => by
      obtain ⟨hvleft, hvright⟩ := List.forall_mem_append.1 hv
      have hright : ReadsOperand right.unnumbered (right.render .primary) := by
        refine .of_readable h.2.2 ?_ fun hr => reads_render right hr hvright .primary
        rintro path rfl
        exact .field h.2.2
      rw [unnumbered, render, binaryText_eq]
      have hleft := reads_render left h.2.1 hvleft .primary
      exact .atLeast (.compare h.1 (spelled_symbol op) .space .space hleft hright) needed
  | .and left right, h, hv, needed => by
      obtain ⟨hvleft, hvright⟩ := List.forall_mem_append.1 hv
      rw [unnumbered, render, binaryText_eq]
      exact .atLeast (.and (by decide) .space .space (reads_render left h.1 hvleft .conjunction)
        (reads_render right h.2 hvright .negation)) needed
  | .or left right, h, hv, needed => by
      obtain ⟨hvleft, hvright⟩ := List.forall_mem_append.1 hv
      rw [unnumbered, render, binaryText_eq]
      exact .atLeast (.or (by decide) .space .space (reads_render left h.1 hvleft .disjunction)
        (reads_render right h.2 hvright .exclusion)) needed
  | .xor left right, h, hv, needed => by
      obtain ⟨hvleft, hvright⟩ := List.forall_mem_append.1 hv
      rw [unnumbered, render, binaryText_eq]
      exact .atLeast (.xor (by decide) .space .space (reads_render left h.1 hvleft .exclusion)
        (reads_render right h.2 hvright .conjunction)) needed
  | .not operand, h, hv, needed => by
      have htext : "not ".toList ++ operand.render .negation =
          "not".toList ++ ([' '] ++ operand.render .negation) := rfl
      rw [unnumbered, render, htext]
      exact .atLeast (.not (by decide) .space (reads_render operand h hv .negation)) needed

theorem readsAll_render : (es : List Expr) → ReadableAll es → (∀ v ∈ literalsAll es, v.isFinite = true) →
    ∀ e ∈ es, Reads .disjunction e.unnumbered (e.render .disjunction)
  | [], _, _ => nofun
  | e :: es, h, hv => by
      obtain ⟨hfirst, hothers⟩ := List.forall_mem_append.1 hv
      exact List.forall_mem_cons.2 ⟨reads_render e h.1 hfirst .disjunction, readsAll_render es h.2 hothers⟩

end

/-- An expression that a rule can write, with its parameters numbered from the left and its floats finite, is read back
from its text with the fewest parentheses. -/
theorem parse_text {e : Expr} (hreadable : e.Readable false)
    (hnumbered : e.indices = List.range e.indices.length) (hfinite : ∀ v ∈ e.literals, v.isFinite = true) :
    parse (String.ofList e.text) = .ok e := by
  have hparse := parse_of_reads (reads_render e hreadable hfinite .disjunction) .nil
  rw [List.range_eq_range'] at hnumbered
  rw [List.append_nil, numbered_of_indices e 0 hnumbered] at hparse
  exact hparse

/-- The rule `not (a.b in [1, "x"] xor :p) and f(?, c or d) ~= not.e`. -/
def groupedRule : Expr :=
  .and
    (.not (.xor (.compare .isIn (.field "a.b") (.literal (.list [.int 1, .string "x"]))) (.parameter (.named "p"))))
    (.compare (.custom "~=") (.call "f" [.parameter (.positional 0), .or (.field "c") (.field "d")]) (.field "not.e"))

theorem parse_text_groupedRule :
    groupedRule.Readable false ∧ groupedRule.indices = List.range groupedRule.indices.length ∧
      (∀ v ∈ groupedRule.literals, v.isFinite = true) ∧
      parse "not (a.b in [1, \"x\"] xor :p) and f(?, c or d) ~= not.e" = .ok groupedRule := by
  have htext : String.ofList groupedRule.text = "not (a.b in [1, \"x\"] xor :p) and f(?, c or d) ~= not.e" := by
    decide +kernel
  have hreadable : groupedRule.Readable false := by
    have hparameter : Text.isWord "p".toList = true := by decide
    have hpath : ReadablePath false "a.b" :=
      ⟨['a'], [['b']], by decide, by decide, by decide, by decide, by decide⟩
    refine ⟨⟨⟨trivial, hpath, trivial⟩, hparameter⟩, ?_⟩
    refine ⟨⟨by decide, by simp [isSymbol], by decide⟩, ⟨by decide, by decide +kernel, trivial, ⟨?_, ?_⟩, trivial⟩, ?_⟩
    · exact ⟨['c'], [], by decide, by decide, by decide, by decide +kernel, by decide⟩
    · exact ⟨['d'], [], by decide, by decide, by decide, by decide +kernel, by decide⟩
    · exact ⟨['n', 'o', 't'], [['e']], by decide, by decide, by decide, by decide, by decide⟩
  have hnumbered : groupedRule.indices = List.range groupedRule.indices.length := by rfl
  have hfinite : ∀ v ∈ groupedRule.literals, v.isFinite = true := by
    simp [groupedRule, literals, literalsAll, Value.isFinite, Value.allFinite]
  exact ⟨hreadable, hnumbered, hfinite, htext ▸ parse_text hreadable hnumbered hfinite⟩

end Expr

end CompiledRules
