import CompiledRules.Proofs.Expr.Printer
import CompiledRules.Proofs.Node.Operand
import CompiledRules.Proofs.Parser.Spends
import Mathlib

/-!
# How many parameters a rule has

Numbering counts the positional parameters from the left, and each of them takes a character of the rule. So the numbers
in a rule stay below its length.
-/

namespace CompiledRules.Expr

open CompiledRules.Parser

/-! ## Numbers in order -/

mutual

/-- The numbers that numbering gives are consecutive, and the next one follows them. -/
theorem indices_numbered : (e : Expr) → (n : Nat) →
    (e.numbered n).1.indices = List.range' n e.indices.length ∧ (e.numbered n).2 = n + e.indices.length
  | .literal _, _ => ⟨rfl, rfl⟩
  | .field _, _ => ⟨rfl, rfl⟩
  | .parameter (.named _), _ => ⟨rfl, rfl⟩
  | .parameter (.positional _), _ => ⟨rfl, rfl⟩
  | .call _ args, n => indicesAll_numberedAll args n
  | .compare op left right, n => by
      simp only [numbered, indices_compare, indices_numbered left, indices_numbered right, List.length_append,
        List.range'_append_1, Nat.add_assoc, and_self]
  | .and left right, n => by
      simp only [numbered, indices_and, indices_numbered left, indices_numbered right, List.length_append,
        List.range'_append_1, Nat.add_assoc, and_self]
  | .or left right, n => by
      simp only [numbered, indices_or, indices_numbered left, indices_numbered right, List.length_append,
        List.range'_append_1, Nat.add_assoc, and_self]
  | .xor left right, n => by
      simp only [numbered, indices_xor, indices_numbered left, indices_numbered right, List.length_append,
        List.range'_append_1, Nat.add_assoc, and_self]
  | .not operand, n => indices_numbered operand n

theorem indicesAll_numberedAll : (es : List Expr) → (n : Nat) →
    indicesAll (numberedAll es n).1 = List.range' n (indicesAll es).length ∧
      (numberedAll es n).2 = n + (indicesAll es).length
  | [], _ => ⟨rfl, rfl⟩
  | e :: es, n => by
      simp only [numberedAll, indicesAll_cons, indices_numbered e, indicesAll_numberedAll es, List.length_append,
        List.range'_append_1, Nat.add_assoc, and_self]

end

/-! ## A character for each parameter -/

/-- How many positional parameters an expression has. -/
def places (e : Expr) : Nat := e.indices.length

section

variable (op : CompareOp) (left right : Expr)

theorem places_compare : (compare op left right).places = left.places + right.places := by
  rw [places, indices_compare, List.length_append, places, places]

theorem places_and : (and left right).places = left.places + right.places := by
  rw [places, indices_and, List.length_append, places, places]

theorem places_or : (or left right).places = left.places + right.places := by
  rw [places, indices_or, List.length_append, places, places]

theorem places_xor : (xor left right).places = left.places + right.places := by
  rw [places, indices_xor, List.length_append, places, places]

theorem places_call (name : String) (args : List Expr) : (call name args).places = (args.map places).sum := by
  have hargs : (indicesAll args).length = (args.map places).sum := by
    induction args with
    | nil => rfl
    | cons e es ih => rw [indicesAll_cons, List.length_append, ih, List.map_cons, List.sum_cons, places]
  exact hargs

end

namespace Grammar

variable {p : Parser Expr}

theorem parameter_spends : Spends 0 (fun q => (Expr.parameter q).places) Grammar.parameter :=
  .orElse ((Spends.free (fun _ => .char (Ends.nil _)) 0).bind fun _ =>
      (Spends.free (fun _ => .commit (.word .nil)) 0).bind fun _ => .pure (Nat.le_refl _))
    ((Spends.of_tracks fun _ => .char (Ends.nil _)).bind fun _ => .pure (Nat.le_refl _))

theorem arguments_spends (hp : Spends 0 places p) : Spends 0 (fun args => (args.map places).sum) (arguments p) :=
  (Spends.free (fun _ => .char (Ends.nil _)) 0).bind fun _ => (Spends.free (fun _ => .blanks .nil) 0).bind fun _ =>
    (hp.separated fun _ => .bind (.blanks .nil) fun _ => .char (Ends.nil _)).bind fun _ =>
      (Spends.free (fun _ => .blanks .nil) _).bind fun _ =>
        (Spends.free (fun _ => .commit (.char (Ends.nil _))) _).bind fun _ => .pure (Nat.le_refl _)

theorem accessOrCall_spends (hp : Spends 0 places p) : Spends 0 places (accessOrCall p) := by
  intro s e r h
  -- A path costs nothing, so only the arguments of a call have to be paid for.
  have hpath := Spends.of_tracks fun _ => Tracks.separatedSome (.word .nil) (Tracks.char (c := '.') (Ends.nil _))
  rw [accessOrCall] at h
  split at h
  · cases h
  · rename_i name u hname
    have hu := hpath s _ u hname
    split at h
    · cases h
    · split at h
      · cases h
      · rename_i args v hargs
        cases h
        have hv := (arguments_spends hp).optional u _ _ hargs
        rw [places_call]
        simp only [Option.map_some, Option.getD_some] at hv
        omega
      · rename_i v hargs
        cases h
        have hv := (arguments_spends hp).optional u _ _ hargs
        simp only [Option.map_none, Option.getD_none] at hv
        change 0 + _ ≤ _
        omega
  · rename_i u _ hname
    cases h
    have hu := hpath s _ _ hname
    change 0 + _ ≤ _
    omega

theorem parenthesised_spends (hp : Spends 0 places p) : Spends 0 places (parenthesised p) :=
  (Spends.free (fun _ => .char (Ends.nil _)) 0).bind fun _ => hp.bind fun _ =>
    (Spends.free (fun _ => .blanks .nil) _).bind fun _ =>
      (Spends.free (fun _ => .commit (.char (Ends.nil _))) _).bind fun _ => .pure (Nat.le_refl _)

theorem operand_spends (hp : Spends 0 places p) : Spends 0 places (operand p) :=
  (Spends.free (fun _ => .blanks .nil) 0).bind fun _ => .expecting
    (.orElse (parenthesised_spends hp) <|
      .orElse ((Spends.free (fun _ => .value .nil) 0).bind fun _ => .pure (Nat.le_refl _)) <|
      .orElse (parameter_spends.bind fun _ => .pure (Nat.le_refl _)) (accessOrCall_spends hp)) _

theorem comparison_spends (hp : Spends 0 places p) : Spends 0 places (comparison p) := by
  refine (operand_spends hp).bind fun left => ?_
  refine (Spends.free (fun _ => .optional tracks_compareOp) left.places).bind fun op? => ?_
  cases op? with
  | none => exact .pure (Nat.le_refl _)
  | some op =>
      refine ((operand_spends hp).commit.frame left.places).bind fun right => .pure ?_
      rw [places_compare]

theorem unary_spends (hp : Spends 0 places p) : Spends 0 places (unary p) := by
  intro s e r h
  obtain ⟨marks, u, e', hmarks, hcomparison, rfl⟩ := unary_eq_ok.1 h
  have hplaces : (marks.foldr (fun _ e => .not e) e').places = e'.places := by
    clear hmarks h
    induction marks with
    | nil => rfl
    | cons mark marks ih => exact ih
  have hu := Spends.free (fun _ => .many tracks_negation) 0 s marks u hmarks
  have hr := comparison_spends hp u e' r hcomparison
  omega

theorem expression_spends : Spends 0 places expression := by
  refine .recursive fun p hp => (Spends.free (fun _ => .blanks .nil) 0).bind fun _ => ?_
  have hconjunction : Spends 0 places (conjunction p) :=
    (unary_spends hp).chain (fun _ => tracks_connective _) places_and
  have hexclusion : Spends 0 places (exclusion p) := hconjunction.chain (fun _ => tracks_connective _) places_xor
  exact hexclusion.chain (fun _ => tracks_connective _) places_or

end Grammar

/-- The number of a positional parameter is below the length of the rule. -/
theorem index_lt_of_parse {rule : String} {e : Expr} (h : parse rule = .ok e) {index : Nat}
    (hindex : .positional index ∈ e.parameters) : index < rule.toList.length := by
  obtain ⟨e', u, hexpression, -, rfl⟩ := parse_eq_ok.1 h
  have hplaces := Grammar.expression_spends _ _ _ hexpression
  have hmem : index ∈ (e'.numbered 0).1.indices := List.mem_filterMap.2 ⟨_, hindex, rfl⟩
  rw [(indices_numbered e' 0).1, List.mem_range'_1] at hmem
  rw [places] at hplaces
  omega

/-- Where a rule has no more characters than machine words count, it has no more parameters either. -/
theorem inRange_of_parse {rule : String} {e : Expr} (h : parse rule = .ok e)
    (hlength : rule.toList.length ≤ 0x10000000000000000) : ∀ p ∈ e.parameters, p.InRange := by
  intro p hp
  cases p with
  | named name => trivial
  | positional index => exact Nat.lt_of_lt_of_le (index_lt_of_parse h hp) hlength

end CompiledRules.Expr
