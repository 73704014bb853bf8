import CompiledRules.Node.Grammar
import CompiledRules.Proofs.Parser.Stop

/-!
# Bodies before a stop

Every part of a body is read before a stop as it is read alone, and calls itself only on shorter texts.
-/

namespace CompiledRules.Node.Grammar

open CompiledRules.Parser

variable {t : Text} {n : Nat} {p q : Parser Node}

theorem tracks_key (ht : Stop t) : Tracks t 4 n key key :=
  .bind (.char (ht.ends (by decide))) fun _ => .bind (.blanks ht) fun _ => .bind (.quotedText ht) fun _ =>
    .bind (.blanks ht) fun _ => .bind (.char (ht.ends (by decide))) fun _ => .pure _

theorem tracks_targetAccess (ht : Stop t) : Tracks t 1 n targetAccess targetAccess :=
  .taking (by omega) (.bind (.exactly (ht.ends (by decide)) (by decide)) fun _ =>
    .bind (.atLeastOne ((tracks_key ht).taking (by omega))) fun _ => .pure _)

theorem tracks_index (ht : Stop t) : Tracks t 1 n index index := by
  intro s hs
  have hd := Tracks.digits ht s hs
  simp only [index]
  generalize digits s = x at hd ⊢
  generalize digits (s ++ t) = y at hd ⊢
  cases hd with
  | ok hl =>
      simp only
      split
      · exact .ok hl
      · exact .error rfl fun h => by rw [h, List.append_nil]
  | error hc he => exact .error hc he

theorem tracks_parameterAccess (ht : Stop t) : Tracks t 1 n parameterAccess parameterAccess :=
  .taking (by omega) (.bind (.exactly (ht.ends (by decide)) (by decide)) fun _ =>
    .bind (.char (ht.ends (by decide))) fun _ => .bind (.blanks ht) fun _ =>
      .bind (.commit (.orElse (.taking (by omega) (.bind (.quotedText ht) fun _ => .pure _))
        (.bind (tracks_index ht) fun _ => .pure _))) fun _ =>
      .bind (.blanks ht) fun _ => .bind (.commit (.char (ht.ends (by decide)))) fun _ => .pure _)

theorem tracks_constantAccess (ht : Stop t) : Tracks t 1 n constantAccess constantAccess :=
  .taking (by omega) (.bind (.exactly (ht.ends (by decide)) (by decide)) fun _ =>
    .bind (.commit (.word ht)) fun _ => .pure _)

theorem tracks_arguments (ht : Stop t) (h : Tracks t 1 (n - 1) p q) : Tracks t 2 n (arguments p) (arguments q) :=
  .bind (.blanks ht) fun _ => .bind (.char (ht.ends (by decide))) fun _ => .bind (.blanks ht) fun _ =>
    .bind (.separated (h.below (by omega)) (.bind (.blanks ht) fun _ => .char (ht.ends (by decide)))) fun _ =>
      .bind (.blanks ht) fun _ => .bind (.char (ht.ends (by decide))) fun _ => .pure _

theorem tracks_operatorCall (ht : Stop t) (h : Tracks t 1 (n - 1) p q) :
    Tracks t 1 n (operatorCall p) (operatorCall q) :=
  .taking (by omega) (.bind (.exactly (ht.ends (by decide)) (by decide)) fun _ => .bind (tracks_key ht) fun _ =>
    .bind (.commit (tracks_arguments ht (h.below (by omega)))) fun _ => .pure _)

theorem tracks_parenthesised (ht : Stop t) (h : Tracks t 1 (n - 1) p q) :
    Tracks t 1 n (parenthesised p) (parenthesised q) :=
  .taking (by omega) (.bind (.char (ht.ends (by decide))) fun _ => .bind h fun _ => .bind (.blanks ht) fun _ =>
    .bind (.commit (.char (ht.ends (by decide)))) fun _ => .pure _)

theorem tracks_primary (ht : Stop t) (h : Tracks t 1 (n - 1) p q) : Tracks t 1 n (primary p) (primary q) :=
  .taking (by omega) (.bind (.blanks ht) fun _ => .expecting _ <|
    .orElse (tracks_parenthesised ht (h.below (by omega))) <|
    .orElse (tracks_targetAccess ht) <|
    .orElse (tracks_parameterAccess ht) <|
    .orElse (tracks_constantAccess ht) <|
    .orElse (tracks_operatorCall ht (h.below (by omega))) (.bind (.value ht) fun _ => .pure _))

theorem tracks_compareOp (ht : Stop t) : Tracks t 1 n compareOp compareOp :=
  .taking (by omega) (.bind (.blanks ht) fun _ =>
    .orElse (.bind (.exactly (ht.ends (by decide)) (by decide)) fun _ => .pure _) <|
    .orElse (.bind (.exactly (ht.ends (by decide)) (by decide)) fun _ => .pure _) <|
    .orElse (.bind (.exactly (ht.ends (by decide)) (by decide)) fun _ => .pure _) <|
    .orElse (.bind (.exactly (ht.ends (by decide)) (by decide)) fun _ => .pure _) <|
    .orElse (.bind (.char (ht.ends (by decide))) fun _ => .pure _) <|
    .orElse (.bind (.char (ht.ends (by decide))) fun _ => .pure _) (.bind (.keyword ht _) fun _ => .pure _))

theorem tracks_exclamation (ht : Stop t) : Tracks t 1 n exclamation exclamation :=
  .taking (by omega) (.bind (.blanks ht) fun _ => .char (ht.ends (by decide)))

theorem tracks_negation (ht : Stop t) (h : Tracks t 1 (n - 1) p q) : Tracks t 1 n (negation p) (negation q) :=
  .taking (by omega) (.bind (.many (tracks_exclamation ht)) fun
    | [] => tracks_primary ht (h.below (by omega))
    | _ :: _ => .bind (.commit (tracks_primary ht (h.below (by omega)))) fun _ => .pure _)

theorem tracks_comparison (ht : Stop t) (h : Tracks t 1 (n - 1) p q) :
    Tracks t 1 n (comparison p) (comparison q) :=
  .taking (by omega) (.bind (tracks_negation ht h) fun _ => .bind (.optional (tracks_compareOp ht)) fun
    | none => .pure _
    | some _ => .taking (by omega) (.bind (.commit (tracks_negation ht (h.below (by omega)))) fun _ => .pure _))

theorem tracks_disjunction (ht : Stop t) (h : Tracks t 1 (n - 1) p q) :
    Tracks t 1 n (disjunction p) (disjunction q) :=
  .chain _ (.chain _ (.chain _ (tracks_comparison ht h)
    (.taking (by omega) (.bind (.blanks ht) fun _ => .exactly (ht.ends (by decide)) (by decide))))
    (.taking (by omega) (.bind (.blanks ht) fun _ => .keyword ht _)))
    (.taking (by omega) (.bind (.blanks ht) fun _ => .exactly (ht.ends (by decide)) (by decide)))

theorem guarded_disjunction (ht : Stop t) : Guarded t 1 disjunction := fun _ _ _ h => tracks_disjunction ht h

/-- A body is read before a stop as it is read alone. -/
theorem tracks_body (ht : Stop t) : Tracks t 1 n body body := (guarded_disjunction ht).recursive

theorem body_eq : body = disjunction body := (guarded_disjunction .nil).recursive_eq

end CompiledRules.Node.Grammar
