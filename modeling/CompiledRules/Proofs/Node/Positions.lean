import CompiledRules.Proofs.Node.Printer
import CompiledRules.Proofs.Value.Integer
import Mathlib

/-!
# Where a body has its operands

`OperandAt` says at which places reading a body comes to an operand. An operand that fails for good at such a place
fails the whole body. The index of a parameter is read exactly, or fails for good.
-/

namespace CompiledRules.Node

namespace Grammar

open CompiledRules.Parser

variable {rest s r u v : Text} {t : Tightness}

/-- How a part of a body is read that must bind at least this tightly. -/
def level : Tightness → Parser Node
  | .disjunction => disjunction body
  | .exclusion => exclusion body
  | .conjunction => conjunction body
  | .comparison => comparison body
  | .negation => negation body
  | .primary => primary body

/-- Reading a part of a body from `s` on comes to an operand at `u`. -/
inductive OperandAt (u : Text) : Tightness → Text → Prop where
  | self {s : Text} : s.dropWhile Text.isBlank = u → OperandAt u .primary s
  | parenthesised {s r : Text} : s.dropWhile Text.isBlank = '(' :: r → OperandAt u .disjunction r →
      OperandAt u .primary s
  | argument {s r v w x : Text} : s.dropWhile Text.isBlank = "$operators".toList ++ r → Takes key r v →
      v.dropWhile Text.isBlank = '(' :: w → Passes body comma (w.dropWhile Text.isBlank) x →
      OperandAt u .disjunction x → OperandAt u .primary s
  | negated {s r : Text} : Takes (many exclamation) s r → OperandAt u .primary r → OperandAt u .negation s
  | left {s : Text} : OperandAt u .negation s → OperandAt u .comparison s
  | right {s r v : Text} : Takes (negation body) s r → Takes compareOp r v → OperandAt u .negation v →
      OperandAt u .comparison s
  | conjunct {s r : Text} : Passes (comparison body) andSign s r → OperandAt u .comparison r →
      OperandAt u .conjunction s
  | exclusive {s r : Text} : Passes (conjunction body) xorSign s r → OperandAt u .conjunction r →
      OperandAt u .exclusion s
  | disjunct {s r : Text} : Passes (exclusion body) orSign s r → OperandAt u .exclusion r → OperandAt u .disjunction s

theorem argument_consumes : Consumes (do comma; body) :=
  Tracks.consumes (t := []) fun _ => .taking (by omega) (.bind (.bind (.blanks .nil) fun _ =>
    .char (Ends.nil _)) fun _ => tracks_body .nil)

theorem body_aborts (h : Aborts rest (level .disjunction) s) : Aborts rest body s := .of_eq (congrFun body_eq s) h

theorem primary_aborts_parenthesised (h : Aborts rest body r) : Aborts rest (primary body) ('(' :: r) := by
  have hparenthesised : Aborts rest (parenthesised body) ('(' :: r) := .bind_ok (char_self _ _) (h.bind _)
  exact .bind_ok (blanks_self (.cons (by decide) _)) ((hparenthesised.orElse _).expecting _)

theorem primary_aborts_call (hkey : Takes key r v) (h : Aborts rest (arguments body) v) :
    Aborts rest (primary body) ("$operators".toList ++ r) := by
  have hcall : Aborts rest (operatorCall body) ("$operators".toList ++ r) :=
    .bind_ok (exactly_append _ _) (hkey.bind_aborts fun _ => h.commit.bind _)
  have htarget : Refuses targetAccess ("$operators".toList ++ r) := (exactly_refuses rfl).bind _
  have hparameter : Refuses parameterAccess ("$operators".toList ++ r) := (exactly_refuses rfl).bind _
  have hconstant : Refuses constantAccess ("$operators".toList ++ r) := (exactly_refuses rfl).bind _
  have hdollar : Ends (· ≠ '$') ("$operators".toList ++ r) := .cons (by decide) _
  exact .of_eq (primary_dollar_eq hdollar) (.expecting (htarget.orElse_aborts <| hparameter.orElse_aborts <|
    hconstant.orElse_aborts (hcall.orElse _)) _)

/-- An operand that fails for good fails what it is a part of. -/
theorem OperandAt.aborts (h : OperandAt u t s) (hu : Aborts rest (primary body) u) : Aborts rest (level t) s := by
  induction h with
  | self hs =>
      refine primary_skipsBlanks.aborts ?_
      rw [hs]
      exact hu
  | parenthesised hs _ ih =>
      refine primary_skipsBlanks.aborts ?_
      rw [hs]
      exact primary_aborts_parenthesised (body_aborts ih)
  | argument hs hkey hopen hpasses _ ih =>
      refine primary_skipsBlanks.aborts ?_
      rw [hs]
      refine primary_aborts_call hkey (.bind_ok (blanks_apply _) ?_)
      rw [hopen]
      refine .bind_ok (char_self _ _) (.bind_ok (blanks_apply _) ?_)
      exact (hpasses.separated_aborts argument_consumes (body_aborts ih)).bind _
  | negated hmarks _ ih =>
      refine hmarks.bind_aborts fun marks => ?_
      cases marks with
      | nil => exact ih
      | cons mark marks => exact ih.commit.bind _
  | left _ ih => exact ih.bind _
  | right hleft hop _ ih =>
      obtain ⟨op, hop⟩ := hop
      exact hleft.bind_aborts fun _ => .bind_ok (optional_ok hop) (ih.commit.bind _)
  | conjunct hpasses _ ih => exact hpasses.chain_aborts andSign_consumes tracks_comparison_body ih
  | exclusive hpasses _ ih => exact hpasses.chain_aborts xorSign_consumes tracks_conjunction_body ih
  | disjunct hpasses _ ih => exact hpasses.chain_aborts orSign_consumes tracks_exclusion_body ih

theorem primary_aborts_value (h : Aborts rest value s) : Aborts rest (primary body) s := by
  have hblank := ends_dropWhile Text.isBlank s
  replace h : Aborts rest value (s.dropWhile Text.isBlank) := .of_eq (value_skipsBlanks s) h
  refine primary_skipsBlanks.aborts ?_
  generalize s.dropWhile Text.isBlank = s at h hblank
  have hstart (d : Char) (hd : startsValue d = false) : Ends (· = d) s :=
    (h.startsValue hblank).mono fun c hc => by
      simp only [decide_eq_true_eq] at hc
      subst hc
      simp [hd]
  have hparenthesised : Refuses (parenthesised body) s := (char_refuses (hstart '(' (by decide))).bind _
  have hdollar := hstart '$' (by decide)
  have htarget : Refuses targetAccess s := (exactly_refuses_head hdollar _).bind _
  have hparameter : Refuses parameterAccess s := (exactly_refuses_head hdollar _).bind _
  have hconstant : Refuses constantAccess s := (exactly_refuses_head hdollar _).bind _
  have hcall : Refuses (operatorCall body) s := (exactly_refuses_head hdollar _).bind _
  exact .bind_ok (blanks_self hblank) (.expecting (hparenthesised.orElse_aborts <| htarget.orElse_aborts <|
    hparameter.orElse_aborts <| hconstant.orElse_aborts <| hcall.orElse_aborts (h.bind _)) _)

/-- A body has a number at `u`: it is an operand, or in lists in one. -/
def NumberAt (u s : Text) : Prop := ∃ v, OperandAt v .disjunction s ∧ PartAt u v

/-- A number that fails for good, wherever it stands in a body, fails the body. -/
theorem NumberAt.aborts (h : NumberAt u s) (hu : Aborts rest number u) : Aborts rest body s := by
  obtain ⟨v, hoperand, hpart⟩ := h
  exact body_aborts (hoperand.aborts (primary_aborts_value (hpart.aborts hu)))

/-! ## Indices of parameters -/

theorem primary_aborts_index {ds : Text} (hd : Text.IsDigits ds)
    (hrange : ¬ Text.decimalValue ds < 0x10000000000000000) :
    Aborts (ds ++ ']' :: r) (primary body) ("$parameters[".toList ++ ds ++ [']'] ++ r) := by
  have htext : "$parameters[".toList ++ ds ++ [']'] ++ r = "$parameters".toList ++ '[' :: (ds ++ ']' :: r) := by
    simp only [List.append_assoc]
    rfl
  have haccess : Aborts (ds ++ ']' :: r) parameterAccess ("$parameters".toList ++ '[' :: (ds ++ ']' :: r)) := by
    refine .bind_ok (exactly_append _ _) (.bind_ok (char_self _ _) (.bind_ok (blanks_self ?_) (.bind ?_ _)))
    · exact IsDigits.ends_isBlank hd _
    · exact ⟨⟨ds ++ ']' :: r, true, [], some .numberTooLarge⟩,
        by simp only [commit, parameterKey_digits hd, hrange, ↓reduceIte], rfl, rfl⟩
  have htarget : Refuses targetAccess ("$parameters".toList ++ '[' :: (ds ++ ']' :: r)) :=
    (exactly_refuses rfl).bind _
  have hdollar : Ends (· ≠ '$') ("$parameters".toList ++ '[' :: (ds ++ ']' :: r)) := .cons (by decide) _
  rw [htext]
  exact .of_eq (primary_dollar_eq hdollar) (.expecting (htarget.orElse_aborts (haccess.orElse _)) _)

/-- The access to a positional parameter by the digits of its index. -/
def indexText (ds : Text) : Text := "$parameters[".toList ++ ds ++ [']']

theorem reads_indexText {ds : Text} (hd : Text.IsDigits ds)
    (hrange : Text.decimalValue ds < 0x10000000000000000) :
    Reads .disjunction (.parameter (.positional (Text.decimalValue ds))) (indexText ds) := by
  have hprimary : Reads .primary (.parameter (.positional (Text.decimalValue ds))) (indexText ds) :=
    fun _ _ => primary_index hd hrange
  have hstart (r : Text) : Ends (fun c => Text.isBlank c || c == '!') (indexText ds ++ r) := .cons (by decide) _
  exact (hprimary.toNegation hstart).toComparison.toConjunction.toExclusion.toDisjunction

theorem operandAt_indexText (ds : Text) : OperandAt (indexText ds) .disjunction (indexText ds) := by
  have hnone : Refuses exclamation (indexText ds) :=
    .bind_ok (blanks_self (.cons (by decide) _)) (char_refuses (.cons (by decide) _))
  exact .disjunct .refl (.exclusive .refl (.conjunct .refl (.left (.negated ⟨[], hnone.many⟩ (.self rfl)))))

end Grammar

open CompiledRules.Parser

/-- The text is refused as a body for good, with `rest` left to read. -/
def RefusedAt (rest : Text) (text : String) : Prop := ∃ e : Failure, e.committed = true ∧ e.rest = rest ∧
  ofText text = .error e

theorem refusedAt_of_aborts {rest : Text} {text : String} (h : Aborts rest Grammar.body text.toList) :
    RefusedAt rest text := by
  obtain ⟨e, he, hc, hr⟩ := (h.bind fun node => (do blanks; return node)).complete
  exact ⟨e, hc, hr, he⟩

theorem ofText_indexText {ds : Text} (hd : Text.IsDigits ds) (n : Node) :
    ofText (String.ofList (Grammar.indexText ds)) = .ok n ↔
      Text.decimalValue ds < 0x10000000000000000 ∧ n = .parameter (.positional (Text.decimalValue ds)) := by
  by_cases hrange : Text.decimalValue ds < 0x10000000000000000
  · have hbody := (Grammar.reads_indexText hd hrange).body_eq Grammar.endsBody_nil
    rw [List.append_nil] at hbody
    have htext : ofText (String.ofList (Grammar.indexText ds)) =
        .ok (.parameter (.positional (Text.decimalValue ds))) :=
      ofText_eq_ok.mpr ⟨[], by rwa [String.toList_ofList], rfl⟩
    rw [htext]
    simp [hrange, eq_comm]
  · have hprimary := Grammar.primary_aborts_index (r := []) hd hrange
    rw [List.append_nil] at hprimary
    have hbody := Grammar.body_aborts ((Grammar.operandAt_indexText ds).aborts hprimary)
    rw [← String.toList_ofList (l := Grammar.indexText ds)] at hbody
    obtain ⟨e, -, -, he⟩ := refusedAt_of_aborts hbody
    rw [he]
    simp [hrange]

end CompiledRules.Node
