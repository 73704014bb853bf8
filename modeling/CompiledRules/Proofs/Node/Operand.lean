import CompiledRules.Node.Printer
import CompiledRules.Proofs.Node.Stop
import CompiledRules.Proofs.Value.Literal
import Mathlib

/-!
# Reading operands

Each operand of a body is read back from its text, and so is each comparison operator. What a body reads does not
depend on blanks in front.
-/

namespace CompiledRules

/-- The index of the parameter, if it has one, is a number of 64 bits. -/
def Parameter.InRange : Parameter → Prop
  | .named _ => True
  | .positional index => index < 0x10000000000000000

namespace Node.Grammar

open CompiledRules.Parser

variable {p : Parser Node} {rest : Text}

/-! ## Blanks in front -/

theorem primary_skipsBlanks : SkipsBlanks (primary p) := blanks_skipsBlanks.bind _

theorem exclamation_skipsBlanks : SkipsBlanks exclamation := blanks_skipsBlanks.bind _

theorem exclamation_consumes : Consumes exclamation := Tracks.consumes fun _ => tracks_exclamation .nil

/-- Without a `!` the operand itself skips the blanks; otherwise the first `!` does. -/
theorem negation_skipsBlanks : SkipsBlanks (negation p) :=
  exclamation_skipsBlanks.many_bind exclamation_consumes primary_skipsBlanks

theorem body_skipsBlanks : SkipsBlanks body := by
  rw [body_eq]
  exact (((negation_skipsBlanks.bind _).bind _).bind _).bind _

/-! ## Operands -/

/-- An operand is read by the first alternative that takes it. -/
theorem primary_ok {s r : Text} {n : Node} (hs : Ends Text.isBlank s)
    (h : (parenthesised p <|> targetAccess <|> parameterAccess <|> constantAccess <|> operatorCall p
      <|> (do return .literal (← value)) : Parser Node) s = .ok (n, r)) : primary p s = .ok (n, r) :=
  (bind_ok (blanks_self hs)).trans (expecting_ok h)

/-- What starts with a dollar sign is not in parentheses. -/
theorem primary_dollar_eq {s : Text} (hs : Ends (· ≠ '$') s) : primary p s =
    (targetAccess <|> parameterAccess <|> constantAccess <|> operatorCall p
      <|> (do return .literal (← value)) : Parser Node).expecting "operand" s := by
  have hnot : ∀ {accepts : Char → Bool}, accepts '$' = false → Ends accepts s := fun ha =>
    hs.mono fun c hc => by
      simp only [ne_eq, decide_not, Bool.not_eq_true', decide_eq_false_iff_not]
      rintro rfl
      rw [ha] at hc
      cases hc
  have hopen : Refuses (parenthesised p) s := (char_refuses (hnot (by decide))).bind _
  rw [primary, bind_ok (blanks_self (hnot (by decide))), expecting, expecting, hopen.orElse_eq]

theorem primary_dollar {s r : Text} {n : Node} (hs : Ends (· ≠ '$') s)
    (h : (targetAccess <|> parameterAccess <|> constantAccess <|> operatorCall p
      <|> (do return .literal (← value)) : Parser Node) s = .ok (n, r)) : primary p s = .ok (n, r) := by
  rw [primary_dollar_eq hs, expecting_ok h]

theorem key_append (text : String) (r : Text) :
    key ('[' :: Text.quoted text.toList ++ ']' :: r) = .ok (text, r) := by
  rw [key, List.cons_append, bind_ok (char_self _ _), bind_ok (blanks_self (quoted_starts (by decide) _ _)),
    bind_ok (quotedText_append _ _), bind_ok (blanks_self (.cons (by decide) _)), bind_ok (char_self _ _), pure_apply,
    String.ofList_toList]

theorem key_refuses (hr : EndsOperand rest) : Refuses key rest :=
  (char_refuses (hr.mono (by simp [goesOn]))).bind _

theorem primary_target {segments : List String} (hne : segments ≠ []) (hr : EndsOperand rest) :
    primary p (targetText segments ++ rest) = .ok (.target segments, rest) := by
  have hmany : ∀ segments : List String, many key
      ((segments.flatMap fun segment => '[' :: Text.quoted segment.toList ++ [']']) ++ rest) =
        .ok (segments, rest) := by
    intro segments
    induction segments with
    | nil => exact (key_refuses hr).many
    | cons segment segments ih =>
        refine Consumes.many_cons (Tracks.consumes fun n => (tracks_key (n := n) .nil).taking (by omega)) ?_ ih
        simp only [List.flatMap_cons, List.append_assoc]
        exact key_append segment _
  cases segments with
  | nil => exact absurd rfl hne
  | cons segment segments =>
      have hkeys : atLeastOne key (((segment :: segments).flatMap fun segment =>
          '[' :: Text.quoted segment.toList ++ [']']) ++ rest) = .ok (segment :: segments, rest) := by
        simp only [List.flatMap_cons, List.append_assoc]
        rw [atLeastOne]
        exact (bind_ok (key_append segment _)).trans (bind_ok (hmany segments))
      unfold targetText
      rw [List.append_assoc]
      refine primary_dollar (.cons (by decide) _) (orElse_ok ?_)
      rw [targetAccess, bind_ok (exactly_append _ _), bind_ok hkeys, pure_apply]

/-- Digits in brackets are an index, if it is a number of 64 bits. -/
theorem parameterKey_digits {ds : Text} (hd : Text.IsDigits ds) :
    ((do return Parameter.named (String.ofList (← quotedText))) <|> (do return Parameter.positional (← index)) :
      Parser Parameter) (ds ++ ']' :: rest) =
    if Text.decimalValue ds < 0x10000000000000000 then .ok (.positional (Text.decimalValue ds), ']' :: rest)
    else .error ⟨ds ++ ']' :: rest, false, [], some .numberTooLarge⟩ := by
  have hquote : Refuses quotedText (ds ++ ']' :: rest) := by
    refine quotedText_refuses (IsDigits.ends hd (fun c hc => ?_) _)
    simp only [Bool.or_eq_false_iff, decide_eq_false_iff_not]
    exact ⟨by rintro rfl; simp at hc, by rintro rfl; simp at hc⟩
  have hdigits : digits (ds ++ ']' :: rest) = .ok (ds, ']' :: rest) := digits_append hd (.cons (by decide) _)
  rw [(hquote.bind _).orElse_eq]
  split
  · rename_i hrange
    have hindex : index (ds ++ ']' :: rest) = .ok (Text.decimalValue ds, ']' :: rest) := by
      simp only [index, hdigits, hrange, ↓reduceIte]
    rw [bind_ok hindex, pure_apply]
  · rename_i hrange
    exact bind_error (by simp only [index, hdigits, hrange, ↓reduceIte])

theorem IsDigits.ends_isBlank {ds : Text} (hd : Text.IsDigits ds) (r : Text) : Ends Text.isBlank (ds ++ r) :=
  IsDigits.ends hd (fun c hc => isBlank_of_startsValue (by simp [startsValue, startsLiteral, hc])) r

theorem parameterAccess_append {inside : Text} {found : Parameter} (hblank : Ends Text.isBlank (inside ++ ']' :: rest))
    (h : ((do return Parameter.named (String.ofList (← quotedText))) <|> (do return Parameter.positional (← index)) :
      Parser Parameter) (inside ++ ']' :: rest) = .ok (found, ']' :: rest)) :
    parameterAccess ("$parameters[".toList ++ inside ++ [']'] ++ rest) = .ok (.parameter found, rest) := by
  have htext : "$parameters[".toList ++ inside ++ [']'] ++ rest =
      "$parameters".toList ++ '[' :: (inside ++ ']' :: rest) := by
    simp only [List.append_assoc]
    rfl
  rw [htext, parameterAccess, bind_ok (exactly_append _ _), bind_ok (char_self _ _), bind_ok (blanks_self hblank),
    bind_ok (commit_ok h), bind_ok (blanks_self (.cons (by decide) _)), bind_ok (commit_ok (char_self _ _)), pure_apply]

/-- What starts like the access to a parameter is read as one. -/
theorem primary_parameterAccess {inside : Text} {n : Node} {r : Text}
    (h : parameterAccess ("$parameters[".toList ++ inside) = .ok (n, r)) :
    primary p ("$parameters[".toList ++ inside) = .ok (n, r) := by
  have htarget : Refuses targetAccess ("$parameters[".toList ++ inside) := (exactly_refuses rfl).bind _
  refine primary_dollar (.cons (by decide) _) ?_
  rw [htarget.orElse_eq]
  exact orElse_ok h

theorem primary_index {ds : Text} (hd : Text.IsDigits ds) (hrange : Text.decimalValue ds < 0x10000000000000000) :
    primary p ("$parameters[".toList ++ ds ++ [']'] ++ rest) =
      .ok (.parameter (.positional (Text.decimalValue ds)), rest) := by
  have haccess : parameterAccess ("$parameters[".toList ++ ds ++ [']'] ++ rest) =
      .ok (.parameter (.positional (Text.decimalValue ds)), rest) := by
    refine parameterAccess_append (IsDigits.ends_isBlank hd _) ?_
    rw [parameterKey_digits hd, if_pos hrange]
  rw [List.append_assoc, List.append_assoc] at haccess ⊢
  exact primary_parameterAccess haccess

theorem primary_parameter {parameter : Parameter} (hp : parameter.InRange) :
    primary p (parameterText parameter ++ rest) = .ok (.parameter parameter, rest) := by
  cases parameter with
  | named name =>
      have haccess : parameterAccess (parameterText (.named name) ++ rest) = .ok (.parameter (.named name), rest) := by
        refine parameterAccess_append (quoted_starts (by decide) _ _) (orElse_ok ?_)
        rw [bind_ok (quotedText_append _ _), pure_apply, String.ofList_toList]
      unfold parameterText at haccess ⊢
      simp only [List.append_assoc] at haccess ⊢
      exact primary_parameterAccess haccess
  | positional i =>
      have hrange : Text.decimalValue (Text.decimal i) < 0x10000000000000000 := by
        rwa [Text.decimalValue_decimal]
      exact (primary_index (Text.isDigits_decimal i) hrange).trans (by rw [Text.decimalValue_decimal])

theorem primary_this {name : String} (hname : Text.isWord name.toList = true) (hr : EndsOperand rest) :
    primary p (thisText name ++ rest) = .ok (.this name, rest) := by
  have htarget : ∀ s, Refuses targetAccess ("$this->".toList ++ s) := fun s => (exactly_refuses rfl).bind _
  have hparameter : ∀ s, Refuses parameterAccess ("$this->".toList ++ s) := fun s => (exactly_refuses rfl).bind _
  unfold thisText
  rw [List.append_assoc]
  refine primary_dollar (.cons (by decide) _) ?_
  rw [(htarget _).orElse_eq, (hparameter _).orElse_eq]
  refine orElse_ok ?_
  rw [constantAccess, bind_ok (exactly_append _ _), bind_ok (commit_ok (word_append hname hr.word)), pure_apply,
    String.ofList_toList]

theorem primary_call {name : String} {args : List Node} {inside : Text}
    (h : arguments p ('(' :: (inside ++ ')' :: rest)) = .ok (args, rest)) :
    primary p ("$operators".toList ++ ('[' :: Text.quoted name.toList ++ ']' :: '(' :: (inside ++ ')' :: rest))) =
      .ok (.call name args, rest) := by
  have htarget : ∀ s, Refuses targetAccess ("$operators".toList ++ s) := fun s => (exactly_refuses rfl).bind _
  have hparameter : ∀ s, Refuses parameterAccess ("$operators".toList ++ s) := fun s => (exactly_refuses rfl).bind _
  have hconstant : ∀ s, Refuses constantAccess ("$operators".toList ++ s) := fun s => (exactly_refuses rfl).bind _
  refine primary_dollar (.cons (by decide) _) ?_
  rw [(htarget _).orElse_eq, (hparameter _).orElse_eq, (hconstant _).orElse_eq]
  refine orElse_ok ?_
  rw [operatorCall, bind_ok (exactly_append _ _), bind_ok (key_append name _), bind_ok (commit_ok h), pure_apply]

theorem primary_literal {v : Value} (hv : v.isFinite = true) (hr : EndsOperand rest) :
    primary p (v.literal ++ rest) = .ok (.literal v, rest) := by
  have hstart := StartsValue.literal hv rest
  have hopen : Refuses (parenthesised p) (v.literal ++ rest) :=
    (char_refuses (hstart.mono fun c hc => by simp only [decide_eq_true_eq] at hc; subst hc; rfl)).bind _
  have hdollar : Ends (· = '$') (v.literal ++ rest) :=
    hstart.mono fun c hc => by simp only [decide_eq_true_eq] at hc; subst hc; rfl
  have htarget : Refuses targetAccess (v.literal ++ rest) := (exactly_refuses_head hdollar _).bind _
  have hparameter : Refuses parameterAccess (v.literal ++ rest) := (exactly_refuses_head hdollar _).bind _
  have hconstant : Refuses constantAccess (v.literal ++ rest) := (exactly_refuses_head hdollar _).bind _
  have hcall : Refuses (operatorCall p) (v.literal ++ rest) := (exactly_refuses_head hdollar _).bind _
  refine primary_ok (hstart.ends fun _ => isBlank_of_startsValue) ?_
  rw [hopen.orElse_eq, htarget.orElse_eq, hparameter.orElse_eq, hconstant.orElse_eq, hcall.orElse_eq,
    bind_ok (value_literal v hv rest hr), pure_apply]

theorem primary_parenthesised {inside : Text} {n : Node} (h : p (inside ++ ')' :: rest) = .ok (n, ')' :: rest)) :
    primary p (inParentheses inside ++ rest) = .ok (n, rest) := by
  refine primary_ok (.cons (by decide) _) (orElse_ok ?_)
  rw [inParentheses, List.append_assoc, parenthesised, List.cons_append]
  refine (bind_ok (char_self _ _)).trans ((bind_ok h).trans ?_)
  rw [bind_ok (blanks_self (.cons (by decide) _)), bind_ok (commit_ok (char_self _ _)), pure_apply]

end Node.Grammar

end CompiledRules
