import CompiledRules.Proofs.Expr.Progress
import CompiledRules.Proofs.Value.Literal

/-!
# Reading operands of rules

Literals, parameters, paths and calls start alike, and a `not` starts like a path. Each is read by the alternative that
it is meant for.
-/

namespace CompiledRules

namespace Parser

/-! ## Words -/

/-- What starts like a word starts with one. -/
theorem exists_word {c : Char} (hc : Text.isWordStart c = true) (s : Text) :
    ∃ w r, c :: s = w ++ r ∧ Text.isWord w = true ∧ Ends Text.isWordChar r := by
  refine ⟨c :: s.takeWhile Text.isWordChar, s.dropWhile Text.isWordChar, ?_, ?_, ends_dropWhile _ s⟩
  · rw [List.cons_append, List.takeWhile_append_dropWhile]
  · simp [Text.isWord, hc]

theorem isWordStart_of_isWord {c : Char} {w : Text} (hw : Text.isWord (c :: w) = true) : Text.isWordStart c = true :=
  (Bool.and_eq_true_iff.1 hw).1

theorem Ends.of_isWord {w : Text} (hw : Text.isWord w = true) {accepts : Char → Bool}
    (ha : ∀ c, Text.isWordStart c = true → accepts c = false) (r : Text) : Ends accepts (w ++ r) := by
  cases w with
  | nil => cases hw
  | cons c w => exact .cons (ha c (isWordStart_of_isWord hw)) _

theorem isBlank_of_isWordStart {c : Char} (h : Text.isWordStart c = true) : Text.isBlank c = false :=
  isBlank_of_startsValue (by simp [startsValue, h])

/-- The words that are values. -/
def valueWords : List String := ["true", "false", "null"]

theorem value_refuses_word {w r : Text} (hw : Text.isWord w = true) (hne : ∀ spelling ∈ valueWords, ¬ Spells spelling w)
    (hr : Ends Text.isWordChar r) : Refuses value (w ++ r) := by
  have hkeyword (spelling : String) (h : spelling ∈ valueWords) : Refuses (keyword spelling) (w ++ r) :=
    keyword_refuses_word hw (hne spelling h) hr
  cases w with
  | nil => cases hw
  | cons c w =>
      have hstart := isWordStart_of_isWord hw
      obtain ⟨htext, hnumber, hlist⟩ := refuses_of_startsLiteral (startsLiteral_of_isWordStart hstart) (w ++ r)
      rw [value_eq]
      refine .bind_ok (blanks_self (.cons (isBlank_of_isWordStart hstart) _)) (.expecting ?_ _)
      exact .orElse (htext.bind _) <| .orElse hnumber <| .orElse (hlist.bind _) <|
        .orElse ((hkeyword "true" (by decide)).bind _) <|
        .orElse ((hkeyword "false" (by decide)).bind _) ((hkeyword "null" (by decide)).bind _)

/-! ## Paths -/

theorem intercalate_cons (first : Text) (others : List Text) :
    List.intercalate ['.'] (first :: others) = first ++ others.flatMap ('.' :: ·) := by
  induction others generalizing first with
  | nil => simp
  | cons next others ih => simp [List.intercalate_cons_cons, ih]

theorem path_append {first : Text} {others : List Text} (hw : ∀ w ∈ first :: others, Text.isWord w = true) {r : Text}
    (hr : EndsOperand r) : separatedSome word (char '.') (List.intercalate ['.'] (first :: others) ++ r) =
      .ok (first :: others, r) := by
  have hnext : Ends Text.isWordChar (others.flatMap ('.' :: ·) ++ r) := by
    cases others with
    | nil => exact hr.word
    | cons w others => exact .cons (by decide) _
  have hconsumes : Consumes (do char '.'; word) :=
    Tracks.consumes (t := []) fun _ => .taking (by omega) (.bind (.char (Ends.nil _)) fun _ => .word .nil)
  have hmany : many (do char '.'; word) (others.flatMap ('.' :: ·) ++ r) = .ok (others, r) := by
    clear hnext
    induction others with
    | nil => exact Refuses.many ((char_refuses (hr.mono (by simp [goesOn]))).bind _)
    | cons w others ih =>
        have hothers := ih fun v hv => hw v (by simp at hv ⊢; tauto)
        have hends : Ends Text.isWordChar (others.flatMap ('.' :: ·) ++ r) := by
          cases others with
          | nil => exact hr.word
          | cons w others => exact .cons (by decide) _
        refine hconsumes.many_cons ?_ hothers
        rw [List.flatMap_cons, List.cons_append, List.cons_append, List.append_assoc, bind_ok (char_self _ _),
          word_append (hw w (by simp)) hends]
  rw [intercalate_cons, List.append_assoc, separatedSome, bind_ok (word_append (hw first List.mem_cons_self) hnext),
    bind_ok hmany, pure_apply]

end Parser

namespace Expr.Grammar

open CompiledRules.Parser

variable {p : Parser Expr} {s r : Text}

/-! ## What no `not` starts -/

theorem negation_refuses_word {w : Text} (hw : Text.isWord w = true) (hne : ¬ Spells "not" w)
    (hr : Ends Text.isWordChar r) : Refuses negation (w ++ r) :=
  .bind_ok (blanks_self (.of_isWord hw (fun _ => isBlank_of_isWordStart) r)) (keyword_refuses_word hw hne hr)

theorem negation_refuses (hblank : Ends Text.isBlank s) (hs : Ends Text.isWordStart s) : Refuses negation s :=
  .bind_ok (blanks_self hblank) (keyword_refuses hs)

/-- No value is a `not`. -/
theorem negation_refuses_value {v : Value} (h : value s = .ok (v, r)) : Refuses negation s := by
  rw [← value_skipsBlanks s] at h
  rw [Refuses, ← negation_skipsBlanks s]
  have hblank := ends_dropWhile Text.isBlank s
  generalize s.dropWhile Text.isBlank = s at h hblank
  cases s with
  | nil => exact negation_refuses (.nil _) (.nil _)
  | cons c s =>
      cases hc : Text.isWordStart c with
      | false => exact negation_refuses hblank (.cons hc _)
      | true =>
          obtain ⟨w, u, hword, hw, hu⟩ := exists_word hc s
          rw [hword] at h ⊢
          refine negation_refuses_word hw (fun hnot => ?_) hu
          have hne : ∀ spelling ∈ valueWords, ¬ Spells spelling w := by
            intro spelling hmem hspells
            have heq : "not" = spelling := String.toList_inj.1 (hnot.symm.trans hspells)
            subst heq
            exact absurd hmem (by decide)
          obtain ⟨e, he, -⟩ := value_refuses_word hw hne hu
          rw [h] at he
          cases he

/-! ## Operands -/

/-- The characters that may go on with an operand. -/
def goesOnTerm (c : Char) : Bool := goesOn c || c == '('

/-- A text that does not go on with an operand. -/
abbrev EndsTerm (r : Text) : Prop := Ends goesOnTerm r

theorem EndsTerm.operand (h : EndsTerm r) : EndsOperand r := h.mono (by simp +contextual [goesOnTerm])

theorem goesOnTerm_of_isBlank {c : Char} (h : Text.isBlank c = true) : goesOnTerm c = false := by
  have hne : c ≠ '(' := by
    rintro rfl
    revert h
    decide
  simp [goesOnTerm, goesOn_of_isBlank h, hne]

/-- An operand is read by the first alternative that takes it. -/
theorem operand_ok {e : Expr} (hs : Ends Text.isBlank s)
    (h : (parenthesised p
      <|> (do return .literal (← value))
      <|> (do return .parameter (← parameter))
      <|> accessOrCall p : Parser Expr) s = .ok (e, r)) : operand p s = .ok (e, r) :=
  (bind_ok (blanks_self hs)).trans (expecting_ok h)

theorem operand_parenthesised {e : Expr} {inside u : Text} (hu : Blanks u)
    (h : p (inside ++ (u ++ ')' :: r)) = .ok (e, u ++ ')' :: r)) :
    operand p ('(' :: (inside ++ (u ++ ')' :: r))) = .ok (e, r) := by
  refine operand_ok (.cons (by decide) _) (orElse_ok ?_)
  rw [parenthesised, bind_ok (char_self _ _), bind_ok h,
    bind_ok ((blanks_append hu).trans (blanks_self (.cons (by decide) _))), bind_ok (commit_ok (char_self _ _)),
    pure_apply]

theorem operand_literal {v : Value} (h : value s = .ok (v, r)) : operand p s = .ok (.literal v, r) := by
  rw [← value_skipsBlanks s] at h
  rw [← operand_skipsBlanks s]
  have hblank := ends_dropWhile Text.isBlank s
  generalize s.dropWhile Text.isBlank = s at h hblank
  have hopen : Refuses (parenthesised p) s := by
    refine (char_refuses ?_).bind _
    cases s with
    | nil => exact .nil _
    | cons c s =>
        refine .cons (decide_eq_false ?_) _
        rintro rfl
        obtain ⟨e, he, -⟩ := value_refuses (c := '(') (by decide) (by decide) s
        rw [h] at he
        cases he
  refine operand_ok hblank ?_
  rw [hopen.orElse_eq]
  exact orElse_ok (by rw [bind_ok h, pure_apply])

/-- What starts with neither a parenthesis nor a value is a parameter, a path or a call. -/
theorem operand_other {c : Char} {e : Expr} (hblank : Text.isBlank c = false) (hopen : c ≠ '(')
    (hvalue : Refuses value (c :: s))
    (h : ((do return .parameter (← parameter)) <|> accessOrCall p : Parser Expr) (c :: s) = .ok (e, r)) :
    operand p (c :: s) = .ok (e, r) := by
  have hparenthesised : Refuses (parenthesised p) (c :: s) :=
    (char_refuses (.cons (decide_eq_false hopen) _)).bind _
  refine operand_ok (.cons hblank _) ?_
  rw [hparenthesised.orElse_eq, (hvalue.bind _).orElse_eq, h]

theorem operand_named {name : String} (hname : Text.isWord name.toList = true) (hr : Ends Text.isWordChar r) :
    operand p (':' :: (name.toList ++ r)) = .ok (.parameter (.named name), r) := by
  have hparameter : parameter (':' :: (name.toList ++ r)) = .ok (.named name, r) := by
    refine orElse_ok ?_
    rw [bind_ok (char_self _ _), bind_ok (commit_ok (word_append hname hr)), pure_apply, String.ofList_toList]
  refine operand_other (by decide) (by decide) (value_refuses (by decide) (by decide) _) (orElse_ok ?_)
  rw [bind_ok hparameter, pure_apply]

theorem operand_positional (r : Text) : operand p ('?' :: r) = .ok (.parameter (.positional 0), r) := by
  have hparameter : parameter ('?' :: r) = .ok (.positional 0, r) := by
    have hcolon : Refuses (char ':') ('?' :: r) := char_refuses (.cons (by decide) _)
    exact ((hcolon.bind _).orElse_eq _).trans (bind_ok (char_self _ _))
  refine operand_other (by decide) (by decide) (value_refuses (by decide) (by decide) _) (orElse_ok ?_)
  rw [bind_ok hparameter, pure_apply]

/-- What starts with a word that is no value is a path or a call. -/
theorem operand_word_eq {w : Text} (hw : Text.isWord w = true) (hvalue : Refuses value (w ++ s)) :
    operand p (w ++ s) = (accessOrCall p).expecting "operand" (w ++ s) := by
  have hstart {accepts : Char → Bool} (ha : ∀ c, Text.isWordStart c = true → accepts c = false) :
      Ends accepts (w ++ s) := .of_isWord hw ha _
  have hsign (c : Char) (hc : Text.isWordStart c = false) : Refuses (char c) (w ++ s) := by
    refine char_refuses (hstart fun d hd => decide_eq_false ?_)
    rintro rfl
    rw [hd] at hc
    cases hc
  have hparameter : Refuses parameter (w ++ s) :=
    .orElse ((hsign ':' (by decide)).bind _) ((hsign '?' (by decide)).bind _)
  have hparenthesised : Refuses (parenthesised p) (w ++ s) := (hsign '(' (by decide)).bind _
  rw [operand, bind_ok (blanks_self (hstart fun _ => isBlank_of_isWordStart)), expecting, expecting,
    hparenthesised.orElse_eq, (hvalue.bind _).orElse_eq, (hparameter.bind _).orElse_eq]

theorem operand_word {w : Text} {e : Expr} (hw : Text.isWord w = true) (hvalue : Refuses value (w ++ s))
    (h : accessOrCall p (w ++ s) = .ok (e, r)) : operand p (w ++ s) = .ok (e, r) := by
  rw [operand_word_eq hw hvalue, expecting_ok h]

theorem operand_field {first : Text} {others : List Text} (hw : ∀ w ∈ first :: others, Text.isWord w = true)
    (hvalue : ∀ spelling ∈ valueWords, ¬ Spells spelling first) (hreserved : others = [] → isReserved first = false)
    (hr : EndsTerm r) : operand p (List.intercalate ['.'] (first :: others) ++ r) =
      .ok (.field (String.ofList (List.intercalate ['.'] (first :: others))), r) := by
  have hpath := path_append hw hr.operand
  have hfirst := hw first List.mem_cons_self
  have haccess : accessOrCall p (List.intercalate ['.'] (first :: others) ++ r) =
      .ok (.field (String.ofList (List.intercalate ['.'] (first :: others))), r) := by
    rw [accessOrCall, hpath]
    cases others with
    | nil =>
        have hargs : Refuses (arguments p) r := (char_refuses (hr.mono (by simp [goesOnTerm]))).bind _
        simp [hreserved rfl, hargs.optional]
    | cons next others => rfl
  rw [intercalate_cons, List.append_assoc] at haccess ⊢
  refine operand_word hfirst (value_refuses_word hfirst hvalue ?_) haccess
  cases others with
  | nil => exact hr.operand.word
  | cons next others => exact .cons (by decide) _

theorem not_spells_of_isReserved {w : Text} (h : isReserved w = false) {spelling : String}
    (hmem : spelling ∈ reservedWords) : ¬ Spells spelling w := by
  intro hspells
  rw [isReserved, List.any_eq_false] at h
  exact h spelling hmem (decide_eq_true hspells)

theorem value_refuses_name {w : Text} (hw : Text.isWord w = true) (hreserved : isReserved w = false)
    (hr : Ends Text.isWordChar r) : Refuses value (w ++ r) := by
  refine value_refuses_word hw (fun spelling hmem => not_spells_of_isReserved hreserved ?_) hr
  revert spelling
  decide

/-- A name before a parenthesis is a path of one segment. -/
theorem path_name {w : Text} (hw : Text.isWord w = true) (s : Text) :
    separatedSome word (char '.') (w ++ '(' :: s) = .ok ([w], '(' :: s) := by
  have hwords : ∀ v ∈ [w], Text.isWord v = true := by simpa using hw
  have hpath := path_append hwords (r := '(' :: s) (.cons (by decide) _)
  rwa [List.intercalate_singleton] at hpath

theorem operand_call {name : String} {args : List Expr} (hname : Text.isWord name.toList = true)
    (hreserved : isReserved name.toList = false) (h : arguments p ('(' :: s) = .ok (args, r)) :
    operand p (name.toList ++ '(' :: s) = .ok (.call name args, r) := by
  refine operand_word hname (value_refuses_name hname hreserved (.cons (by decide) _)) ?_
  rw [accessOrCall, path_name hname]
  simp [hreserved, optional_ok h]

end Expr.Grammar

end CompiledRules
