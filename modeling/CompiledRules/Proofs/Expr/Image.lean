import CompiledRules.Proofs.Expr.Readable
import CompiledRules.Proofs.Parser.Yields

/-!
# What rules yield

Every rule that is read yields a readable expression. A path is only read where no value and, except right after a
comparison operator, no `not` could be read, which bounds how it starts.
-/

namespace CompiledRules.Expr

open CompiledRules.Parser

theorem Readable.afterOperator {e : Expr} (h : e.Readable false) : e.Readable true := by
  cases e with
  | field path =>
      obtain ⟨first, others, htext, hw, hvalue, hreserved, -⟩ := h
      exact ⟨first, others, htext, hw, hvalue, hreserved, nofun⟩
  | _ => exact h

namespace Grammar

variable {p : Parser Expr} {e : Expr} {s r : Text}

/-! ## Operators -/

theorem symbolicOp_readable {w : Text} (hne : w ≠ []) (hw : ∀ c ∈ w, isSymbol c = true) : (symbolicOp w).Readable := by
  rw [← String.toList_ofList (l := w)] at hne hw ⊢
  generalize String.ofList w = symbol at hne hw ⊢
  by_cases h : symbol ∈ builtinSymbols
  · simp only [builtinSymbols, List.mem_cons, List.not_mem_nil, or_false] at h
    rcases h with rfl | rfl | rfl | rfl | rfl | rfl | rfl | rfl <;> trivial
  · rw [symbolicOp_of_notMem h]
    exact ⟨hne, hw, h⟩

theorem compareOp_yields : Yields compareOp CompareOp.Readable :=
  (Yields.all _).bind fun _ _ =>
    .orElse ((runSome_yields _).bind fun _ hw => .pure (symbolicOp_readable hw.1 hw.2)) <|
    .orElse ((Yields.all _).bind fun _ _ => .pure trivial) ((Yields.all _).bind fun _ _ => .pure trivial)

/-! ## Operands -/

theorem parameter_yields : Yields parameter Parameter.Readable :=
  .orElse ((Yields.all _).bind fun _ _ => word_yields.commit.bind fun _ hw =>
      .pure (by simpa [Parameter.Readable] using hw))
    ((Yields.all _).bind fun _ _ => .pure trivial)

theorem arguments_yields (hp : Yields p (Readable false)) : Yields (arguments p) ReadableAll :=
  (Yields.all _).bind fun _ _ => (Yields.all _).bind fun _ _ => (hp.separated _).bind fun args hargs =>
    (Yields.all _).bind fun _ _ => (Yields.all _).bind fun _ _ => .pure ((readableAll_iff args).2 hargs)

theorem parenthesised_yields (hp : Yields p (Readable false)) : Yields (parenthesised p) (Readable false) :=
  (Yields.all _).bind fun _ _ => hp.bind fun _ he => (Yields.all _).bind fun _ _ =>
    (Yields.all _).bind fun _ _ => .pure he

/-- A path starts with a word that is no value, if no value was read there. -/
theorem not_spells_of_refuses {w : Text} (hr : Ends Text.isWordChar r) (h : Refuses value (w ++ r)) :
    ∀ spelling ∈ valueWords, ¬ Spells spelling w := by
  obtain ⟨e, he, -⟩ := h
  intro spelling hmem hw
  simp only [valueWords, List.mem_cons, List.not_mem_nil, or_false] at hmem
  rcases hmem with rfl | rfl | rfl
  · rw [value_true hw hr] at he
    cases he
  · rw [value_false hw hr] at he
    cases he
  · rw [value_null hw hr] at he
    cases he

theorem not_spells_not_of_refuses {w : Text} (hr : Ends Text.isWordChar r) (h : Refuses negation (w ++ r)) :
    ¬ Spells "not" w := by
  obtain ⟨e, he, -⟩ := h
  intro hw
  have hblank : Ends Text.isBlank (w ++ r) := .of_isWord (hw.isWord (by decide)) (fun _ => isBlank_of_isWordStart) r
  rw [negation, bind_ok (blanks_self hblank), hw.keyword (by decide) hr] at he
  cases he

theorem path_eq_ok {segments : List Text} (h : separatedSome word (char '.') s = .ok (segments, r)) :
    ∃ first others u, segments = first :: others ∧ s = first ++ u ∧ Ends Text.isWordChar u ∧
      ∀ w ∈ segments, Text.isWord w = true := by
  have hwords := word_yields.separatedSome _ s segments r h
  obtain ⟨first, u, hfirst, h⟩ := bind_eq_ok.1 h
  obtain ⟨others, v, -, h⟩ := bind_eq_ok.1 h
  obtain ⟨rfl, -⟩ := pure_eq_ok.1 h
  obtain ⟨rfl, -, hends⟩ := word_eq_ok hfirst
  exact ⟨first, others, u, rfl, rfl, hends, hwords⟩

theorem accessOrCall_yields (hp : Yields p (Readable false)) (h : accessOrCall p s = .ok (e, r))
    (hvalue : Refuses value s) : e.Readable true ∧ (Refuses negation s → e.Readable false) := by
  rw [accessOrCall] at h
  cases hpath : separatedSome word (char '.') s with
  | error failure =>
      rw [hpath] at h
      cases h
  | ok out =>
      obtain ⟨segments, u⟩ := out
      obtain ⟨first, others, v, rfl, rfl, hv, hwords⟩ := path_eq_ok hpath
      have hpathReadable (hreserved : others = [] → isReserved first = false) (afterOperator : Bool)
          (hnot : afterOperator = false → ¬ Spells "not" first) :
          (field (String.ofList (List.intercalate ['.'] (first :: others)))).Readable afterOperator :=
        ⟨first, others, String.toList_ofList, hwords, not_spells_of_refuses hv hvalue, hreserved, hnot⟩
      have hfield (hreserved : others = [] → isReserved first = false) :
          (field (String.ofList (List.intercalate ['.'] (first :: others)))).Readable true ∧
            (Refuses negation (first ++ v) →
              (field (String.ofList (List.intercalate ['.'] (first :: others)))).Readable false) :=
        ⟨hpathReadable hreserved true fun h => (Bool.false_ne_true h.symm).elim,
          fun hnegation => hpathReadable hreserved false fun _ => not_spells_not_of_refuses hv hnegation⟩
      rw [hpath] at h
      cases others with
      | cons next others =>
          cases h
          exact hfield fun hnil => absurd hnil (List.cons_ne_nil next others)
      | nil =>
          dsimp only at h
          split at h
          · cases h
          · rename_i hreserved
            simp only [Bool.not_eq_true] at hreserved
            split at h
            · cases h
            · rename_i args rest hargs
              cases h
              rcases optional_eq_ok hargs with ⟨_, ⟨⟩, hargs⟩ | ⟨hnone, -⟩
              · have hcall : (call (String.ofList first) args).Readable false := by
                  refine ⟨?_, ?_, arguments_yields hp _ _ _ hargs⟩
                  · simpa using hwords first List.mem_cons_self
                  · simpa using hreserved
                exact ⟨hcall, fun _ => hcall⟩
              · cases hnone
            · cases h
              have hsingle := hfield fun _ => hreserved
              rwa [List.intercalate_singleton] at hsingle

theorem operand_yields (hp : Yields p (Readable false)) (h : operand p s = .ok (e, r)) :
    e.Readable true ∧ (Refuses negation s → e.Readable false) := by
  obtain ⟨_, u, hblanks, h⟩ := bind_eq_ok.1 h
  rw [blanks_eq_ok] at hblanks
  subst hblanks
  have hskip : Refuses negation s → Refuses negation (s.dropWhile Text.isBlank) := by
    rintro ⟨failure, hfailure, hc⟩
    exact ⟨failure, (negation_skipsBlanks s).trans hfailure, hc⟩
  have hboth (he : e.Readable false) : e.Readable true ∧ (Refuses negation s → e.Readable false) :=
    ⟨he.afterOperator, fun _ => he⟩
  rw [expecting_eq_ok, orElse_eq_ok, orElse_eq_ok, orElse_eq_ok] at h
  rcases h with h | ⟨-, h | ⟨hvalue, h | ⟨-, h⟩⟩⟩
  · exact hboth (parenthesised_yields hp _ _ _ h)
  · obtain ⟨v, _, -, h⟩ := bind_eq_ok.1 h
    obtain ⟨rfl, -⟩ := pure_eq_ok.1 h
    exact hboth trivial
  · obtain ⟨q, _, hq, h⟩ := bind_eq_ok.1 h
    obtain ⟨rfl, -⟩ := pure_eq_ok.1 h
    exact hboth (parameter_yields _ _ _ hq)
  · obtain ⟨htrue, hfalse⟩ := accessOrCall_yields hp h hvalue.of_bind_pure
    exact ⟨htrue, fun hnegation => hfalse (hskip hnegation)⟩

/-! ## Levels -/

theorem comparison_yields (hp : Yields p (Readable false)) (h : comparison p s = .ok (e, r))
    (hnegation : Refuses negation s) : e.Readable false := by
  obtain ⟨left, u, hleft, h⟩ := bind_eq_ok.1 h
  obtain ⟨op?, v, hop, h⟩ := bind_eq_ok.1 h
  have hleftReadable := (operand_yields hp hleft).2 hnegation
  cases op? with
  | none =>
      obtain ⟨rfl, -⟩ := pure_eq_ok.1 h
      exact hleftReadable
  | some op =>
      obtain ⟨right, _, hright, h⟩ := bind_eq_ok.1 h
      obtain ⟨rfl, -⟩ := pure_eq_ok.1 h
      rcases optional_eq_ok hop with ⟨_, ⟨⟩, hop⟩ | ⟨hnone, -⟩
      · exact ⟨compareOp_yields _ _ _ hop, hleftReadable, (operand_yields hp (commit_eq_ok.1 hright)).1⟩
      · cases hnone

theorem unary_yields (hp : Yields p (Readable false)) : Yields (unary p) (Readable false) := by
  intro s e r h
  obtain ⟨marks, u, e', hmarks, hcomparison, rfl⟩ := unary_eq_ok.1 h
  have hinner := comparison_yields hp hcomparison (negation_consumes.refuses_of_many hmarks)
  clear hmarks h
  induction marks with
  | nil => exact hinner
  | cons mark marks ih => exact ih

theorem expression_yields : Yields expression (Readable false) := by
  refine .recursive fun p hp => (Yields.all _).bind fun _ _ => ?_
  exact .chain (.chain (.chain (unary_yields hp) _ fun _ _ => And.intro) _ fun _ _ => And.intro) _ fun _ _ => And.intro

end Grammar

/-- Every rule that is read yields a readable expression. -/
theorem readable_of_parse {rule : String} {e : Expr} (h : parse rule = .ok e) : e.Readable false := by
  obtain ⟨e', u, hexpression, -, rfl⟩ := parse_eq_ok.1 h
  exact Readable.numbered e' 0 (Grammar.expression_yields _ _ _ hexpression)

end CompiledRules.Expr
