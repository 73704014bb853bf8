import CompiledRules.Proofs.Expr.Readable
import CompiledRules.Proofs.Parser.Yields
import Mathlib

/-!
# Paths in every place of an operand

A path may hold reserved words, since only a single word is checked. But a `not` and the three values are looked for
before paths are, as whole words and without a look at the point behind them. So a path that starts with a value is read
nowhere, and one that starts with `not` only right after a comparison operator.
-/

namespace CompiledRules

open CompiledRules.Parser

namespace Expr

namespace Grammar

/-- The word is one of the given ones, in either case. -/
def IsOneOf (spellings : List String) (w : Text) : Prop := ∃ spelling ∈ spellings, Spells spelling w

variable {s t r : Text} {e : Expr}

/-! ## Nothing goes on with a point -/

theorem connective_refuses_point (spelling : String) (r : Text) : Refuses (connective spelling) ('.' :: r) :=
  .bind_ok (blanks_self (.cons (by decide) r)) (keyword_refuses (.cons (by decide) r))

theorem negation_refuses_point (r : Text) : Refuses negation ('.' :: r) :=
  negation_refuses (.cons (by decide) r) (.cons (by decide) r)

theorem compareOp_refuses_point (r : Text) : Refuses compareOp ('.' :: r) :=
  .bind_ok (blanks_self (.cons (by decide) r)) (.orElse ((runSome_refuses (.cons (by decide) r)).bind _) <|
    .orElse ((keyword_refuses (.cons (by decide) r)).bind _) ((keyword_refuses (.cons (by decide) r)).bind _))

theorem operand_refuses_point (p : Parser Expr) (r : Text) : Refuses (operand p) ('.' :: r) := by
  have hpath : Refuses (accessOrCall p) ('.' :: r) := by
    obtain ⟨failure, hfailure, hc⟩ := (word_refuses (s := '.' :: r) (.cons (by decide) r)).bind
      fun first => many (do char '.'; word) >>= fun others => pure (first :: others)
    exact ⟨failure, by simp only [accessOrCall, separatedSome, hfailure], hc⟩
  have hparameter : Refuses parameter ('.' :: r) :=
    .orElse ((char_refuses (.cons (by decide) r)).bind _) ((char_refuses (.cons (by decide) r)).bind _)
  have hparenthesised : Refuses (parenthesised p) ('.' :: r) := (char_refuses (.cons (by decide) r)).bind _
  exact .bind_ok (blanks_self (.cons (by decide) r)) (.expecting (.orElse hparenthesised <|
    .orElse ((value_refuses (by decide) (by decide) r).bind _) <| .orElse (hparameter.bind _) hpath) _)

theorem comparison_before_point (h : operand expression s = .ok (e, '.' :: r)) :
    comparison expression s = .ok (e, '.' :: r) := by
  rw [comparison, bind_ok h, bind_ok (compareOp_refuses_point r).optional]
  rfl

theorem expression_before_point (h : unary expression s = .ok (e, '.' :: r)) : expression s = .ok (e, '.' :: r) := by
  have hconjunction : conjunction expression s = .ok (e, '.' :: r) :=
    (chain_operand h).trans (chainFrom_end (connective_refuses_point _ r))
  have hexclusion : exclusion expression s = .ok (e, '.' :: r) :=
    (chain_operand hconjunction).trans (chainFrom_end (connective_refuses_point _ r))
  rw [expression_apply]
  exact (chain_operand hexclusion).trans (chainFrom_end (connective_refuses_point _ r))

theorem expression_error {failure : Failure} (h : unary expression s = .error failure) :
    expression s = .error failure := by
  rw [expression_apply]
  exact bind_error (bind_error (bind_error h))

/-! ## Texts that are read up to a point -/

/-- If the text starts with a comparison at all, a point is left over. -/
def Strays (s : Text) : Prop := ∀ e t, unary expression s = .ok (e, t) → ∃ r, t = '.' :: r

theorem strays_of_eq (h : unary expression s = .ok (e, '.' :: r)) : Strays s := by
  intro e' t h'
  rw [h] at h'
  cases h'
  exact ⟨r, rfl⟩

/-- A `not` in front goes with what follows it. -/
theorem unary_not_eq_ok : unary expression ("not ".toList ++ s) = .ok (e, t) ↔
    ∃ e', unary expression s = .ok (e', t) ∧ e = .not e' := by
  have hone : negation ("not ".toList ++ s) = .ok ((), ' ' :: s) := rfl
  have hskip : unary expression (' ' :: s) = unary expression s := unary_skipsBlanks.cons (by decide) s
  simp only [← hskip, unary_eq_ok]
  constructor
  · rintro ⟨marks, u, e', hmarks, hc, rfl⟩
    rcases negation_consumes.many_eq_ok hmarks with ⟨-, -, hrefuses⟩ | ⟨mark, v, marks', rfl, hfirst, hrest⟩
    · obtain ⟨failure, hfailure, -⟩ := hrefuses
      rw [hone] at hfailure
      cases hfailure
    · rw [hone] at hfirst
      cases hfirst
      exact ⟨_, ⟨marks', u, e', hrest, hc, rfl⟩, rfl⟩
  · rintro ⟨_, ⟨marks, u, e', hmarks, hc, rfl⟩, rfl⟩
    exact ⟨() :: marks, u, e', negation_consumes.many_cons hone hmarks, hc, rfl⟩

theorem Strays.not (h : Strays s) : Strays ("not ".toList ++ s) := by
  intro e t hs
  obtain ⟨e', hs', -⟩ := unary_not_eq_ok.1 hs
  exact h e' t hs'

theorem value_word_taken {w : Text} (hw : IsOneOf valueWords w) (hr : Ends Text.isWordChar r) :
    ∃ v, value (w ++ r) = .ok (v, r) := by
  obtain ⟨spelling, hmem, hspells⟩ := hw
  simp only [valueWords, List.mem_cons, List.not_mem_nil, or_false] at hmem
  rcases hmem with rfl | rfl | rfl
  · exact ⟨_, value_true hspells hr⟩
  · exact ⟨_, value_false hspells hr⟩
  · exact ⟨_, value_null hspells hr⟩

theorem operand_value_point {w : Text} (hw : IsOneOf valueWords w) (r : Text) :
    ∃ v, operand expression (w ++ '.' :: r) = .ok (.literal v, '.' :: r) ∧ Refuses negation (w ++ '.' :: r) := by
  obtain ⟨v, hv⟩ := value_word_taken (r := '.' :: r) hw (.cons (by decide) r)
  exact ⟨v, operand_literal hv, negation_refuses_value hv⟩

theorem strays_value_point {w : Text} (hw : IsOneOf valueWords w) (r : Text) : Strays (w ++ '.' :: r) := by
  obtain ⟨v, hoperand, hnegation⟩ := operand_value_point hw r
  exact strays_of_eq (unary_eq_ok.2 ⟨[], _, _, hnegation.many, comparison_before_point hoperand, rfl⟩)

theorem strays_not_point {w : Text} (hw : Spells "not" w) (r : Text) : Strays (w ++ '.' :: r) := by
  have hone : negation (w ++ '.' :: r) = .ok ((), '.' :: r) := by
    have hblank : Ends Text.isBlank (w ++ '.' :: r) :=
      .of_isWord (hw.isWord (by decide)) (fun _ => isBlank_of_isWordStart) _
    rw [negation, bind_ok (blanks_self hblank), hw.keyword (by decide) (.cons (by decide) r)]
  have hmany := negation_consumes.many_cons hone (negation_refuses_point r).many
  intro e t h
  obtain ⟨marks, u, e', hmarks, hc, -⟩ := unary_eq_ok.1 h
  rw [hmany] at hmarks
  cases hmarks
  -- What follows the `not` is no operand, so there is no comparison either.
  obtain ⟨left, v, hleft, -⟩ := bind_eq_ok.1 hc
  obtain ⟨failure, hfailure, -⟩ := operand_refuses_point expression r
  rw [hleft] at hfailure
  cases hfailure

theorem readable_eq : CompareOp.eq.Readable := trivial

theorem spelled_eq : CompareOp.eq.Spelled ['='] := rfl

theorem compareOp_equals (u : Text) : compareOp (" = ".toList ++ u) = .ok (.eq, ' ' :: u) :=
  compareOp_spelled readable_eq spelled_eq .space .space

theorem Reads.equals {left right : Expr} {a b : Text} (ha : Reads .primary left a) (hb : ReadsOperand right b) :
    Reads .comparison (.compare .eq left right) (a ++ (" = ".toList ++ b)) := by
  have hequals : " = ".toList ++ b = [' '] ++ (['='] ++ ([' '] ++ b)) := rfl
  rw [hequals]
  exact Reads.compare readable_eq spelled_eq .space .space ha hb

theorem strays_compared {w : Text} (hw : IsOneOf valueWords w) (r : Text) :
    Strays ("1 = ".toList ++ (w ++ '.' :: r)) := by
  obtain ⟨v, hoperand, -⟩ := operand_value_point hw r
  have hone (u : Text) : operand expression ("1 = ".toList ++ u) = .ok (.literal (.int 1), " = ".toList ++ u) :=
    operand_literal (value_literal (.int 1) rfl _ (.cons (by decide) _))
  have hright : operand expression (' ' :: (w ++ '.' :: r)) = .ok (.literal v, '.' :: r) :=
    (operand_skipsBlanks.cons (by decide) _).trans hoperand
  have hcomparison : comparison expression ("1 = ".toList ++ (w ++ '.' :: r)) =
      .ok (.compare .eq (.literal (.int 1)) (.literal v), '.' :: r) := by
    rw [comparison, bind_ok (hone _), bind_ok (optional_ok (compareOp_equals _))]
    exact bind_ok (commit_ok hright)
  have hnegation : Refuses negation ("1 = ".toList ++ (w ++ '.' :: r)) :=
    negation_refuses (.cons (by decide) _) (.cons (by decide) _)
  exact strays_of_eq (unary_eq_ok.2 ⟨[], _, _, hnegation.many, hcomparison, rfl⟩)

end Grammar

open Grammar

/-! ## Rules -/

theorem parse_strays {rule : String} (h : Strays rule.toList) : ∃ error, parse rule = .error error := by
  cases hparse : parse rule with
  | error error => exact ⟨error, rfl⟩
  | ok e =>
      obtain ⟨e', u, hexpression, hu, -⟩ := parse_eq_ok.1 hparse
      cases hunary : unary expression rule.toList with
      | error failure =>
          rw [expression_error hunary] at hexpression
          cases hexpression
      | ok out =>
          obtain ⟨r, hr⟩ := h out.1 out.2 hunary
          have hpoint : unary expression rule.toList = .ok (out.1, '.' :: r) := by rw [hunary, ← hr]
          rw [expression_before_point hpoint] at hexpression
          cases hexpression
          cases hu '.' List.mem_cons_self

theorem parse_eq_of_reads {t : Tightness} {rule : String} {e : Expr} (h : Reads t e.unnumbered rule.toList) :
    parse rule = .ok (e.numbered 0).1 := by
  have hreads : Reads .disjunction e.unnumbered rule.toList := h.mono (Nat.zero_le _)
  have hparse := parse_of_reads hreads .nil
  rwa [List.append_nil, String.ofList_toList] at hparse

/-- The text is read as the expression if the condition holds, and is no rule otherwise. -/
def ReadsExactlyIf (condition : Prop) (rule : String) (e : Expr) : Prop :=
  (condition → parse rule = .ok e) ∧ (¬ condition → ∃ error, parse rule = .error error)

section

variable {first : Text} {others : List Text}

/-- The words with points between them. -/
def pathOf (first : Text) (others : List Text) : String := String.ofList (List.intercalate ['.'] (first :: others))

theorem toList_pathOf_cons (first next : Text) (others : List Text) :
    ∃ r, (pathOf first (next :: others)).toList = first ++ '.' :: r := by
  rw [pathOf, String.toList_ofList, intercalate_cons]
  exact ⟨_, rfl⟩

theorem readablePath_pathOf (afterOperator : Bool) (hwords : ∀ w ∈ first :: others, Text.isWord w = true)
    (hreserved : others = [] → isReserved first = false) (hvalue : ¬ IsOneOf valueWords first)
    (hnot : afterOperator = false → ¬ Spells "not" first) : ReadablePath afterOperator (pathOf first others) :=
  ⟨first, others, String.toList_ofList, hwords, fun spelling hmem hspells => hvalue ⟨spelling, hmem, hspells⟩,
    hreserved, hnot⟩

/-- Only a path of several words can start with a word that is read for something else. -/
theorem exists_point (hreserved : others = [] → isReserved first = false)
    (htaken : IsOneOf ("not" :: valueWords) first) : ∃ r, (pathOf first others).toList = first ++ '.' :: r := by
  cases others with
  | cons next others => exact toList_pathOf_cons first next others
  | nil =>
      obtain ⟨spelling, hmem, hspells⟩ := htaken
      have hwords : ∀ spelling ∈ "not" :: valueWords, spelling ∈ reservedWords := by decide
      exact absurd hspells (not_spells_of_isReserved (hreserved rfl) (hwords spelling hmem))

theorem strays_point (htaken : IsOneOf ("not" :: valueWords) first) (r : Text) : Strays (first ++ '.' :: r) := by
  obtain ⟨spelling, hmem, hspells⟩ := htaken
  rcases List.mem_cons.1 hmem with rfl | hmem
  · exact strays_not_point hspells r
  · exact strays_value_point ⟨spelling, hmem, hspells⟩ r

theorem reads_pathOf (hwords : ∀ w ∈ first :: others, Text.isWord w = true)
    (hreserved : others = [] → isReserved first = false) (hfree : ¬ IsOneOf ("not" :: valueWords) first) :
    Reads .primary (.field (pathOf first others)) (pathOf first others).toList := by
  have hpath : ReadablePath false (pathOf first others) := by
    refine readablePath_pathOf false hwords hreserved ?_ ?_
    · rintro ⟨spelling, hmem, hspells⟩
      exact hfree ⟨spelling, List.mem_cons_of_mem _ hmem, hspells⟩
    · intro _ hspells
      exact hfree ⟨"not", List.mem_cons_self, hspells⟩
  exact ⟨ReadsOperand.field hpath, Opens.field hpath⟩

theorem reads_one : Reads .primary (.literal (.int 1)) ['1'] :=
  .literal fun r hr => value_literal (.int 1) rfl r hr

section

variable (hwords : ∀ w ∈ first :: others, Text.isWord w = true) (hreserved : others = [] → isReserved first = false)
include hwords hreserved

theorem parse_pathAlone : ReadsExactlyIf (¬ IsOneOf ("not" :: valueWords) first) (pathOf first others)
    (.field (pathOf first others)) := by
  constructor
  · intro hfree
    exact parse_eq_of_reads (e := .field _) (reads_pathOf hwords hreserved hfree)
  · intro htaken
    obtain ⟨r, hr⟩ := exists_point hreserved (not_not.1 htaken)
    refine parse_strays ?_
    rw [hr]
    exact strays_point (not_not.1 htaken) r

theorem parse_pathOnLeft : ReadsExactlyIf (¬ IsOneOf ("not" :: valueWords) first) (pathOf first others ++ " = 1")
    (.compare .eq (.field (pathOf first others)) (.literal (.int 1))) := by
  constructor
  · intro hfree
    have hreads := (reads_pathOf hwords hreserved hfree).equals reads_one.1
    refine parse_eq_of_reads (t := .comparison) (e := .compare .eq (.field _) (.literal _)) ?_
    rw [String.toList_append]
    exact hreads
  · intro htaken
    obtain ⟨r, hr⟩ := exists_point hreserved (not_not.1 htaken)
    refine parse_strays ?_
    rw [String.toList_append, hr, List.append_assoc]
    exact strays_point (not_not.1 htaken) _

theorem parse_pathOnRight : ReadsExactlyIf (¬ IsOneOf valueWords first) ("1 = " ++ pathOf first others)
    (.compare .eq (.literal (.int 1)) (.field (pathOf first others))) := by
  constructor
  · intro hfree
    have hpath := readablePath_pathOf true hwords hreserved hfree (fun h => by cases h)
    have hreads := reads_one.equals (ReadsOperand.field hpath)
    refine parse_eq_of_reads (t := .comparison) (e := .compare .eq (.literal _) (.field _)) ?_
    rw [String.toList_append]
    exact hreads
  · intro htaken
    obtain ⟨spelling, hmem, hspells⟩ := not_not.1 htaken
    obtain ⟨r, hr⟩ := exists_point hreserved ⟨spelling, List.mem_cons_of_mem _ hmem, hspells⟩
    refine parse_strays ?_
    rw [String.toList_append, hr]
    exact strays_compared ⟨spelling, hmem, hspells⟩ r

theorem parse_pathAfterNot : ReadsExactlyIf (¬ IsOneOf ("not" :: valueWords) first) ("not " ++ pathOf first others)
    (.not (.field (pathOf first others))) := by
  constructor
  · intro hfree
    have hpath : Reads .negation (.field (pathOf first others)) (pathOf first others).toList :=
      (reads_pathOf hwords hreserved hfree).mono (by decide)
    have hreads := Reads.not (w := "not".toList) rfl .space hpath
    refine parse_eq_of_reads (t := .negation) (e := .not (.field _)) ?_
    rw [String.toList_append]
    exact hreads
  · intro htaken
    obtain ⟨r, hr⟩ := exists_point hreserved (not_not.1 htaken)
    refine parse_strays ?_
    rw [String.toList_append, hr]
    exact (strays_point (not_not.1 htaken) r).not

end

/-- Where a path is read as a path: alone, on the left and after `not`, unless it starts with `not` or a value; right
after an operator, unless it starts with a value. Where it is not read as a path, there is a syntax error. -/
theorem parse_path (first : Text) (others : List Text) (hwords : ∀ w ∈ first :: others, Text.isWord w = true)
    (hreserved : others = [] → isReserved first = false) :
    let path := pathOf first others
    ReadsExactlyIf (¬ IsOneOf ("not" :: valueWords) first) path (.field path) ∧
    ReadsExactlyIf (¬ IsOneOf ("not" :: valueWords) first) (path ++ " = 1")
      (.compare .eq (.field path) (.literal (.int 1))) ∧
    ReadsExactlyIf (¬ IsOneOf valueWords first) ("1 = " ++ path) (.compare .eq (.literal (.int 1)) (.field path)) ∧
    ReadsExactlyIf (¬ IsOneOf ("not" :: valueWords) first) ("not " ++ path) (.not (.field path)) :=
  ⟨parse_pathAlone hwords hreserved, parse_pathOnLeft hwords hreserved, parse_pathOnRight hwords hreserved,
    parse_pathAfterNot hwords hreserved⟩

theorem parse_path_reserved : pathOf "and".toList ["true".toList] = "and.true" ∧
    parse "and.true" = .ok (.field "and.true") ∧ (∃ error, parse "not.x" = .error error) ∧
    parse "1 = not.x" = .ok (.compare .eq (.literal (.int 1)) (.field "not.x")) := by
  obtain ⟨hand, -⟩ := parse_path "and".toList ["true".toList] (by decide) (by decide)
  obtain ⟨hnot, -, hright, -⟩ := parse_path "not".toList ["x".toList] (by decide) (by decide)
  have hfree : ¬ IsOneOf ("not" :: valueWords) "and".toList := by
    rintro ⟨spelling, hmem, hspells⟩
    revert spelling
    decide
  refine ⟨rfl, hand.1 hfree, hnot.2 (not_not.2 ⟨"not", by decide, rfl⟩), hright.1 ?_⟩
  rintro ⟨spelling, hmem, hspells⟩
  revert spelling
  decide

/-- Not every path is read as one: a value or a `not` in front is taken for itself, though `not` is a path after an
operator. -/
theorem parse_path_taken : parse "true.x" ≠ .ok (.field "true.x") ∧
    parse "not.x = 1" ≠ .ok (.compare .eq (.field "not.x") (.literal (.int 1))) ∧
    parse "1 = not.x" = .ok (.compare .eq (.literal (.int 1)) (.field "not.x")) := by
  have htrue : Strays "true.x".toList := strays_value_point (w := "true".toList) ⟨"true", by decide, rfl⟩ _
  have hnot : Strays "not.x = 1".toList := strays_not_point (w := "not".toList) rfl _
  refine ⟨fun h => ?_, fun h => ?_, rfl⟩
  · obtain ⟨error, herror⟩ := parse_strays htrue
    cases h.symm.trans herror
  · obtain ⟨error, herror⟩ := parse_strays hnot
    cases h.symm.trans herror

end

end Expr

end CompiledRules
