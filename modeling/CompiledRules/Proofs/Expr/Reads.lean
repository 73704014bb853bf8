import CompiledRules.Expr.Printer
import CompiledRules.Proofs.Expr.Operand

/-!
# Reading rules level by level

`Reads` says how a text is read at each tightness. It is closed under the operations of that tightness, under
parentheses and under blanks in front, and what is read at one tightness is read the same at every looser one.
-/

namespace CompiledRules

open CompiledRules.Parser

/-! ## Comparison operators -/

/-- The runs of symbols that stand for comparisons with a name. -/
def builtinSymbols : List String := ["=", "==", "!=", "<>", ">", ">=", "<", "<="]

namespace CompareOp

/-- A rule can write the comparison. -/
def Readable : CompareOp → Prop
  | .custom symbol =>
      symbol.toList ≠ [] ∧ (∀ c ∈ symbol.toList, Expr.Grammar.isSymbol c = true) ∧ symbol ∉ builtinSymbols
  | _ => True

/-- The text is the comparison as a rule writes it, with its word in either case. -/
def Spelled : CompareOp → Text → Prop
  | .isIn, w => Spells "in" w
  | .like, w => Spells "like" w
  | op, w => w = op.symbol.toList

end CompareOp

namespace Expr.Tightness

theorem rank_injective {t t' : Tightness} (h : t.rank = t'.rank) : t = t' := by
  cases t <;> cases t' <;> first | rfl | cases h

theorem exists_looser {t : Tightness} (h : 0 < t.rank) : ∃ u : Tightness, t.rank = u.rank + 1 := by
  cases t with
  | disjunction => cases h
  | exclusion => exact ⟨.disjunction, rfl⟩
  | conjunction => exact ⟨.exclusion, rfl⟩
  | negation => exact ⟨.conjunction, rfl⟩
  | comparison => exact ⟨.negation, rfl⟩
  | primary => exact ⟨.comparison, rfl⟩

end Expr.Tightness

namespace Expr.Grammar

/-- No symbol is of a class that holds none of the five. -/
theorem not_isSymbol {accepts : Char → Bool}
    (h : accepts '<' = false ∧ accepts '>' = false ∧ accepts '=' = false ∧ accepts '!' = false ∧ accepts '~' = false)
    {c : Char} (hc : accepts c = true) : isSymbol c = false := by
  cases hsymbol : isSymbol c with
  | false => rfl
  | true =>
      have hone : c = '<' ∨ c = '>' ∨ c = '=' ∨ c = '!' ∨ c = '~' := by simpa [isSymbol] using hsymbol
      obtain ⟨hless, hgreater, hequal, hmark, htilde⟩ := h
      rcases hone with rfl | rfl | rfl | rfl | rfl
      all_goals simp_all

theorem isSymbol_of_isBlank {c : Char} (h : Text.isBlank c = true) : isSymbol c = false := not_isSymbol (by decide) h

theorem isSymbol_of_isWordStart {c : Char} (h : Text.isWordStart c = true) : isSymbol c = false :=
  not_isSymbol (by decide) h

theorem symbolicOp_of_notMem {symbol : String} (h : symbol ∉ builtinSymbols) :
    symbolicOp symbol.toList = .custom symbol := by
  simp only [builtinSymbols, List.mem_cons, List.not_mem_nil, or_false, not_or] at h
  rw [symbolicOp, String.ofList_toList]
  split <;> simp_all

section

variable {w g g' r s : Text}

theorem compareOp_symbols (hne : w ≠ []) (hw : ∀ c ∈ w, isSymbol c = true) (hr : Ends isSymbol r) :
    compareOp (w ++ r) = .ok (symbolicOp w, r) := by
  have hblank : Ends Text.isBlank (w ++ r) := by
    cases w with
    | nil => exact absurd rfl hne
    | cons c w =>
        refine .cons ?_ _
        cases hc : Text.isBlank c with
        | false => rfl
        | true =>
            have hsymbol := hw c List.mem_cons_self
            rw [isSymbol_of_isBlank hc] at hsymbol
            cases hsymbol
  rw [compareOp, bind_ok (blanks_self hblank)]
  exact orElse_ok (bind_ok (runSome_append hne hw hr))

theorem runSome_refuses_word (hw : Text.isWord w = true) (r : Text) : Refuses (runSome isSymbol) (w ++ r) :=
  runSome_refuses (.of_isWord hw (fun _ => isSymbol_of_isWordStart) r)

theorem compareOp_in (hw : Spells "in" w) (hr : Ends Text.isWordChar r) : compareOp (w ++ r) = .ok (.isIn, r) := by
  have hword := hw.isWord (by decide)
  rw [compareOp, bind_ok (blanks_self (.of_isWord hword (fun _ => isBlank_of_isWordStart) r)),
    ((runSome_refuses_word hword r).bind _).orElse_eq]
  exact orElse_ok (bind_ok (hw.keyword (by decide) hr))

theorem compareOp_like (hw : Spells "like" w) (hr : Ends Text.isWordChar r) :
    compareOp (w ++ r) = .ok (.like, r) := by
  have hword := hw.isWord (by decide)
  have hin : Refuses (keyword "in") (w ++ r) := hw.keyword_refuses (by decide) (by decide) hr
  rw [compareOp, bind_ok (blanks_self (.of_isWord hword (fun _ => isBlank_of_isWordStart) r)),
    ((runSome_refuses_word hword r).bind _).orElse_eq, (hin.bind _).orElse_eq]
  exact bind_ok (hw.keyword (by decide) hr)

/-- A comparison is read from its text between two gaps. -/
theorem compareOp_spelled {op : CompareOp} (hop : op.Readable) (hw : op.Spelled w) (hg : Gap g) (hg' : Gap g') :
    compareOp (g ++ (w ++ (g' ++ s))) = .ok (op, g' ++ s) := by
  have hsymbol : Ends isSymbol (g' ++ s) := hg'.ends (fun _ => isSymbol_of_isBlank) s
  rw [compareOp_skipsBlanks.append hg.blanks]
  cases op with
  | isIn => exact compareOp_in hw (hg'.word s)
  | like => exact compareOp_like hw (hg'.word s)
  | custom symbol =>
      obtain ⟨hne, hall, hnot⟩ := hop
      change w = symbol.toList at hw
      subst hw
      rw [compareOp_symbols hne hall hsymbol, symbolicOp_of_notMem hnot]
  | _ =>
      cases hw
      rw [compareOp_symbols (by simp [CompareOp.symbol]) (by simp [CompareOp.symbol, isSymbol]) hsymbol]
      rfl

end

/-! ## What may follow -/

/-- A text that does not go on with a comparison. -/
structure EndsComparison (r : Text) : Prop where
  term : EndsTerm r
  compareOp : Refuses compareOp r

/-- A text that does not go on with a conjunction. -/
structure EndsConjunction (r : Text) : Prop extends EndsComparison r where
  conjunction : Refuses (connective "and") r

/-- A text that does not go on with an exclusive disjunction. -/
structure EndsExclusion (r : Text) : Prop extends EndsConjunction r where
  exclusion : Refuses (connective "xor") r

/-- A text that does not go on with an expression. -/
structure EndsExpression (r : Text) : Prop extends EndsExclusion r where
  disjunction : Refuses (connective "or") r

theorem EndsExpression.of_char {c : Char} (h : isSymbol c = false ∧ Text.isBlank c = false ∧ Text.isWordStart c = false)
    (hterm : goesOnTerm c = false) (r : Text) : EndsExpression (c :: r) := by
  obtain ⟨hsymbol, hblank, hword⟩ := h
  have hkeyword (spelling : String) : Refuses (keyword spelling) (c :: r) := keyword_refuses (.cons hword r)
  have hconnective (spelling : String) : Refuses (connective spelling) (c :: r) :=
    .bind_ok (blanks_self (.cons hblank r)) (hkeyword spelling)
  refine ⟨⟨⟨⟨.cons hterm r, ?_⟩, hconnective _⟩, hconnective _⟩, hconnective _⟩
  exact .bind_ok (blanks_self (.cons hblank r)) (.orElse ((runSome_refuses (.cons hsymbol r)).bind _) <|
    .orElse ((hkeyword _).bind _) ((hkeyword _).bind _))

theorem endsExpression_parenthesis (r : Text) : EndsExpression (')' :: r) := .of_char (by decide) (by decide) r

theorem endsExpression_comma (r : Text) : EndsExpression (',' :: r) := .of_char (by decide) (by decide) r

theorem endsExpression_nil : EndsExpression [] :=
  ⟨⟨⟨⟨.nil _, ⟨_, rfl, rfl⟩⟩, ⟨_, rfl, rfl⟩⟩, ⟨_, rfl, rfl⟩⟩, ⟨_, rfl, rfl⟩⟩

/-- Blanks in front do not change what a text goes on with. -/
theorem EndsExpression.afterBlanks {u r : Text} (hu : Blanks u) (h : EndsExpression r) : EndsExpression (u ++ r) where
  term := hu.ends (fun _ => goesOnTerm_of_isBlank) h.term
  compareOp := compareOp_skipsBlanks.refuses hu h.compareOp
  conjunction := (connective_skipsBlanks _).refuses hu h.conjunction
  exclusion := (connective_skipsBlanks _).refuses hu h.exclusion
  disjunction := (connective_skipsBlanks _).refuses hu h.disjunction

section

variable {spelling : String} {w g r : Text}

theorem connective_spelled (hs : Text.isWord spelling.toList = true) (hw : Spells spelling w) (hg : Gap g)
    (hr : Ends Text.isWordChar r) : connective spelling (g ++ (w ++ r)) = .ok ((), r) := by
  have hblank : Ends Text.isBlank (w ++ r) := .of_isWord (hw.isWord hs) (fun _ => isBlank_of_isWordStart) r
  rw [(connective_skipsBlanks _).append hg.blanks, connective, bind_ok (blanks_self hblank), hw.keyword hs hr]

theorem connective_refuses {other : String} (hs : Text.isWord spelling.toList = true) (hne : spelling ≠ other)
    (hw : Spells spelling w) (hg : Gap g) (hr : Ends Text.isWordChar r) :
    Refuses (connective other) (g ++ (w ++ r)) := by
  have hblank : Ends Text.isBlank (w ++ r) := .of_isWord (hw.isWord hs) (fun _ => isBlank_of_isWordStart) r
  exact (connective_skipsBlanks _).refuses hg.blanks (.bind_ok (blanks_self hblank) (hw.keyword_refuses hs hne hr))

/-- A connective is no comparison. -/
theorem endsComparison_connective (hs : Text.isWord spelling.toList = true)
    (hne : spelling ≠ "in" ∧ spelling ≠ "like") (hw : Spells spelling w) (hg : Gap g) (hr : Ends Text.isWordChar r) :
    EndsComparison (g ++ (w ++ r)) := by
  have hnot {other : String} (h : spelling ≠ other) : ¬ Spells other w :=
    fun hother => h (String.toList_inj.1 (hw.symm.trans hother))
  have hword := hw.isWord hs
  refine ⟨hg.ends (fun _ => goesOnTerm_of_isBlank) _, compareOp_skipsBlanks.refuses hg.blanks ?_⟩
  exact .bind_ok (blanks_self (.of_isWord hword (fun _ => isBlank_of_isWordStart) r))
    (.orElse ((runSome_refuses_word hword r).bind _) <|
      .orElse ((keyword_refuses_word hword (hnot hne.1) hr).bind _)
        ((keyword_refuses_word hword (hnot hne.2) hr).bind _))

theorem endsConjunction_xor (hw : Spells "xor" w) (hg : Gap g) (hr : Ends Text.isWordChar r) :
    EndsConjunction (g ++ (w ++ r)) :=
  ⟨endsComparison_connective (by decide) (by decide) hw hg hr,
    connective_refuses (by decide) (by decide) hw hg hr⟩

theorem endsExclusion_or (hw : Spells "or" w) (hg : Gap g) (hr : Ends Text.isWordChar r) :
    EndsExclusion (g ++ (w ++ r)) :=
  ⟨⟨endsComparison_connective (by decide) (by decide) hw hg hr,
    connective_refuses (by decide) (by decide) hw hg hr⟩, connective_refuses (by decide) (by decide) hw hg hr⟩

end

/-! ## Reading a text at a tightness -/

/-- The text is read as an operand. -/
def ReadsOperand (e : Expr) (text : Text) : Prop :=
  ∀ r, EndsTerm r → operand expression (text ++ r) = .ok (e, r)

/-- No `not` starts the text. -/
def Opens (text : Text) : Prop := ∀ r, EndsTerm r → Refuses negation (text ++ r)

/-- How the text is read at this tightness. A chain is read up to its end, from where it may go on. -/
def Reads : Tightness → Expr → Text → Prop
  | .primary, e, text => ReadsOperand e text ∧ Opens text
  | .comparison, e, text => (∀ r, EndsComparison r → comparison expression (text ++ r) = .ok (e, r)) ∧ Opens text
  | .negation, e, text => ∀ r, EndsComparison r → unary expression (text ++ r) = .ok (e, r)
  | .conjunction, e, text => ∀ r, EndsComparison r →
      conjunction expression (text ++ r) = chainFrom (unary expression) (connective "and") .and e r
  | .exclusion, e, text => ∀ r, EndsConjunction r →
      exclusion expression (text ++ r) = chainFrom (conjunction expression) (connective "xor") .xor e r
  | .disjunction, e, text => ∀ r, EndsExclusion r →
      disjunction expression (text ++ r) = chainFrom (exclusion expression) (connective "or") .or e r

variable {e l r : Expr} {text a b g g' u w : Text}

theorem unary_eq_ok {p : Parser Expr} {s t : Text} : unary p s = .ok (e, t) ↔
    ∃ marks u e', many negation s = .ok (marks, u) ∧ comparison p u = .ok (e', t) ∧
      e = marks.foldr (fun _ e => .not e) e' := by
  rw [unary, bind_eq_ok]
  constructor
  · rintro ⟨marks, u, hmarks, h⟩
    cases marks with
    | nil => exact ⟨[], u, e, hmarks, h, rfl⟩
    | cons mark marks =>
        obtain ⟨e', t', hc, h⟩ := bind_eq_ok.1 h
        obtain ⟨rfl, rfl⟩ := pure_eq_ok.1 h
        exact ⟨mark :: marks, u, e', hmarks, commit_eq_ok.1 hc, rfl⟩
  · rintro ⟨marks, u, e', hmarks, hc, rfl⟩
    refine ⟨marks, u, hmarks, ?_⟩
    cases marks with
    | nil => exact hc
    | cons mark marks => exact bind_ok (commit_ok hc)

theorem Reads.expression_eq (h : Reads .disjunction e text) {r : Text} (hr : EndsExpression r) :
    expression (text ++ r) = .ok (e, r) := by
  rw [expression_apply, h r hr.toEndsExclusion, chainFrom_end hr.disjunction]

/-! ### Looser levels -/

theorem Reads.toComparison (h : Reads .primary e text) : Reads .comparison e text := by
  refine ⟨fun r hr => ?_, h.2⟩
  rw [comparison, bind_ok (h.1 r hr.term), bind_ok hr.compareOp.optional]
  rfl

theorem Reads.toNegation (h : Reads .comparison e text) : Reads .negation e text :=
  fun r hr => unary_eq_ok.2 ⟨[], text ++ r, e, (h.2 r hr.term).many, h.1 r hr, rfl⟩

theorem Reads.toConjunction (h : Reads .negation e text) : Reads .conjunction e text :=
  fun r hr => chain_operand (h r hr)

theorem Reads.toExclusion (h : Reads .conjunction e text) : Reads .exclusion e text := by
  intro r hr
  refine chain_operand ?_
  rw [h r hr.toEndsComparison, chainFrom_end hr.conjunction]

theorem Reads.toDisjunction (h : Reads .exclusion e text) : Reads .disjunction e text := by
  intro r hr
  refine chain_operand ?_
  rw [h r hr.toEndsConjunction, chainFrom_end hr.exclusion]

theorem Reads.looser {t t' : Tightness} (ht : t.rank = t'.rank + 1) (h : Reads t e text) : Reads t' e text := by
  cases t' <;> cases t <;> cases ht
  · exact h.toDisjunction
  · exact h.toExclusion
  · exact h.toConjunction
  · exact h.toNegation
  · exact h.toComparison

/-- What binds tighter may stand in every looser place. -/
theorem Reads.mono {t t' : Tightness} (h : Reads t e text) (hle : t'.rank ≤ t.rank) : Reads t' e text := by
  obtain ⟨k, hk⟩ := Nat.exists_eq_add_of_le hle
  induction k generalizing t with
  | zero => rwa [Tightness.rank_injective hk] at h
  | succ k ih =>
      obtain ⟨next, hnext⟩ := Tightness.exists_looser (t := t) (by omega)
      exact ih (h.looser hnext) (by omega) (by omega)

/-- The text is read the same after blanks. -/
theorem Reads.afterBlanks {t : Tightness} (h : Reads t e text) (hu : Blanks u) : Reads t e (u ++ text) := by
  have hopens (hopens : Opens text) : Opens (u ++ text) := by
    intro r hr
    rw [List.append_assoc]
    exact negation_skipsBlanks.refuses hu (hopens r hr)
  cases t with
  | primary =>
      refine ⟨fun r hr => ?_, hopens h.2⟩
      rw [List.append_assoc, operand_skipsBlanks.append hu, h.1 r hr]
  | comparison =>
      refine ⟨fun r hr => ?_, hopens h.2⟩
      rw [List.append_assoc, comparison_skipsBlanks.append hu, h.1 r hr]
  | negation =>
      intro r hr
      rw [List.append_assoc, unary_skipsBlanks.append hu, h r hr]
  | conjunction =>
      intro r hr
      rw [List.append_assoc, conjunction_skipsBlanks.append hu, h r hr]
  | exclusion =>
      intro r hr
      rw [List.append_assoc, exclusion_skipsBlanks.append hu, h r hr]
  | disjunction =>
      intro r hr
      rw [List.append_assoc, disjunction_skipsBlanks.append hu, h r hr]

theorem ReadsOperand.afterBlanks (h : ReadsOperand e text) (hu : Blanks u) : ReadsOperand e (u ++ text) := by
  intro r hr
  rw [List.append_assoc, operand_skipsBlanks.append hu, h r hr]

/-! ### Operations -/

theorem Reads.not (hw : Spells "not" w) (hg : Gap g) (h : Reads .negation e text) :
    Reads .negation (.not e) (w ++ (g ++ text)) := by
  intro r hr
  obtain ⟨marks, s, e', hmarks, hc, rfl⟩ := unary_eq_ok.1 ((unary_skipsBlanks.append hg.blanks _).trans (h r hr))
  have hblank : Ends Text.isBlank (w ++ (g ++ (text ++ r))) :=
    .of_isWord (hw.isWord (by decide)) (fun _ => isBlank_of_isWordStart) _
  have hone : negation (w ++ (g ++ (text ++ r))) = .ok ((), g ++ (text ++ r)) := by
    rw [negation, bind_ok (blanks_self hblank), hw.keyword (by decide) (hg.word _)]
  rw [List.append_assoc, List.append_assoc]
  exact unary_eq_ok.2 ⟨() :: marks, s, e', negation_consumes.many_cons hone hmarks, hc, rfl⟩

theorem Reads.compare {op : CompareOp} (hop : op.Readable) (hw : op.Spelled w) (hg : Gap g) (hg' : Gap g')
    (ha : Reads .primary l a) (hb : ReadsOperand r b) :
    Reads .comparison (.compare op l r) (a ++ (g ++ (w ++ (g' ++ b)))) := by
  have hterm (s : Text) : EndsTerm (g ++ s) := hg.ends (fun _ => goesOnTerm_of_isBlank) s
  constructor
  · intro t ht
    simp only [List.append_assoc]
    rw [comparison, bind_ok (ha.1 _ (hterm _)), bind_ok (optional_ok (compareOp_spelled hop hw hg hg'))]
    refine bind_ok (commit_ok ?_)
    rw [operand_skipsBlanks.append hg'.blanks, hb t ht.term]
  · intro t _
    rw [List.append_assoc, List.append_assoc]
    exact ha.2 _ (hterm _)

theorem tracks_unary_expression (n : Nat) : Tracks [] 0 n (unary expression) (unary expression) :=
  (tracks_unary tracks_expression).taking (by omega)

theorem tracks_conjunction_expression (n : Nat) : Tracks [] 0 n (conjunction expression) (conjunction expression) :=
  (tracks_conjunction tracks_expression).taking (by omega)

theorem tracks_exclusion_expression (n : Nat) : Tracks [] 0 n (exclusion expression) (exclusion expression) :=
  (tracks_exclusion tracks_expression).taking (by omega)

theorem Reads.and (hw : Spells "and" w) (hg : Gap g) (hg' : Gap g') (ha : Reads .conjunction l a)
    (hb : Reads .negation r b) : Reads .conjunction (.and l r) (a ++ (g ++ (w ++ (g' ++ b)))) := by
  intro t ht
  have hright : unary expression (g' ++ (b ++ t)) = .ok (r, t) := by
    rw [unary_skipsBlanks.append hg'.blanks, hb t ht]
  simp only [List.append_assoc]
  rw [ha _ (endsComparison_connective (by decide) (by decide) hw hg (hg'.word _))]
  exact chainFrom_step (connective_consumes _) tracks_unary_expression
    (connective_spelled (by decide) hw hg (hg'.word _)) hright

theorem Reads.xor (hw : Spells "xor" w) (hg : Gap g) (hg' : Gap g') (ha : Reads .exclusion l a)
    (hb : Reads .conjunction r b) : Reads .exclusion (.xor l r) (a ++ (g ++ (w ++ (g' ++ b)))) := by
  intro t ht
  have hright : conjunction expression (g' ++ (b ++ t)) = .ok (r, t) := by
    rw [conjunction_skipsBlanks.append hg'.blanks, hb t ht.toEndsComparison, chainFrom_end ht.conjunction]
  simp only [List.append_assoc]
  rw [ha _ (endsConjunction_xor hw hg (hg'.word _))]
  exact chainFrom_step (connective_consumes _) tracks_conjunction_expression
    (connective_spelled (by decide) hw hg (hg'.word _)) hright

theorem Reads.or (hw : Spells "or" w) (hg : Gap g) (hg' : Gap g') (ha : Reads .disjunction l a)
    (hb : Reads .exclusion r b) : Reads .disjunction (.or l r) (a ++ (g ++ (w ++ (g' ++ b)))) := by
  intro t ht
  have hright : exclusion expression (g' ++ (b ++ t)) = .ok (r, t) := by
    rw [exclusion_skipsBlanks.append hg'.blanks, hb t ht.toEndsConjunction, chainFrom_end ht.exclusion]
  simp only [List.append_assoc]
  rw [ha _ (endsExclusion_or hw hg (hg'.word _))]
  exact chainFrom_step (connective_consumes _) tracks_exclusion_expression
    (connective_spelled (by decide) hw hg (hg'.word _)) hright

/-! ### Operands -/

theorem Opens.of_char {c : Char} (h : Text.isBlank c = false ∧ Text.isWordStart c = false) (s : Text) :
    Opens (c :: s) :=
  fun _ _ => negation_refuses (.cons h.1 _) (.cons h.2 _)

theorem Reads.literal {v : Value} (h : ReadsValue v text) : Reads .primary (.literal v) text :=
  ⟨fun r hr => operand_literal (h r hr.operand), fun r hr => negation_refuses_value (h r hr.operand)⟩

theorem Reads.named {name : String} (hname : Text.isWord name.toList = true) :
    Reads .primary (.parameter (.named name)) (':' :: name.toList) :=
  ⟨fun _ hr => operand_named hname hr.operand.word, .of_char (by decide) _⟩

theorem Reads.positional : Reads .primary (.parameter (.positional 0)) ['?'] :=
  ⟨fun r _ => operand_positional r, .of_char (by decide) _⟩

theorem Reads.parenthesised (h : Reads .disjunction e text) (hu : Blanks u) :
    Reads .primary e ('(' :: (text ++ (u ++ [')']))) := by
  refine ⟨fun r _ => ?_, .of_char (by decide) _⟩
  have hinside := h.expression_eq ((endsExpression_parenthesis r).afterBlanks hu)
  simpa using operand_parenthesised hu hinside

theorem expression_refuses_parenthesis (r : Text) : Refuses expression (')' :: r) := by
  rw [Refuses, expression_apply]
  exact ⟨_, rfl, rfl⟩

theorem arguments_listed {args : List Expr} (h : Listed (Reads .disjunction) args text) (hu : Blanks u) (r : Text) :
    arguments expression ('(' :: (text ++ (u ++ ')' :: r))) = .ok (args, r) := by
  have hcomma {v : Text} (hv : Blanks v) (s : Text) :
      (do (do blanks; char ',' : Parser Unit); expression) (v ++ ',' :: s) = expression s := by
    rw [bind_ok ((bind_ok ((blanks_append hv).trans (blanks_self (.cons (by decide) _)))).trans (char_self _ _))]
  have hclose : Refuses (do blanks; char ',' : Parser Unit) (u ++ ')' :: r) :=
    .bind_ok ((blanks_append hu).trans (blanks_self (.cons (by decide) _))) (char_refuses (.cons (by decide) _))
  have hconsumes : Consumes (do (do blanks; char ',' : Parser Unit); expression) :=
    Tracks.consumes (t := []) fun n =>
      .taking (by omega) (.bind (.bind (.blanks .nil) fun _ => .char (Ends.nil _)) fun _ => tracks_expression)
  obtain ⟨s, hargs, hblanks⟩ := separated_listed hconsumes hcomma
    (fun hv s => (endsExpression_comma s).afterBlanks hv) (fun hread hr => hread.expression_eq hr)
    expression_skipsBlanks h hu (by decide) ((endsExpression_parenthesis r).afterBlanks hu) (hclose.bind _)
    (expression_refuses_parenthesis r)
  rw [arguments, bind_ok (char_self _ _), bind_ok (blanks_apply _), bind_ok hargs, bind_ok hblanks,
    bind_ok (commit_ok (char_self _ _)), pure_apply]

theorem Reads.call {name : String} {args : List Expr} (hname : Text.isWord name.toList = true)
    (hreserved : isReserved name.toList = false) (h : Listed (Reads .disjunction) args text) (hu : Blanks u) :
    Reads .primary (.call name args) (name.toList ++ '(' :: (text ++ (u ++ [')']))) := by
  constructor
  · intro r _
    have hcall := operand_call hname hreserved (arguments_listed h hu r)
    simpa using hcall
  · intro r _
    rw [List.append_assoc]
    exact negation_refuses_word hname (not_spells_of_isReserved hreserved (by decide)) (.cons (by decide) _)

end Expr.Grammar

end CompiledRules
