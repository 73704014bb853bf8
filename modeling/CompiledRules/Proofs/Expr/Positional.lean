import CompiledRules.Proofs.Expr.Count
import CompiledRules.Proofs.Parser.Naming
import Mathlib

/-!
# Which parameter a question mark is

A rule with a name for each of its question marks outside the string literals is read as the same expression with this
name for each positional parameter. So the question marks are numbered as they stand in the rule, and none is lost or
read twice where reading goes back to try another alternative.
-/

namespace CompiledRules.Expr

open CompiledRules.Parser

/-! ## Expressions with names -/

mutual

/-- The expression with a name for each number of a positional parameter. -/
def withNames (names : Nat → String) : Expr → Expr
  | .literal value => .literal value
  | .field path => .field path
  | .parameter (.named name) => .parameter (.named name)
  | .parameter (.positional index) => .parameter (.named (names index))
  | .call name args => .call name (withNamesAll names args)
  | .compare op left right => .compare op (withNames names left) (withNames names right)
  | .and left right => .and (withNames names left) (withNames names right)
  | .or left right => .or (withNames names left) (withNames names right)
  | .xor left right => .xor (withNames names left) (withNames names right)
  | .not operand => .not (withNames names operand)

/-- Each expression with a name for each number of a positional parameter. -/
def withNamesAll (names : Nat → String) : List Expr → List Expr
  | [] => []
  | e :: es => withNames names e :: withNamesAll names es

end

mutual

theorem indices_withNames (names : Nat → String) : (e : Expr) → (e.withNames names).indices = []
  | .literal _ => rfl
  | .field _ => rfl
  | .parameter (.named _) => rfl
  | .parameter (.positional _) => rfl
  | .call _ args => indicesAll_withNamesAll names args
  | .compare op left right => by
      rw [withNames, indices_compare, indices_withNames names left, indices_withNames names right, List.append_nil]
  | .and left right => by
      rw [withNames, indices_and, indices_withNames names left, indices_withNames names right, List.append_nil]
  | .or left right => by
      rw [withNames, indices_or, indices_withNames names left, indices_withNames names right, List.append_nil]
  | .xor left right => by
      rw [withNames, indices_xor, indices_withNames names left, indices_withNames names right, List.append_nil]
  | .not operand => indices_withNames names operand

theorem indicesAll_withNamesAll (names : Nat → String) : (es : List Expr) → indicesAll (withNamesAll names es) = []
  | [] => rfl
  | e :: es => by
      rw [withNamesAll, indicesAll_cons, indices_withNames names e, indicesAll_withNamesAll names es, List.append_nil]

end

theorem numbered_withNames (names : Nat → String) (e : Expr) (n : Nat) :
    ((e.withNames names).numbered n).1 = e.withNames names := by
  have hnone := indices_withNames names e
  rw [numbered_of_indices (e.withNames names) n (by rw [hnone]; rfl)]

/-- The second expression is the first with names for its positional parameters, once these are numbered from `n` up to
`m`. -/
def Renamed (names : Nat → String) (n : Nat) (e e' : Expr) (m : Nat) : Prop :=
  e' = (e.numbered n).1.withNames names ∧ m = (e.numbered n).2

variable {names : Nat → String} {total n : Nat}

theorem Renamed.call {args args' : List Expr} {k : Nat} (h : Listwise (Renamed names) n args args' k) (name : String) :
    Renamed names n (.call name args) (.call name args') k := by
  have hargs : args' = withNamesAll names (numberedAll args n).1 ∧ k = (numberedAll args n).2 := by
    induction h with
    | nil => exact ⟨rfl, rfl⟩
    | cons hitem _ ih =>
        obtain ⟨rfl, rfl⟩ := hitem
        obtain ⟨rfl, rfl⟩ := ih
        exact ⟨rfl, rfl⟩
  obtain ⟨rfl, rfl⟩ := hargs
  exact ⟨rfl, rfl⟩

/-- An operation of two operands numbers the left one first. -/
theorem Renamed.join (operation : Expr → Expr → Expr)
    (hnumbered : ∀ left right n, (operation left right).numbered n =
      (operation (left.numbered n).1 (right.numbered (left.numbered n).2).1, (right.numbered (left.numbered n).2).2))
    (hnames : ∀ left right, (operation left right).withNames names =
      operation (left.withNames names) (right.withNames names))
    {k m : Nat} {left left' right right' : Expr} (hleft : Renamed names k left left' m)
    (hright : Renamed names m right right' n) : Renamed names k (operation left right) (operation left' right') n := by
  obtain ⟨rfl, rfl⟩ := hleft
  obtain ⟨rfl, rfl⟩ := hright
  rw [Renamed, hnumbered, hnames]
  exact ⟨rfl, rfl⟩

theorem Renamed.not {e e' : Expr} {m : Nat} (h : Renamed names n e e' m) : Renamed names n (.not e) (.not e') m := by
  obtain ⟨rfl, rfl⟩ := h
  exact ⟨rfl, rfl⟩

namespace Grammar

/-! ## Operands -/

theorem alike_path : Alike names total .none n (separatedSome word (char '.')) := by
  have hconsumes : Consumes (char '.') := Tracks.consumes fun _ => .char (Ends.nil _)
  have hword (n : Nat) : Tracks [] 0 n word word := (Tracks.word .nil).taking (by omega)
  exact (Parallel.separatedSome hconsumes hword (fun _ => alike_word)
    (fun _ => alike_char (by decide) steady_none) n).same

/-- A question mark stands against a name, and any other parameter against itself. -/
theorem parallel_parameter (hnames : ∀ i, Text.isWord (names i).toList = true) :
    Parallel (Named names total .none n) (Spaced names total)
      (fun p p' m => Renamed names n (.parameter p) (.parameter p') m) parameter parameter := by
  have hcolon (u : Text) : char ':' (':' :: u) = .ok ((), u) := rfl
  intro s t h
  cases h with
  | nil => exact .error rfl
  | @mark _ s t hrest =>
      have hname := word_append (hnames n) (Ends.cons (c := ' ') (by decide) t)
      have hright : parameter (':' :: (names n).toList ++ ' ' :: t) = .ok (.named (names n), ' ' :: t) := by
        refine orElse_ok ((bind_ok (hcolon _)).trans ((bind_ok (commit_ok hname)).trans ?_))
        rw [String.ofList_toList, pure_apply]
      rw [hright]
      -- The blank behind the name is left over on one side.
      exact .ok (n := n + 1) ⟨rfl, rfl⟩ (.blank hrest)
  | @keep _ _ c s t hmark hrest =>
      by_cases hc : c = ':'
      · subst hc
        have hword : Parallel (Named names total .none n) (Named names total .none)
            (fun p p' m => Renamed names n (.parameter p) (.parameter p') m)
            (do return .named (String.ofList (← commit word))) (do return .named (String.ofList (← commit word))) :=
          alike_word.commit.then fun _ => .pure ⟨rfl, rfl⟩
        refine Outcome.orElse ?_ (.error rfl)
        rw [bind_ok (hcolon s), bind_ok (hcolon t)]
        exact hword.spaced s t hrest
      · have hother : c ≠ '?' := by simpa [Quotation.isMark] using hmark
        have hfails {d : Char} (hd : c ≠ d) (u : Text) : char d (c :: u) = fail (c :: u) := by
          simp only [char, hd, ↓reduceIte]
        refine Outcome.orElse ?_ ?_
        · rw [bind_error (hfails hc s), bind_error (hfails hc t)]
          exact .error rfl
        · rw [bind_error (hfails hother s), bind_error (hfails hother t)]
          exact .error rfl

theorem parallel_compareOp :
    Parallel (Spaced names total n) (Spaced names total) (Same n) compareOp compareOp := by
  have hkeyword (spelling : String) (op : CompareOp) : Alike names total .none n (do keyword spelling; return op) :=
    (alike_keyword spelling).then fun _ => .pure ⟨rfl, rfl⟩
  have hsymbols : Alike names total .none n (do return symbolicOp (← runSome isSymbol)) :=
    (alike_runSome (by decide) steady_none).then fun _ => .pure ⟨rfl, rfl⟩
  exact parallel_spaced (.orElse hsymbols (.orElse (hkeyword _ _) (hkeyword _ _)))

section

variable {p : Parser Expr} (htracks : ∀ n, Tracks [] 1 n p p)
  (h : ∀ n, Parallel (Spaced names total n) (Spaced names total) (Renamed names n) p p)
include h

theorem parallel_parenthesised : Parallel (Named names total .none n) (Spaced names total) (Renamed names n)
    (parenthesised p) (parenthesised p) := by
  refine (alike_char (by decide) steady_none).then fun _ => ((h n).restrict fun _ _ => .named).bind fun e e' m he => ?_
  refine parallel_blanks.then fun _ => ?_
  have hclose : Alike names total .none m (char ')') := alike_char (by decide) steady_none
  exact hclose.commit.spaced.then fun _ => .pure he

include htracks

theorem parallel_arguments : Parallel (Named names total .none n) (Named names total .none)
    (Listwise (Renamed names) n) (arguments p) (arguments p) := by
  have hcomma (n : Nat) : Parallel (Spaced names total n) (Spaced names total) (Same n) (do blanks; char ',')
      (do blanks; char ',') :=
    parallel_spaced (alike_char (by decide) steady_none)
  have hconsumes : Consumes (do blanks; char ',') := Tracks.consumes fun _ =>
    .bind (.blanks .nil) fun _ => .char (Ends.nil _)
  have hargs := Parallel.separated hconsumes (fun n => (htracks n).taking (by omega)) h hcomma n
  refine (alike_char (by decide) steady_none).then fun _ => ?_
  refine alike_blanks.then fun _ => ?_
  refine (hargs.restrict fun _ _ => .named).bind fun args args' m hitems => ?_
  exact parallel_blanks.then fun _ => (alike_char (by decide) steady_none).commit.then fun _ => .pure hitems

theorem parallel_accessOrCall : Parallel (Named names total .none n) (Spaced names total) (Renamed names n)
    (accessOrCall p) (accessOrCall p) := by
  intro s t hst
  have hpath := alike_path s t hst
  simp only [accessOrCall]
  generalize separatedSome word (char '.') s = x at hpath ⊢
  generalize separatedSome word (char '.') t = y at hpath ⊢
  cases hpath with
  | error hc => exact .error hc
  | @ok segments _ _ r u hsame hrest =>
      obtain ⟨rfl, rfl⟩ := hsame
      rcases segments with _ | ⟨name, _ | ⟨second, others⟩⟩
      · exact .ok ⟨rfl, rfl⟩ (.named hrest)
      · dsimp only
        split
        · exact .error rfl
        · -- A word alone is a field and with arguments a call, for both texts at once.
          have hcall := (parallel_arguments htracks h).optional (V := fun args? args'? m =>
            Renamed names _ (args?.elim (.field (String.ofList name)) (.call (String.ofList name)))
              (args'?.elim (.field (String.ofList name)) (.call (String.ofList name))) m)
            ⟨rfl, rfl⟩ (fun _ _ _ hargs => .call hargs _) r u hrest
          generalize (arguments p).optional r = x at hcall ⊢
          generalize (arguments p).optional u = y at hcall ⊢
          cases hcall with
          | error hc => exact .error hc
          | @ok args? args'? _ _ _ hrenamed hend =>
              cases args? <;> cases args'? <;> exact .ok hrenamed (.named hend)
      · exact .ok ⟨rfl, rfl⟩ (.named hrest)

/-! ## Operations -/

variable (hnames : ∀ i, Text.isWord (names i).toList = true)
include hnames

theorem parallel_operand (n : Nat) :
    Parallel (Spaced names total n) (Spaced names total) (Renamed names n) (operand p) (operand p) := by
  have hliteral : Parallel (Named names total .none n) (Named names total .none) (Renamed names n)
      (do return .literal (← value)) (do return .literal (← value)) :=
    (alike_value n).then fun _ => .pure ⟨rfl, rfl⟩
  refine parallel_blanks.then fun _ => .expecting (.orElse (parallel_parenthesised h) ?_) _
  refine .orElse hliteral.spaced ?_
  refine .orElse ((parallel_parameter hnames).bind fun _ _ _ hrenamed => .pure hrenamed) ?_
  exact parallel_accessOrCall htracks h

theorem parallel_comparison (n : Nat) :
    Parallel (Spaced names total n) (Spaced names total) (Renamed names n) (comparison p) (comparison p) := by
  refine (parallel_operand htracks h hnames n).bind fun left left' m hleft => ?_
  refine parallel_compareOp.optionalSame.then fun op? => ?_
  cases op? with
  | none => exact .pure hleft
  | some op =>
      refine (parallel_operand htracks h hnames m).commit.bind fun right right' k hright => .pure ?_
      exact .join (.compare op) (fun _ _ _ => rfl) (fun _ _ => rfl) hleft hright

theorem parallel_unary (n : Nat) :
    Parallel (Spaced names total n) (Spaced names total) (Renamed names n) (unary p) (unary p) := by
  have hnegation (n : Nat) : Parallel (Spaced names total n) (Spaced names total) (Same n) negation negation :=
    parallel_spaced (alike_keyword "not")
  refine (Parallel.many negation_consumes hnegation n).same.then fun negations => ?_
  have hcomparison := parallel_comparison htracks h hnames n
  cases negations with
  | nil => exact hcomparison
  | cons first others =>
      refine hcomparison.commit.bind fun e e' m he => .pure ?_
      generalize first :: others = negations
      induction negations with
      | nil => exact he
      | cons _ _ ih => exact ih.not

theorem parallel_disjunction (n : Nat) :
    Parallel (Spaced names total n) (Spaced names total) (Renamed names n) (disjunction p) (disjunction p) := by
  have hconnective (spelling : String) (n : Nat) : Parallel (Spaced names total n) (Spaced names total) (Same n)
      (connective spelling) (connective spelling) :=
    parallel_spaced (alike_keyword spelling)
  have hand := Parallel.chain (connective_consumes "and") (fun n => (tracks_unary (htracks _)).taking (by omega))
    (parallel_unary htracks h hnames) (hconnective "and") (.join .and (fun _ _ _ => rfl) fun _ _ => rfl)
  have hxor := Parallel.chain (connective_consumes "xor") (fun n => (tracks_conjunction (htracks _)).taking (by omega))
    hand (hconnective "xor") (.join .xor (fun _ _ _ => rfl) fun _ _ => rfl)
  exact Parallel.chain (connective_consumes "or") (fun n => (tracks_exclusion (htracks _)).taking (by omega))
    hxor (hconnective "or") (.join .or (fun _ _ _ => rfl) fun _ _ => rfl) n

end

theorem parallel_expression (hnames : ∀ i, Text.isWord (names i).toList = true) (n : Nat) :
    Parallel (Spaced names total n) (Spaced names total) (Renamed names n) expression expression := by
  refine Parallel.recursive guarded_expressionLayer (fun p htracks h n => ?_) n
  refine parallel_blanks.then fun _ => ?_
  exact (parallel_disjunction htracks h hnames n).restrict fun _ _ => .named

end Grammar

/-! ## Whole rules -/

theorem expression_withNames (names : Nat → String) (hnames : ∀ i, Text.isWord (names i).toList = true) {s u : Text}
    {e : Expr} (h : Grammar.expression s = .ok (e, u)) (hu : Blanks u) :
    (e.numbered 0).2 = Text.marks .none s ∧ ∃ v, Blanks v ∧
      Grammar.expression (Text.withNames names 0 .none s) = .ok ((e.numbered 0).1.withNames names, v) := by
  have hnamed := named_withNames names 0 .none s
  have hboth := Grammar.parallel_expression hnames 0 _ _ (.named hnamed)
  rw [h] at hboth
  generalize Grammar.expression (Text.withNames names 0 .none s) = y at hboth ⊢
  cases hboth with
  | ok hrenamed hrest =>
      obtain ⟨rfl, rfl⟩ := hrenamed
      obtain ⟨htotal, hv⟩ := hrest.of_blanks hu
      exact ⟨htotal.trans (Nat.zero_add _), _, hv, rfl⟩

/-- The positional parameters of a rule carry the numbers from zero on, from left to right, one for each question mark
outside the string literals. Each carries the number of its question mark: a rule with names for the question marks is
the expression with these names for the numbers. -/
theorem parse_withNames {rule : String} {e : Expr} (h : parse rule = .ok e) :
    e.indices = List.range (Text.marks .none rule.toList) ∧
      ∀ names : Nat → String, (∀ i, Text.isWord (names i).toList = true) →
        parse (String.ofList (Text.withNames names 0 .none rule.toList)) = .ok (e.withNames names) := by
  obtain ⟨e', u, hexpression, hu, rfl⟩ := parse_eq_ok.1 h
  obtain ⟨hindices, hnext⟩ := indices_numbered e' 0
  constructor
  · obtain ⟨hmarks, -⟩ := expression_withNames (fun _ => "x") (fun _ => by decide) hexpression hu
    rw [hindices, ← hmarks, hnext, Nat.zero_add, List.range_eq_range']
  · intro names hnames
    obtain ⟨-, v, hv, hnamed⟩ := expression_withNames names hnames hexpression hu
    refine parse_eq_ok.2 ⟨_, v, ?_, hv, (numbered_withNames names _ 0).symm⟩
    rw [String.toList_ofList, hnamed]

/-- Question marks in a call, in literals of both quotes, behind an escaped quote and below a `not`. -/
def markedRule : String := "f(?, \"a?\\\"?\") = ?and not (:p in ['?'] or ? like b)"

def markedExpr : Expr :=
  .and (.compare .eq (.call "f" [.parameter (.positional 0), .literal (.string "a?\"?")]) (.parameter (.positional 1)))
    (.not (.or (.compare .isIn (.parameter (.named "p")) (.literal (.list [.string "?"])))
      (.compare .like (.parameter (.positional 2)) (.field "b"))))

def markNames (i : Nat) : String := if i = 0 then "first" else if i = 1 then "second" else "third"

theorem parse_withNames_markedRule : parse markedRule = .ok markedExpr ∧ markedExpr.indices = List.range 3 ∧
    parse "f(:first , \"a?\\\"?\") = :second and not (:p in ['?'] or :third  like b)" =
      .ok (markedExpr.withNames markNames) := by
  have hparse : parse markedRule = .ok markedExpr := by rfl
  have hwords (i : Nat) : Text.isWord (markNames i).toList = true := by
    unfold markNames
    split
    · decide
    · split <;> decide
  obtain ⟨hindices, hnamed⟩ := parse_withNames hparse
  exact ⟨hparse, hindices, hnamed markNames hwords⟩

end CompiledRules.Expr
