import CompiledRules.Proofs.Parser.Layout
import CompiledRules.Proofs.Parser.Parallel
import Mathlib

/-!
# Question marks and names

The question marks of a rule outside its string literals, and the rule with names in their place. A token that takes no
question mark is read alike from both texts.
-/

namespace CompiledRules

/-- Where in a text a character stands: outside all string literals, inside one that begins with the given quote, or
there behind a backslash. -/
inductive Quotation where
  | none
  | inside (quote : Char)
  | escaped (quote : Char)

namespace Quotation

/-- Where the next character stands. -/
def next : Quotation → Char → Quotation
  | .none, c => if c = '"' ∨ c = '\'' then .inside c else .none
  | .inside quote, c => if c = '\\' then .escaped quote else if c = quote then .none else .inside quote
  | .escaped quote, _ => .inside quote

/-- Whether a character that stands there is a question mark outside all string literals. -/
def isMark : Quotation → Char → Bool
  | .none, c => c == '?'
  | _, _ => false

/-- Most characters do not lead away from here. -/
def Steady : Quotation → Prop
  | .none => True
  | .inside quote => quote = '"' ∨ quote = '\''
  | .escaped _ => False

end Quotation

namespace Text

/-- How many question marks stand outside the string literals. -/
def marks : Quotation → Text → Nat
  | _, [] => 0
  | place, c :: s => (place.isMark c).toNat + marks (place.next c) s

/-- The text with names for the question marks outside the string literals, each after a colon and before a blank. The
first of them is number `n`. -/
def withNames (names : Nat → String) : Nat → Quotation → Text → Text
  | _, _, [] => []
  | n, place, c :: s =>
      if place.isMark c then ':' :: (names n).toList ++ ' ' :: withNames names (n + 1) (place.next c) s
      else c :: withNames names n (place.next c) s

end Text

namespace Parser

/-- The second text is the first with names for the question marks outside the string literals, from number `n` up to
`total`. -/
inductive Named (names : Nat → String) (total : Nat) : Quotation → Nat → Text → Text → Prop where
  | nil {place : Quotation} : Named names total place total [] []
  | keep {place : Quotation} {n : Nat} {c : Char} {s t : Text} : place.isMark c = false →
      Named names total (place.next c) n s t → Named names total place n (c :: s) (c :: t)
  | mark {n : Nat} {s t : Text} : Named names total .none (n + 1) s t →
      Named names total .none n ('?' :: s) (':' :: (names n).toList ++ ' ' :: t)

/-- The same with one more blank in front, as a name has it behind. -/
inductive Spaced (names : Nat → String) (total n : Nat) (s : Text) : Text → Prop where
  | named {t : Text} : Named names total .none n s t → Spaced names total n s t
  | blank {t : Text} : Named names total .none n s t → Spaced names total n s (' ' :: t)

/-- A class without quotes, backslash, question mark and colon. -/
def Neutral (accepts : Char → Bool) : Prop := ∀ c ∈ ['"', '\'', '\\', '?', ':'], accepts c = false

instance (accepts : Char → Bool) : Decidable (Neutral accepts) := List.decidableBAll _ _

/-- The parser reads the same from both texts, and afterwards stands where it stood. -/
abbrev Alike {α : Type} (names : Nat → String) (total : Nat) (place : Quotation) (n : Nat) (p : Parser α) : Prop :=
  Parallel (Named names total place n) (Named names total place) (Same n) p p

variable {names : Nat → String} {total n : Nat} {place : Quotation} {accepts : Char → Bool} {quote : Char}

theorem named_withNames (names : Nat → String) (n : Nat) (place : Quotation) (s : Text) :
    Named names (n + Text.marks place s) place n s (Text.withNames names n place s) := by
  induction s generalizing n place with
  | nil => exact .nil
  | cons c s ih =>
      simp only [Text.marks, Text.withNames]
      cases hmark : place.isMark c with
      | false => simpa using Named.keep hmark (by simpa using ih n (place.next c))
      | true =>
          cases place with
          | none =>
              obtain rfl : c = '?' := by simpa [Quotation.isMark] using hmark
              have hrest := ih (n + 1) .none
              rw [Nat.add_assoc] at hrest
              exact .mark hrest
          | inside quote => cases hmark
          | escaped quote => cases hmark

theorem Neutral.next {c : Char} (h : Neutral accepts) (hplace : place.Steady) (hc : accepts c = true) :
    place.next c = place := by
  have hother {d : Char} (hd : d ∈ ['"', '\'', '\\', '?', ':']) : c ≠ d := by
    rintro rfl
    exact absurd hc (by simp [h c hd])
  cases place with
  | none => simp [Quotation.next, hother]
  | inside quote => rcases hplace with rfl | rfl <;> simp [Quotation.next, hother]
  | escaped quote => cases hplace

theorem steady_none : Quotation.none.Steady := trivial

/-! ## Runs -/

theorem Named.takeWhile {s t : Text} (h : Named names total place n s t) (ha : Neutral accepts)
    (hplace : place.Steady) : s.takeWhile accepts = t.takeWhile accepts ∧
      Named names total place n (s.dropWhile accepts) (t.dropWhile accepts) := by
  induction s generalizing t with
  | nil =>
      cases h
      exact ⟨rfl, .nil⟩
  | cons c s ih =>
      cases h with
      | mark hrest => simpa [ha '?' (by simp), ha ':' (by simp)] using Named.mark hrest
      | keep hmark hrest =>
          cases hc : accepts c with
          | false => simpa [hc] using Named.keep hmark hrest
          | true =>
              rw [ha.next hplace hc] at hrest
              simpa [hc] using ih hrest

theorem Named.take {s t : Text} (h : Named names total place n s t) (ha : Neutral accepts) (hplace : place.Steady)
    (limit : Nat) : (s.take limit).takeWhile accepts = (t.take limit).takeWhile accepts ∧
      Named names total place n (s.drop ((s.take limit).takeWhile accepts).length)
        (t.drop ((s.take limit).takeWhile accepts).length) := by
  induction limit generalizing s t with
  | zero => exact ⟨rfl, h⟩
  | succ limit ih =>
      cases h with
      | nil => exact ⟨rfl, .nil⟩
      | mark hrest => simpa [ha '?' (by simp), ha ':' (by simp)] using Named.mark hrest
      | @keep _ _ c s t hmark hrest =>
          cases hc : accepts c with
          | false => simpa [hc] using Named.keep hmark hrest
          | true =>
              rw [ha.next hplace hc] at hrest
              simpa [hc] using ih hrest

section

variable (ha : Neutral accepts) (hplace : place.Steady)
include ha hplace

theorem alike_charWhere : Alike names total place n (charWhere accepts) := by
  intro s t h
  cases h with
  | nil => exact .error rfl
  | mark hrest =>
      rw [List.cons_append]
      simp only [charWhere, ha '?' (by simp), ha ':' (by simp), Bool.false_eq_true, ↓reduceIte]
      exact .error rfl
  | @keep _ _ c s t hmark hrest =>
      simp only [charWhere]
      split
      · next hc => exact .ok ⟨rfl, rfl⟩ (ha.next hplace hc ▸ hrest)
      · exact .error rfl

theorem alike_run : Alike names total place n (run accepts) := by
  intro s t h
  obtain ⟨htake, hdrop⟩ := h.takeWhile ha hplace
  exact .ok ⟨htake, rfl⟩ hdrop

theorem alike_runSome : Alike names total place n (runSome accepts) := by
  intro s t h
  obtain ⟨htake, hdrop⟩ := h.takeWhile ha hplace
  simp only [runSome, htake]
  split
  · exact .error rfl
  · exact .ok ⟨rfl, rfl⟩ hdrop

theorem alike_runUpTo (limit : Nat) : Alike names total place n (runUpTo limit accepts) := by
  intro s t h
  obtain ⟨htake, hdrop⟩ := h.take ha hplace limit
  simp only [runUpTo, htake] at hdrop ⊢
  split
  · exact .error rfl
  · exact .ok ⟨rfl, rfl⟩ hdrop

end

theorem alike_char {c : Char} (hc : Neutral (· = c)) (hplace : place.Steady) :
    Alike names total place n (char c) := by
  rw [char_eq]
  exact (alike_charWhere hc hplace).then fun _ => .pure ⟨rfl, rfl⟩

/-! ## String literals -/

theorem ne_backslash (hquote : (Quotation.inside quote).Steady) : quote ≠ '\\' := by
  rcases hquote with rfl | rfl <;> decide

theorem alike_numberedEscape (hquote : (Quotation.inside quote).Steady) :
    Alike names total (.inside quote) n numberedEscape := by
  refine .then (.commit ?_) fun digits => .ite _ (.pure ⟨rfl, rfl⟩) .abort
  refine (alike_char (by decide) hquote).then fun _ => ?_
  refine (alike_runUpTo (by decide) hquote 6).then fun _ => ?_
  exact (alike_char (by decide) hquote).then fun _ => .pure ⟨rfl, rfl⟩

theorem parallel_escape (hquote : (Quotation.inside quote).Steady) :
    Parallel (Named names total (.escaped quote) n) (Named names total (.inside quote)) (Same n) escape escape := by
  intro s t h
  cases h with
  | nil => exact .error rfl
  | @keep _ _ c s t _ hrest =>
      have hany (u : Text) : commit anyChar (c :: u) = .ok (c, u) := rfl
      rw [escape, bind_ok (hany _), bind_ok (hany _)]
      split
      case h_7 => exact alike_numberedEscape hquote s t hrest
      all_goals exact .ok ⟨rfl, rfl⟩ hrest

theorem parallel_quotedPiece (hquote : (Quotation.inside quote).Steady) {c : Char} (hc : c ≠ quote) {s t : Text}
    (h : Named names total ((Quotation.inside quote).next c) n s t) :
    Outcome (Named names total (.inside quote)) (Same n) (quotedPiece quote (c :: s)) (quotedPiece quote (c :: t)) := by
  have hne := ne_backslash hquote
  by_cases hbackslash : c = '\\'
  · subst hbackslash
    rw [quotedPiece_backslash hne, quotedPiece_backslash hne]
    exact parallel_escape hquote s t h
  · rw [quotedPiece_plain hc hbackslash, quotedPiece_plain hc hbackslash]
    simp only [Quotation.next, hbackslash, hc, ↓reduceIte] at h
    exact .ok ⟨rfl, rfl⟩ h

theorem parallel_unquoted (hquote : (Quotation.inside quote).Steady) :
    Parallel (Named names total (.inside quote) n) (Named names total .none) (Same n) (unquoted quote)
      (unquoted quote) := by
  have hne := ne_backslash hquote
  intro s t h
  -- A piece may be an escape of several characters, so the induction is on the length.
  induction hlength : s.length using Nat.strong_induction_on generalizing s t with
  | _ length ih =>
      cases h with
      | nil =>
          obtain ⟨e, he, -⟩ := unquoted_open hne [] List.not_mem_nil
          rw [he]
          exact .error rfl
      | @keep _ _ c s t _ hrest =>
          by_cases hc : c = quote
          · subst hc
            rw [unquoted_quote, unquoted_quote]
            simp only [Quotation.next, hne, ↓reduceIte] at hrest
            exact .ok ⟨rfl, rfl⟩ hrest
          · rw [unquoted_cons hne hc, unquoted_cons hne hc]
            refine (parallel_quotedPiece hquote hc hrest).bind fun piece piece' m r u hpiece hsame hru => ?_
            obtain ⟨rfl, rfl⟩ := hsame
            have hshort := (quotedPiece_consumes hne _ _ _ hpiece).2
            refine (ih r.length (by omega) r u hru rfl).bind fun text text' m v w _ hsame hvw => ?_
            obtain ⟨rfl, rfl⟩ := hsame
            exact .ok ⟨rfl, rfl⟩ hvw

theorem alike_quotedText : Alike names total .none n quotedText := by
  intro s t h
  rw [quotedText_eq]
  cases h with
  | nil => exact .error rfl
  | mark hrest => exact .error rfl
  | @keep _ _ c s t hmark hrest =>
      by_cases hc : c = '"' ∨ c = '\''
      · have hopens : (decide (c = '"') || decide (c = '\'')) = true := by simpa using hc
        rw [bind_ok (charWhere_self hopens s), bind_ok (charWhere_self hopens t)]
        simp only [Quotation.next, hc, ↓reduceIte] at hrest
        exact parallel_unquoted hc s t hrest
      · have hfails (u : Text) : charWhere (fun c => c = '"' || c = '\'') (c :: u) = fail (c :: u) := by
          simp only [charWhere, Bool.or_eq_true, decide_eq_true_eq, hc, ↓reduceIte]
        rw [bind_error (hfails s), bind_error (hfails t)]
        exact .error rfl

/-! ## Blanks -/

theorem alike_blanks : Alike names total .none n blanks :=
  (alike_run (by decide) steady_none).then fun _ => .pure ⟨rfl, rfl⟩

theorem parallel_blanks : Parallel (Spaced names total n) (Named names total .none) (Same n) blanks blanks := by
  intro s t h
  cases h with
  | named h => exact alike_blanks s t h
  | blank h =>
      rw [blanks_cons (by decide)]
      exact alike_blanks s _ h

theorem Named.of_blanks {s t : Text} (h : Named names total .none n s t) (hs : Blanks s) : n = total ∧ Blanks t := by
  induction s generalizing t with
  | nil =>
      cases h
      exact ⟨rfl, .nil⟩
  | cons c s ih =>
      have hc := hs c List.mem_cons_self
      cases h with
      | mark _ => exact absurd hc (by decide)
      | keep _ hrest =>
          rw [Neutral.next (by decide) steady_none hc] at hrest
          obtain ⟨hn, ht⟩ := ih hrest fun d hd => hs d (List.mem_cons_of_mem _ hd)
          exact ⟨hn, List.forall_mem_cons.2 ⟨hc, ht⟩⟩

theorem Spaced.of_blanks {s t : Text} (h : Spaced names total n s t) (hs : Blanks s) : n = total ∧ Blanks t := by
  cases h with
  | named h => exact h.of_blanks hs
  | blank h =>
      obtain ⟨hn, ht⟩ := h.of_blanks hs
      exact ⟨hn, List.forall_mem_cons.2 ⟨by decide, ht⟩⟩

theorem Parallel.spaced {α : Type} {I : Text → Text → Prop} {S : α → α → Nat → Prop} {p q : Parser α}
    (h : Parallel I (Named names total .none) S p q) : Parallel I (Spaced names total) S p q :=
  h.mono (fun _ _ _ => .named) fun _ _ _ hab => hab

/-- What is read alike behind blanks is so behind one more. -/
theorem parallel_spaced {α : Type} {p : Parser α} (h : Alike names total .none n p) :
    Parallel (Spaced names total n) (Spaced names total) (Same n) (do blanks; p) (do blanks; p) :=
  (parallel_blanks.then fun _ => h).spaced

/-! ## Words, numbers and values -/

theorem alike_word : Alike names total .none n word := by
  refine (alike_charWhere (by decide) steady_none).then fun _ => ?_
  exact (alike_run (by decide) steady_none).then fun _ => .pure ⟨rfl, rfl⟩

theorem alike_keyword (spelling : String) : Alike names total .none n (keyword spelling) := by
  intro s t h
  have hword := alike_word s t h
  simp only [keyword]
  generalize word s = x at hword ⊢
  generalize word t = y at hword ⊢
  cases hword with
  | error hc => exact .error hc
  | ok hsame hrest =>
      obtain ⟨rfl, rfl⟩ := hsame
      dsimp only
      split
      · exact .ok ⟨rfl, rfl⟩ hrest
      · exact .error rfl

theorem alike_digits : Alike names total .none n digits := alike_runSome (by decide) steady_none

theorem alike_exponent : Alike names total .none n exponent := by
  refine (alike_charWhere (by decide) steady_none).then fun _ => ?_
  refine (alike_charWhere (by decide) steady_none).optionalSame.then fun _ => ?_
  exact alike_digits.then fun _ => .pure ⟨rfl, rfl⟩

theorem alike_numeral : Alike names total .none n numeral := by
  refine (alike_char (by decide) steady_none).optionalSame.then fun _ => ?_
  refine alike_digits.then fun _ => ?_
  refine .then (.optionalSame ((alike_char (by decide) steady_none).then fun _ => alike_digits)) fun _ => ?_
  exact alike_exponent.optionalSame.then fun _ => .pure ⟨rfl, rfl⟩

theorem alike_number : Alike names total .none n number :=
  alike_numeral.then fun _ => .ite _ (.pure ⟨rfl, rfl⟩) (.ite _ (.pure ⟨rfl, rfl⟩) .abort)

theorem alike_listOf {p : Parser Value} (hp : ∀ n, Tracks [] 1 n p p)
    (h : ∀ n, Alike names total .none n p) : Alike names total .none n (listOf p) := by
  have hcomma (n : Nat) : Alike names total .none n (do blanks; char ','; blanks) :=
    alike_blanks.then fun _ => (alike_char (by decide) steady_none).then fun _ => alike_blanks
  have hconsumes : Consumes (do blanks; char ','; blanks) := Tracks.consumes fun _ =>
    .bind (.blanks .nil) fun _ => .bind (.char (Ends.nil _)) fun _ => .blanks .nil
  refine (alike_char (by decide) steady_none).then fun _ => alike_blanks.then fun _ => ?_
  refine (Parallel.separated hconsumes (fun n => (hp n).taking (by omega)) h hcomma n).same.then fun _ => ?_
  exact alike_blanks.then fun _ => (alike_char (by decide) steady_none).commit.then fun _ => .pure ⟨rfl, rfl⟩

theorem alike_value (n : Nat) : Alike names total .none n value := by
  refine Parallel.recursive (guarded_valueLayer .nil) (fun p hp h n => ?_) n
  have hword (spelling : String) (v : Value) : Alike names total .none n (do keyword spelling; return v) :=
    (alike_keyword spelling).then fun _ => .pure ⟨rfl, rfl⟩
  refine alike_blanks.then fun _ => .expecting ?_ _
  refine .orElse (alike_quotedText.then fun _ => .pure ⟨rfl, rfl⟩) (.orElse alike_number ?_)
  refine .orElse ((alike_listOf hp h).then fun _ => .pure ⟨rfl, rfl⟩) ?_
  exact .orElse (hword _ _) (.orElse (hword _ _) (hword _ _))

end Parser

end CompiledRules
