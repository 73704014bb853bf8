import CompiledRules.Parser.Token
import CompiledRules.Proofs.Parser.Tracking

/-!
# Tokens before a stop

No token takes up a semicolon, except quoted text, and quoted text does not close where no quote follows. So every
token is read before a text that starts with a semicolon and holds no quote as it is read alone.
-/

namespace CompiledRules.Parser

variable {α β : Type}

/-- A text that ends every token: there is nothing in it, or it starts with a semicolon and holds no quote. -/
structure Stop (t : Text) : Prop where
  head : ∀ c, t.head? = some c → c = ';'
  noQuote : ∀ c ∈ t, c ≠ '"' ∧ c ≠ '\''

theorem Stop.nil : Stop [] := ⟨fun _ h => by simp at h, fun _ h => by simp at h⟩

variable {t : Text} {k n : Nat}

theorem Stop.ends {accepts : Char → Bool} (ht : Stop t) (h : accepts ';' = false) : Ends accepts t := by
  intro c hc
  rw [ht.head c hc, h]

/-! ## Repetitions of items that take a character -/

/-- The parser takes at least one character where it succeeds. -/
def Consumes (p : Parser α) : Prop := ∀ (s r : Text) (a : α), p s = .ok (a, r) → Leaves 1 s r

theorem Tracks.consumes {p q : Parser α} (h : ∀ n, Tracks t 1 n p q) : Consumes p := by
  intro s r a hs
  have hf := h (s.length + 1) s (Nat.lt_succ_self _)
  rw [hs] at hf
  exact hf.leaves

theorem Consumes.tracks {p : Parser α} (h : Consumes p) : Tracks [] 1 n p p := by
  intro s _
  rw [List.append_nil]
  exact .refl fun a r hs => h s r a hs

theorem many_stop {p : Parser α} {s : Text} {e : Failure} (h : p s = .error e) (hc : e.committed = false) :
    many p s = .ok ([], s) := by
  simp only [many, repeated, h, hc, Bool.false_eq_true, ↓reduceIte]

theorem many_abort {p : Parser α} {s : Text} {e : Failure} (h : p s = .error e) (hc : e.committed = true) :
    many p s = .error e := by
  simp only [many, repeated, h, hc, ↓reduceIte]

theorem Consumes.many_step {p : Parser α} (hp : Consumes p) {s r : Text} {a : α} (h : p s = .ok (a, r)) :
    many p s = (many p >>= fun as => pure (a :: as)) r := by
  have hr : repeated p s.length r = many p r := by
    have := (hp.tracks.repeated (n := r.length + 1) (Nat.lt_succ_self _) (hp _ _ _ h).2 (Nat.lt_succ_self _)).eq
    rwa [List.append_nil] at this
  simp only [many, repeated, h]
  rw [hr]
  cases hm : many p r with
  | ok out => rw [bind_ok hm]; rfl
  | error e => rw [bind_error hm]

theorem Consumes.many_cons {p : Parser α} (hp : Consumes p) {s r r' : Text} {a : α} {as : List α}
    (h : p s = .ok (a, r)) (hr : many p r = .ok (as, r')) : many p s = .ok (a :: as, r') := by
  rw [hp.many_step h, bind_ok hr, pure_apply]

/-! ## Blanks and words -/

theorem Tracks.blanks (ht : Stop t) : Tracks t 0 n blanks Parser.blanks :=
  (Tracks.run (ht.ends (by decide))).bind fun _ => .pure _

theorem Tracks.word (ht : Stop t) : Tracks t 1 n word Parser.word :=
  (Tracks.charWhere (ht.ends (by decide))).bind fun _ => (Tracks.run (ht.ends (by decide))).bind fun _ => .pure _

theorem Tracks.keyword (ht : Stop t) (spelling : String) :
    Tracks t 1 n (keyword spelling) (Parser.keyword spelling) := by
  intro s hs
  have hw := Tracks.word ht s hs
  simp only [Parser.keyword]
  generalize Parser.word s = x at hw ⊢
  generalize Parser.word (s ++ t) = y at hw ⊢
  cases hw with
  | ok hl =>
      simp only
      split
      · exact .ok hl
      · exact .error rfl fun h => by rw [h, List.append_nil]
  | error hc he => exact .error hc he

/-! ## Quoted text -/

theorem quotedPiece_nil (quote : Char) : quotedPiece quote [] = .error ⟨[], true, ["closing quote"], none⟩ := rfl

theorem quotedPiece_quote (quote : Char) (r : Text) :
    quotedPiece quote (quote :: r) = .error ⟨r, false, [], none⟩ := by
  simp [quotedPiece, bind, expecting, commit, anyChar, fail]

theorem quotedPiece_backslash {quote : Char} (hq : quote ≠ '\\') (r : Text) :
    quotedPiece quote ('\\' :: r) = escape r := by
  simp [quotedPiece, bind, expecting, commit, anyChar, hq.symm]

theorem quotedPiece_plain {quote c : Char} (hq : c ≠ quote) (hc : c ≠ '\\') (r : Text) :
    quotedPiece quote (c :: r) = .ok ([c], r) := by
  simp [quotedPiece, bind, expecting, commit, anyChar, hq, hc, pure]

theorem Tracks.numberedEscape (ht : Stop t) : Tracks t 3 n numberedEscape Parser.numberedEscape :=
  .taking (by omega) (.bind (.commit (.bind (.char (ht.ends (by decide))) fun _ =>
    .bind (.runUpTo 6 (ht.ends (by decide))) fun _ => .bind (.char (ht.ends (by decide))) fun _ => .pure _))
    fun _ => .ite _ (.pure _) .abort)

/-- An escape is read alike before `t` unless nothing is left of it. -/
theorem follows_escape (ht : Stop t) (c : Char) (r : Text) :
    Follows t 1 (c :: r) (escape (c :: r)) (escape (c :: r ++ t)) := by
  have hany (u : Text) : commit anyChar (c :: u) = .ok (c, u) := rfl
  rw [escape, List.cons_append, bind_ok (hany _), bind_ok (hany _)]
  split
  case h_7 =>
    exact ((Tracks.numberedEscape ht r (Nat.lt_succ_self _)).after (.tail _ r)).taking (by omega)
  all_goals exact .ok (.tail _ r)

theorem escape_consumes : Consumes escape := by
  intro s r a h
  cases s with
  | nil => cases h
  | cons c s =>
      have hf := follows_escape .nil c s
      rw [h] at hf
      exact hf.leaves

theorem commit_committed {p : Parser α} {s : Text} {e : Failure} (h : p.commit s = .error e) :
    e.committed = true := by
  simp only [commit] at h
  split at h
  · cases h
  · cases h; rfl

theorem numberedEscape_committed {s : Text} {e : Failure} (h : numberedEscape s = .error e) : e.committed = true := by
  rw [numberedEscape] at h
  generalize hp : commit (do char '\x7b'; let ds ← runUpTo 6 Text.isHexDigit; char '\x7d'; return ds) = p at h
  cases hx : p s with
  | error f =>
      rw [bind_error hx] at h
      cases h
      exact commit_committed (hp ▸ hx)
  | ok out =>
      rw [bind_ok hx] at h
      by_cases hv : (Text.hexValue out.1).isValidChar
      · simp only [hv, ↓reduceIte] at h
        cases h
      · simp only [hv, ↓reduceIte] at h
        cases h; rfl

/-- A failed escape ends every choice around it. -/
theorem escape_committed {s : Text} {e : Failure} (h : escape s = .error e) : e.committed = true := by
  cases s with
  | nil => cases h; rfl
  | cons c s =>
      simp only [escape, bind, commit, anyChar] at h
      split at h
      case h_7 => exact numberedEscape_committed h
      all_goals cases h

theorem quotedPiece_consumes {quote : Char} (hq : quote ≠ '\\') : Consumes (quotedPiece quote) := by
  intro s r a h
  cases s with
  | nil => cases h
  | cons c s =>
      by_cases hc : c = quote
      · subst hc; rw [quotedPiece_quote] at h; cases h
      · by_cases hb : c = '\\'
        · subst hb
          rw [quotedPiece_backslash hq] at h
          exact ((Leaves.tail _ s).trans (escape_consumes _ _ _ h)).taking (by omega)
        · rw [quotedPiece_plain hc hb] at h
          cases h
          exact .tail _ _

/-- What stands after the opening quote, up to the closing one. -/
def unquoted (quote : Char) : Parser Text := do
  let pieces ← many (quotedPiece quote)
  char quote
  return pieces.flatten

theorem quotedText_eq : quotedText = (charWhere fun c => c = '"' || c = '\'') >>= unquoted := rfl

theorem unquoted_quote (quote : Char) (r : Text) : unquoted quote (quote :: r) = .ok ([], r) := by
  rw [unquoted, bind_ok (many_stop (quotedPiece_quote quote r) rfl)]
  simp [char, bind, pure]

theorem quotedPiece_committed {quote c : Char} (hq : quote ≠ '\\') (hc : c ≠ quote) {r : Text} {e : Failure}
    (h : quotedPiece quote (c :: r) = .error e) : e.committed = true := by
  by_cases hb : c = '\\'
  · subst hb
    rw [quotedPiece_backslash hq] at h
    exact escape_committed h
  · rw [quotedPiece_plain hc hb] at h
    cases h

/-- What does not close at once is a piece and what stands after it. -/
theorem unquoted_cons {quote c : Char} (hq : quote ≠ '\\') (hc : c ≠ quote) (r : Text) :
    unquoted quote (c :: r) =
      (quotedPiece quote >>= fun piece => unquoted quote >>= fun text => pure (piece ++ text)) (c :: r) := by
  cases hp : quotedPiece quote (c :: r) with
  | error e => rw [unquoted, bind_error hp, bind_error (many_abort hp (quotedPiece_committed hq hc hp))]
  | ok out =>
      have hm := (quotedPiece_consumes hq).many_step hp
      rw [bind_ok hp]
      simp only [unquoted, bind] at hm ⊢
      rw [hm]
      cases many (quotedPiece quote) out.2 with
      | error e => rfl
      | ok pieces =>
          simp only [pure]
          cases char quote pieces.2 with
          | error e => rfl
          | ok _ => simp

/-- Nothing closes where there is no quote. -/
theorem unquoted_open {quote : Char} (hq : quote ≠ '\\') (s : Text) (hs : quote ∉ s) :
    ∃ e, unquoted quote s = .error e ∧ e.committed = true := by
  match s with
  | [] =>
      refine ⟨⟨[], true, ["closing quote"], none⟩, ?_, rfl⟩
      rw [unquoted, bind_error (many_abort (quotedPiece_nil quote) rfl)]
  | c :: r =>
      have hc : c ≠ quote := fun h => hs (h ▸ List.mem_cons_self)
      rw [unquoted_cons hq hc]
      cases hp : quotedPiece quote (c :: r) with
      | error e => exact ⟨e, bind_error hp, quotedPiece_committed hq hc hp⟩
      | ok out =>
          have hl := quotedPiece_consumes hq _ _ _ hp
          obtain ⟨e, he, hc⟩ := unquoted_open hq out.2 fun hm => hs (hl.1.mem hm)
          exact ⟨e, by rw [bind_ok hp, bind_error he], hc⟩
termination_by s.length
decreasing_by exact hl.2

theorem follows_unquoted {quote : Char} (hq : quote = '"' ∨ quote = '\'') (ht : Stop t) (s : Text) :
    Follows t 1 s (unquoted quote s) (unquoted quote (s ++ t)) := by
  have hb : quote ≠ '\\' := by rcases hq with rfl | rfl <;> decide
  have htq : quote ∉ t := by
    intro hm
    rcases hq with rfl | rfl
    · exact (ht.noQuote _ hm).1 rfl
    · exact (ht.noQuote _ hm).2 rfl
  -- A text without quote does not close, alone or before `t`.
  have hopen : quote ∉ s → Follows t 1 s (unquoted quote s) (unquoted quote (s ++ t)) := by
    intro hs
    obtain ⟨e, he, hc⟩ := unquoted_open hb s hs
    obtain ⟨e', he', hc'⟩ := unquoted_open hb (s ++ t) (by simp [hs, htq])
    rw [he, he']
    refine .error (hc.trans hc'.symm) fun h => ?_
    subst h
    rw [List.append_nil, he] at he'
    cases he'; rfl
  match s with
  | [] => exact hopen List.not_mem_nil
  | c :: r =>
      by_cases hcq : c = quote
      · subst hcq
        rw [List.cons_append, unquoted_quote, unquoted_quote]
        exact .ok (.tail _ _)
      · by_cases hlast : c = '\\' ∧ r = []
        · obtain ⟨rfl, rfl⟩ := hlast
          exact hopen (by simpa using hb)
        · have hpiece : Follows t 1 (c :: r) (quotedPiece quote (c :: r)) (quotedPiece quote (c :: (r ++ t))) := by
            by_cases hcb : c = '\\'
            · subst hcb
              cases r with
              | nil => exact absurd ⟨rfl, rfl⟩ hlast
              | cons d r =>
                  rw [quotedPiece_backslash hb, quotedPiece_backslash hb]
                  exact ((follows_escape ht d r).after (.tail _ _)).taking (by omega)
            · rw [quotedPiece_plain hcq hcb, quotedPiece_plain hcq hcb]
              exact .ok (.tail _ _)
          rw [List.cons_append, unquoted_cons hb hcq, unquoted_cons hb hcq]
          refine (hpiece.bind fun _ u _ hl =>
            (?_ : Follows t 1 u _ _).bind fun _ v _ _ => .ok (.refl v)).taking (by omega)
          exact follows_unquoted hq ht u
termination_by s.length
decreasing_by exact hl.2

theorem Tracks.quotedText (ht : Stop t) : Tracks t 2 n quotedText Parser.quotedText := by
  intro s hs
  rw [quotedText_eq]
  have hopening : Ends (fun c => c = '"' || c = '\'') t := ht.ends (by decide)
  refine (Tracks.charWhere hopening s hs).bind (l := 1) fun c r hc _ => ?_
  have hq := charWhere_ok hc
  simp only [Bool.or_eq_true, decide_eq_true_eq] at hq
  exact follows_unquoted hq ht r

/-! ## Numbers and values -/

theorem Tracks.digits (ht : Stop t) : Tracks t 1 n digits Parser.digits := .runSome (ht.ends (by decide))

theorem Tracks.exponent (ht : Stop t) : Tracks t 2 n exponent Parser.exponent :=
  .bind (.charWhere (ht.ends (by decide))) fun _ => .bind (.optional (.charWhere (ht.ends (by decide)))) fun _ =>
    .bind (.digits ht) fun _ => .pure _

theorem Tracks.numeral (ht : Stop t) : Tracks t 1 n numeral Parser.numeral :=
  .taking (by omega) (.bind (.optional (.char (ht.ends (by decide)))) fun _ => .bind (.digits ht) fun _ =>
    .bind (.optional (.bind (.char (ht.ends (by decide))) fun _ => .digits ht)) fun _ =>
      .bind (.optional (.exponent ht)) fun _ => .pure _)

theorem Tracks.number (ht : Stop t) : Tracks t 1 n number Parser.number :=
  .taking (by omega) (.bind (.numeral ht) fun _ => .ite _ (.pure _) (.ite _ (.pure _) .abort))

theorem Tracks.listOf (ht : Stop t) {p q : Parser Value} (h : Tracks t k (n - 1) p q) :
    Tracks t 2 n (listOf p) (Parser.listOf q) :=
  .taking (by omega) (.bind (.char (ht.ends (by decide))) fun _ => .bind (.blanks ht) fun _ =>
    .bind (.separated (h.below (by omega))
      (.bind (.blanks ht) fun _ => .bind (.char (ht.ends (by decide))) fun _ => .blanks ht)) fun _ =>
      .bind (.blanks ht) fun _ => .bind (.commit (.char (ht.ends (by decide)))) fun _ => .pure _)

theorem guarded_valueLayer (ht : Stop t) : Guarded t 1 valueLayer := fun n p q h =>
  .taking (by omega) (.bind (.blanks ht) fun _ => .expecting _ <|
    .orElse (.taking (by omega) (.bind (.quotedText ht) fun _ => .pure _)) <|
    .orElse (.number ht) <|
    .orElse (.taking (by omega) (.bind (.listOf ht (h.below (by omega))) fun _ => .pure _)) <|
    .orElse (.bind (.keyword ht _) fun _ => .pure _) <|
    .orElse (.bind (.keyword ht _) fun _ => .pure _) (.bind (.keyword ht _) fun _ => .pure _))

theorem Tracks.value (ht : Stop t) : Tracks t 1 n value Parser.value := (guarded_valueLayer ht).recursive

theorem value_eq : value = valueLayer value := (guarded_valueLayer .nil).recursive_eq

end CompiledRules.Parser
