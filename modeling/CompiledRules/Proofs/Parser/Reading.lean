import CompiledRules.Proofs.Parser.Stop
import CompiledRules.Text.Quoted

/-!
# Reading what was written

Each token is read back from its written form, whatever follows that cannot be taken for a part of it.
-/

namespace CompiledRules.Parser

variable {α β : Type}

/-! ## Refusals -/

/-- The parser fails and lets other alternatives be tried. -/
def Refuses (p : Parser α) (s : Text) : Prop := ∃ e, p s = .error e ∧ e.committed = false

theorem Refuses.bind {p : Parser α} {s : Text} (h : Refuses p s) (f : α → Parser β) : Refuses (p >>= f) s := by
  obtain ⟨e, he, hc⟩ := h
  exact ⟨e, bind_error he, hc⟩

theorem Refuses.bind_ok {p : Parser α} {f : α → Parser β} {s r : Text} {a : α} (h : p s = .ok (a, r))
    (hf : Refuses (f a) r) : Refuses (p >>= f) s := by
  obtain ⟨e, he, hc⟩ := hf
  exact ⟨e, by rw [Parser.bind_ok h, he], hc⟩

theorem Refuses.orElse_eq {p : Parser α} {s : Text} (h : Refuses p s) (q : Parser α) : (p <|> q) s = q s := by
  obtain ⟨e, he, hc⟩ := h
  exact orElse_error he hc

theorem Refuses.orElse {p q : Parser α} {s : Text} (h : Refuses p s) (hq : Refuses q s) : Refuses (p <|> q) s := by
  obtain ⟨e, he, hc⟩ := hq
  exact ⟨e, by rw [h.orElse_eq, he], hc⟩

theorem Refuses.optional {p : Parser α} {s : Text} (h : Refuses p s) : p.optional s = .ok (none, s) := by
  obtain ⟨e, he, hc⟩ := h
  simp only [Parser.optional, he, hc, Bool.false_eq_true, ↓reduceIte]

theorem Refuses.many {p : Parser α} {s : Text} (h : Refuses p s) : p.many s = .ok ([], s) := by
  obtain ⟨e, he, hc⟩ := h
  exact many_stop he hc

theorem optional_ok {p : Parser α} {s r : Text} {a : α} (h : p s = .ok (a, r)) : p.optional s = .ok (some a, r) := by
  simp only [optional, h]

theorem commit_ok {p : Parser α} {s r : Text} {a : α} (h : p s = .ok (a, r)) : p.commit s = .ok (a, r) := by
  simp only [commit, h]

theorem expecting_ok {p : Parser α} {what : String} {s r : Text} {a : α} (h : p s = .ok (a, r)) :
    p.expecting what s = .ok (a, r) := by
  simp only [expecting, h]

theorem Refuses.expecting {p : Parser α} {s : Text} (h : Refuses p s) (what : String) :
    Refuses (p.expecting what) s := by
  obtain ⟨e, he, hc⟩ := h
  exact ⟨{ e with expected := e.expected ++ [what] }, by simp only [Parser.expecting, he], hc⟩

theorem charWhere_refuses {accepts : Char → Bool} {s : Text} (h : Ends accepts s) : Refuses (charWhere accepts) s := by
  cases s with
  | nil => exact ⟨_, rfl, rfl⟩
  | cons c s => exact ⟨_, by simp only [charWhere, h c rfl, Bool.false_eq_true, ↓reduceIte]; rfl, rfl⟩

theorem char_refuses {c : Char} {s : Text} (h : Ends (· = c) s) : Refuses (char c) s := by
  rw [char_eq]
  exact (charWhere_refuses h).bind _

theorem exactly_refuses {text s : Text} (h : text.isPrefixOf s = false) : Refuses (exactly text) s :=
  ⟨⟨s, false, [], none⟩, by simp only [exactly, h, Bool.false_eq_true, ↓reduceIte]; rfl, rfl⟩

theorem exactly_refuses_head {c : Char} {s : Text} (h : Ends (· = c) s) (text : Text) :
    Refuses (exactly (c :: text)) s := by
  refine exactly_refuses ?_
  cases s with
  | nil => rfl
  | cons d s =>
      have hd : ¬ d = c := by simpa using h d rfl
      simp [List.isPrefixOf, Ne.symm hd]

theorem runSome_refuses {accepts : Char → Bool} {s : Text} (h : Ends accepts s) : Refuses (runSome accepts) s := by
  have hnone := h.takeWhile []
  rw [List.nil_append, List.takeWhile_nil] at hnone
  exact ⟨⟨s, false, [], none⟩, by simp only [runSome, hnone]; rfl, rfl⟩

theorem word_refuses {s : Text} (h : Ends Text.isWordStart s) : Refuses word s := (charWhere_refuses h).bind _

theorem keyword_refuses {spelling : String} {s : Text} (h : Ends Text.isWordStart s) :
    Refuses (keyword spelling) s := by
  obtain ⟨e, he, hc⟩ := word_refuses h
  exact ⟨e, by simp only [keyword, he], hc⟩

/-! ## Characters, blanks and words -/

@[simp] theorem char_self (c : Char) (r : Text) : char c (c :: r) = .ok ((), r) := by simp [char]

theorem charWhere_self {accepts : Char → Bool} {c : Char} (h : accepts c = true) (r : Text) :
    charWhere accepts (c :: r) = .ok (c, r) := by
  simp [charWhere, h]

theorem exactly_append (text r : Text) : exactly text (text ++ r) = .ok ((), r) := by
  have hp : text.isPrefixOf (text ++ r) = true := List.isPrefixOf_iff_prefix.mpr ⟨r, rfl⟩
  simp only [exactly, hp, ↓reduceIte, List.drop_left]

theorem blanks_self {s : Text} (h : Ends Text.isBlank s) : blanks s = .ok ((), s) := by
  have hd := h.dropWhile []
  simp only [List.nil_append, List.dropWhile_nil] at hd
  change Except.ok ((), s.dropWhile Text.isBlank) = _
  rw [hd]

theorem blanks_cons {c : Char} (h : Text.isBlank c = true) (s : Text) : blanks (c :: s) = blanks s := by
  change Except.ok ((), (c :: s).dropWhile Text.isBlank) = Except.ok ((), s.dropWhile Text.isBlank)
  rw [List.dropWhile_cons_of_pos h]

theorem blanks_append {u s : Text} (h : ∀ c ∈ u, Text.isBlank c = true) : blanks (u ++ s) = blanks s := by
  induction u with
  | nil => rfl
  | cons c u ih =>
      rw [List.cons_append, blanks_cons (h c List.mem_cons_self), ih fun d hd => h d (List.mem_cons_of_mem _ hd)]

theorem takeWhile_append_ends {accepts : Char → Bool} {u r : Text} (hu : ∀ c ∈ u, accepts c = true)
    (hr : Ends accepts r) : (u ++ r).takeWhile accepts = u := by
  have hend := hr.takeWhile []
  rw [List.nil_append, List.takeWhile_nil] at hend
  rw [List.takeWhile_append_of_pos hu, hend, List.append_nil]

theorem dropWhile_append_ends {accepts : Char → Bool} {u r : Text} (hu : ∀ c ∈ u, accepts c = true)
    (hr : Ends accepts r) : (u ++ r).dropWhile accepts = r := by
  have hend := hr.dropWhile []
  rw [List.nil_append, List.dropWhile_nil, List.nil_append] at hend
  rw [List.dropWhile_append_of_pos hu, hend]

theorem run_append {accepts : Char → Bool} {u r : Text} (hu : ∀ c ∈ u, accepts c = true) (hr : Ends accepts r) :
    run accepts (u ++ r) = .ok (u, r) := by
  simp only [run, takeWhile_append_ends hu hr, dropWhile_append_ends hu hr]

theorem runSome_append {accepts : Char → Bool} {u r : Text} (hne : u ≠ []) (hu : ∀ c ∈ u, accepts c = true)
    (hr : Ends accepts r) : runSome accepts (u ++ r) = .ok (u, r) := by
  cases u with
  | nil => exact absurd rfl hne
  | cons c u => simp only [runSome, takeWhile_append_ends hu hr, dropWhile_append_ends hu hr]

theorem runUpTo_append {accepts : Char → Bool} {limit : Nat} {u r : Text} (hne : u ≠ []) (hl : u.length ≤ limit)
    (hu : ∀ c ∈ u, accepts c = true) (hr : Ends accepts r) : runUpTo limit accepts (u ++ r) = .ok (u, r) := by
  have hend : Ends accepts (r.take (limit - u.length)) := by
    intro c hc
    rw [List.head?_take] at hc
    split at hc
    · cases hc
    · exact hr c hc
  cases u with
  | nil => exact absurd rfl hne
  | cons c u =>
      rw [runUpTo, List.take_append, List.take_of_length_le hl, takeWhile_append_ends hu hend]
      simp only [List.drop_left]

theorem word_append {w r : Text} (hw : Text.isWord w = true) (hr : Ends Text.isWordChar r) :
    word (w ++ r) = .ok (w, r) := by
  cases w with
  | nil => cases hw
  | cons c w =>
      simp only [Text.isWord, Bool.and_eq_true, List.all_eq_true] at hw
      rw [word, List.cons_append, bind_ok (charWhere_self hw.1 _), bind_ok (run_append hw.2 hr), pure_apply]

theorem keyword_append {spelling : String} {w r : Text} (hw : Text.isWord w = true)
    (hs : w.map Char.toLower = spelling.toList) (hr : Ends Text.isWordChar r) :
    keyword spelling (w ++ r) = .ok ((), r) := by
  simp only [keyword, word_append hw hr, hs, ↓reduceIte]

theorem keyword_refuses_word {spelling : String} {w r : Text} (hw : Text.isWord w = true)
    (hs : w.map Char.toLower ≠ spelling.toList) (hr : Ends Text.isWordChar r) :
    Refuses (keyword spelling) (w ++ r) :=
  ⟨⟨w ++ r, false, [], none⟩, by simp only [keyword, word_append hw hr, hs, ↓reduceIte]; rfl, rfl⟩

/-! ## What a success tells -/

theorem bind_eq_ok {p : Parser α} {f : α → Parser β} {s u : Text} {b : β} :
    (p >>= f) s = .ok (b, u) ↔ ∃ a r, p s = .ok (a, r) ∧ f a r = .ok (b, u) := by
  cases h : p s with
  | error e => exact ⟨fun h' => (by rw [bind_error h] at h'; cases h'), nofun⟩
  | ok out =>
      rw [bind_ok h]
      exact ⟨fun h' => ⟨out.1, out.2, rfl, h'⟩, fun ⟨_, _, he, hf⟩ => by cases he; exact hf⟩

theorem commit_eq_ok {p : Parser α} {s : Text} {x : α × Text} : p.commit s = .ok x ↔ p s = .ok x := by
  cases h : p s with
  | error e => simp [commit, h]
  | ok out => simp [commit, h]

theorem pure_eq_ok {a b : α} {s r : Text} : (pure a : Parser α) s = .ok (b, r) ↔ a = b ∧ s = r := by
  simp [pure_apply]

theorem char_eq_ok {c : Char} {x : Unit} {s r : Text} : char c s = .ok (x, r) ↔ s = c :: r := by
  cases s with
  | nil => exact ⟨nofun, nofun⟩
  | cons d s =>
      simp only [char]
      split
      · rename_i h
        simp [h]
      · rename_i h
        simp [h, fail]

theorem blanks_eq_ok {x : Unit} {s r : Text} : blanks s = .ok (x, r) ↔ r = s.dropWhile Text.isBlank := by
  change Except.ok ((), s.dropWhile Text.isBlank) = .ok (x, r) ↔ _
  simp [eq_comm]

/-! ## Blanks in front -/

/-- The parser reads on after blanks as it would without them. -/
def SkipsBlanks (p : Parser α) : Prop := ∀ s, p (s.dropWhile Text.isBlank) = p s

theorem ends_dropWhile (accepts : Char → Bool) (s : Text) : Ends accepts (s.dropWhile accepts) := by
  intro c hc
  have hnot := List.head?_dropWhile_not accepts s
  rwa [hc] at hnot

theorem blanks_skipsBlanks : SkipsBlanks blanks := by
  intro s
  rw [blanks_self (ends_dropWhile _ s)]
  rfl

theorem SkipsBlanks.bind {p : Parser α} (h : SkipsBlanks p) (f : α → Parser β) : SkipsBlanks (p >>= f) := by
  intro s
  simp only [Bind.bind, h s]

theorem SkipsBlanks.chain {operand : Parser α} (h : SkipsBlanks operand) (connective : Parser Unit) (join : α → α → α) :
    SkipsBlanks (operand.chain connective join) :=
  h.bind _

/-- A repetition skips blanks with its first item, and leaves them to what follows if it has none. -/
theorem SkipsBlanks.many_bind {p : Parser α} {f : List α → Parser β} (hp : SkipsBlanks p) (hconsumes : Consumes p)
    (hf : SkipsBlanks (f [])) : SkipsBlanks (many p >>= f) := by
  intro s
  have hskip := hp s
  cases h : p s with
  | ok out =>
      have hmany := hconsumes.many_step h
      have hmany' := hconsumes.many_step (hskip.trans h)
      simp only [Bind.bind, hmany, hmany']
  | error e =>
      cases hc : e.committed with
      | true => rw [bind_error (many_abort h hc), bind_error (many_abort (hskip.trans h) hc)]
      | false =>
          rw [bind_ok (many_stop h hc), bind_ok (many_stop (hskip.trans h) hc)]
          exact hf s

theorem SkipsBlanks.cons {p : Parser α} (h : SkipsBlanks p) {c : Char} (hc : Text.isBlank c = true) (s : Text) :
    p (c :: s) = p s := by
  rw [← h (c :: s), List.dropWhile_cons_of_pos hc, h s]

/-! ## Chains of operands -/

/-- A chain that goes on after `first`. -/
def chainFrom (operand : Parser α) (connective : Parser Unit) (join : α → α → α) (first : α) : Parser α := do
  let others ← many do
    connective
    commit operand
  return others.foldl join first

section

variable {operand : Parser α} {connective : Parser Unit} {join : α → α → α} {a b : α} {s r u : Text}

theorem chain_operand (h : operand s = .ok (a, r)) :
    chain operand connective join s = chainFrom operand connective join a r :=
  bind_ok h

theorem chainFrom_step (hc : Consumes connective) (hop : ∀ n, Tracks [] 0 n operand operand)
    (hs : connective s = .ok ((), r)) (hb : operand r = .ok (b, u)) :
    chainFrom operand connective join a s = chainFrom operand connective join (join a b) u := by
  have hitem : (do connective; commit operand) s = .ok (b, u) := (bind_ok hs).trans (commit_ok hb)
  have hconsumes : Consumes (do connective; commit operand) :=
    Tracks.consumes fun n => hc.tracks.bind fun _ => (hop _).commit
  cases hrest : many (do connective; commit operand) u with
  | ok out =>
      simp only [chainFrom]
      rw [bind_ok (hconsumes.many_cons hitem hrest), bind_ok hrest, List.foldl_cons]
  | error e =>
      have hall : many (do connective; commit operand) s = .error e := by
        rw [hconsumes.many_step hitem, bind_error hrest]
      simp only [chainFrom]
      rw [bind_error hall, bind_error hrest]

theorem chainFrom_end (h : Refuses connective s) : chainFrom operand connective join a s = .ok (a, s) :=
  bind_ok (h.bind _).many

end

/-! ## Quoted text -/

theorem isHexDigit_digitChar : ∀ d < 16, Text.isHexDigit (Nat.digitChar d) = true ∧
    Text.hexDigitValue (Nat.digitChar d) = d := by
  decide

theorem hexadecimal_spec (n : Nat) :
    (∀ c ∈ Text.hexadecimal n, Text.isHexDigit c = true) ∧ Text.hexValue (Text.hexadecimal n) = n := by
  induction n using Nat.strongRecOn with
  | ind n ih =>
      unfold Text.hexadecimal at ih ⊢
      rw [Nat.toDigits_eq_if (by decide)]
      split
      · rename_i hlt
        obtain ⟨hdigit, hvalue⟩ := isHexDigit_digitChar n hlt
        exact ⟨by simpa using hdigit, by simpa [Text.hexValue] using hvalue⟩
      · rename_i hge
        obtain ⟨hdigits, hvalue⟩ := ih (n / 16) (by omega)
        obtain ⟨hdigit, hlast⟩ := isHexDigit_digitChar (n % 16) (by omega)
        refine ⟨fun c hc => ?_, ?_⟩
        · rcases List.mem_append.mp hc with hc | hc
          · exact hdigits c hc
          · rw [List.mem_singleton.mp hc]
            exact hdigit
        · unfold Text.hexValue at hvalue ⊢
          rw [List.foldl_append, hvalue, List.foldl_cons, List.foldl_nil, hlast]
          omega

/-- The number of a control character has at most two digits. -/
theorem length_hexadecimal {n : Nat} (h : n < 256) : (Text.hexadecimal n).length ≤ 2 := by
  unfold Text.hexadecimal
  rw [Nat.toDigits_eq_if (by decide)]
  split
  · simp
  · rw [Nat.toDigits_of_lt_base (by omega)]
    simp

theorem numberedEscape_control {c : Char} (h : Text.isControl c = true) (r : Text) :
    numberedEscape ('\x7b' :: (Text.hexadecimal c.toNat ++ '\x7d' :: r)) = .ok ([c], r) := by
  have hlt : c.toNat < 160 := by
    simp only [Text.isControl, Bool.or_eq_true, decide_eq_true_eq, Bool.and_eq_true] at h
    omega
  have hne : Text.hexadecimal c.toNat ≠ [] := Nat.toDigits_ne_nil
  have hlen : (Text.hexadecimal c.toNat).length ≤ 6 := Nat.le_trans (length_hexadecimal (by omega)) (by decide)
  obtain ⟨hhex, hvalue⟩ := hexadecimal_spec c.toNat
  have hclose : Ends Text.isHexDigit ('\x7d' :: r) := .cons (by decide) r
  have hdigits : commit (do char '\x7b'; let ds ← runUpTo 6 Text.isHexDigit; char '\x7d'; return ds)
      ('\x7b' :: (Text.hexadecimal c.toNat ++ '\x7d' :: r)) = .ok (Text.hexadecimal c.toNat, r) := by
    refine commit_ok ?_
    rw [bind_ok (char_self _ _), bind_ok (runUpTo_append hne hlen hhex hclose), bind_ok (char_self _ _), pure_apply]
  have hvalid : c.toNat.isValidChar := c.valid
  rw [numberedEscape, bind_ok hdigits]
  simp only [hvalue, hvalid, ↓reduceIte, pure_apply, Char.ofNat_toNat]

/-- An escaped character is read as the character. -/
theorem unquoted_escaped (c : Char) (r : Text) :
    unquoted '"' (Text.escaped c ++ r) = (unquoted '"' >>= fun text => pure (c :: text)) r := by
  have hpiece : ∀ {d : Char} {u : Text}, d ≠ '"' → quotedPiece '"' (d :: u) = .ok ([c], r) →
      unquoted '"' (d :: u) = (unquoted '"' >>= fun text => pure (c :: text)) r := by
    intro d u hd hp
    rw [unquoted_cons (by decide) hd, bind_ok hp]
    rfl
  rw [Text.escaped.eq_def]
  split
  case h_6 =>
    rename_i hq hb hn hr ht
    split
    · rename_i hc
      have htext : Text.numberedEscape c ++ r =
          '\\' :: 'u' :: '\x7b' :: (Text.hexadecimal c.toNat ++ '\x7d' :: r) := by
        simp [Text.numberedEscape]
      rw [htext]
      refine hpiece (by decide) ?_
      rw [quotedPiece_backslash (by decide)]
      exact numberedEscape_control hc r
    · exact hpiece hq (quotedPiece_plain hq hb r)
  all_goals
    refine hpiece (by decide) ?_
    rw [quotedPiece_backslash (by decide)]
    rfl

/-- Quoted text is read as the text, whatever follows. -/
theorem quotedText_append (text r : Text) : quotedText (Text.quoted text ++ r) = .ok (text, r) := by
  have hrest : unquoted '"' (text.flatMap Text.escaped ++ '"' :: r) = .ok (text, r) := by
    induction text with
    | nil => exact unquoted_quote '"' r
    | cons c text ih =>
        rw [List.flatMap_cons, List.append_assoc, unquoted_escaped, bind_ok ih, pure_apply]
  rw [quotedText_eq, Text.quoted, List.cons_append, List.cons_append, bind_ok (charWhere_self (by decide) _),
    List.append_assoc]
  exact hrest

theorem quoted_starts {accepts : Char → Bool} (h : accepts '"' = false) (text r : Text) :
    Ends accepts (Text.quoted text ++ r) :=
  .cons h _

theorem quotedText_refuses {s : Text} (h : Ends (fun c => c = '"' || c = '\'') s) : Refuses quotedText s :=
  (charWhere_refuses h).bind _

end CompiledRules.Parser
