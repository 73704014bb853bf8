import CompiledRules.Parser.Basic

/-!
# Reading before a stop

A parser that reads a text alone reads the same before a text that none of its parts can take up. `Tracks` states
this for two parsers at once, on texts below a bound and with a least number of characters taken. Of one parser
with the empty stop it bounds repetitions and gives the equation of a recursive parser; with a stop it says that
what follows a text cannot change how the text is read.
-/

namespace CompiledRules.Parser

variable {α β : Type}

/-! ## Sequences, step by step -/

theorem pure_apply (a : α) (s : Text) : (pure a : Parser α) s = .ok (a, s) := rfl

theorem bind_ok {p : Parser α} {f : α → Parser β} {s r : Text} {a : α} (h : p s = .ok (a, r)) :
    (p >>= f) s = f a r := by
  simp only [bind, h]

theorem bind_error {p : Parser α} {f : α → Parser β} {s : Text} {e : Failure} (h : p s = .error e) :
    (p >>= f) s = .error e := by
  simp only [bind, h]

theorem orElse_apply (p q : Parser α) (s : Text) : (p <|> q) s = p.orElse (fun _ => q) s := rfl

theorem orElse_ok {p q : Parser α} {s r : Text} {a : α} (h : p s = .ok (a, r)) : (p <|> q) s = .ok (a, r) := by
  simp only [orElse_apply, orElse, h]

theorem orElse_error {p q : Parser α} {s : Text} {e : Failure} (h : p s = .error e) (hc : e.committed = false) :
    (p <|> q) s = q s := by
  simp only [orElse_apply, orElse, h, hc, Bool.false_eq_true, ↓reduceIte]

/-! ## Outcomes -/

/-- The text `r` is what is left of `s` after at least `k` characters. -/
def Leaves (k : Nat) (s r : Text) : Prop := r <:+ s ∧ r.length + k ≤ s.length

/-- The outcome before `t` that goes with an outcome on the text `s` alone. A success takes at least `k` characters
and leaves `t` untouched; a failure is committed in both or in none, and the same if there is nothing in `t`. -/
inductive Follows (t : Text) (k : Nat) (s : Text) :
    Except Failure (α × Text) → Except Failure (α × Text) → Prop where
  | ok {a : α} {r : Text} : Leaves k s r → Follows t k s (.ok (a, r)) (.ok (a, r ++ t))
  | error {f g : Failure} : f.committed = g.committed → (t = [] → f = g) → Follows t k s (.error f) (.error g)

/-- On texts shorter than `n`, the parser `q` does before `t` what `p` does on the text alone, and takes at least
`k` characters where it succeeds. -/
def Tracks (t : Text) (k n : Nat) (p q : Parser α) : Prop :=
  ∀ s : Text, s.length < n → Follows t k s (p s) (q (s ++ t))

variable {t : Text} {k l m n : Nat}

theorem Leaves.refl (s : Text) : Leaves 0 s s := ⟨List.suffix_refl _, Nat.le_refl _⟩

theorem Leaves.trans {s r u : Text} (h : Leaves k s r) (h' : Leaves l r u) : Leaves (k + l) s u :=
  ⟨h'.1.trans h.1, by have := h.2; have := h'.2; omega⟩

theorem Leaves.taking {s r : Text} (h : Leaves k s r) (hk : l ≤ k) : Leaves l s r :=
  ⟨h.1, by have := h.2; omega⟩

theorem Leaves.tail (c : Char) (s : Text) : Leaves 1 (c :: s) s := ⟨List.suffix_cons _ _, Nat.le_refl _⟩

theorem Leaves.drop {s : Text} (h : k ≤ s.length) : Leaves k s (s.drop k) :=
  ⟨List.drop_suffix _ _, by rw [List.length_drop]; omega⟩

theorem Leaves.dropWhile (accepts : Char → Bool) (s : Text) :
    Leaves (s.takeWhile accepts).length s (s.dropWhile accepts) := by
  refine ⟨List.dropWhile_suffix _, ?_⟩
  have := congrArg List.length (List.takeWhile_append_dropWhile (p := accepts) (l := s))
  rw [List.length_append] at this
  omega

theorem Follows.eq {s : Text} {x y : Except Failure (α × Text)} (h : Follows [] k s x y) : x = y := by
  cases h with
  | ok _ => rw [List.append_nil]
  | error _ he => rw [he rfl]

theorem Follows.refl {s : Text} {x : Except Failure (α × Text)} (h : ∀ a r, x = .ok (a, r) → Leaves k s r) :
    Follows [] k s x x := by
  match x, h with
  | .ok (a, r), h => simpa only [List.append_nil] using Follows.ok (t := []) (h a r rfl)
  | .error f, _ => exact .error rfl fun _ => rfl

theorem Follows.leaves {s : Text} {a : α} {r : Text} {y : Except Failure (α × Text)}
    (h : Follows t k s (.ok (a, r)) y) : Leaves k s r := by
  cases h with
  | ok hl => exact hl

theorem Follows.taking {s : Text} {x y : Except Failure (α × Text)} (h : Follows t k s x y) (hk : l ≤ k) :
    Follows t l s x y := by
  cases h with
  | ok h => exact .ok (h.taking hk)
  | error hc he => exact .error hc he

theorem Follows.after {s r : Text} {x y : Except Failure (α × Text)} (h : Follows t l r x y) (hl : Leaves k s r) :
    Follows t (k + l) s x y := by
  cases h with
  | ok h => exact .ok (hl.trans h)
  | error hc he => exact .error hc he

theorem Tracks.mono {p q : Parser α} (h : Tracks t k n p q) (hk : l ≤ k) (hn : m ≤ n) : Tracks t l m p q :=
  fun s hs => (h s (Nat.lt_of_lt_of_le hs hn)).taking hk

/-- The same on shorter texts. -/
theorem Tracks.below {p q : Parser α} (hn : m ≤ n) (h : Tracks t k n p q) : Tracks t k m p q :=
  h.mono (Nat.le_refl _) hn

/-- The same with fewer characters taken. -/
theorem Tracks.taking {p q : Parser α} (hk : l ≤ k) (h : Tracks t k n p q) : Tracks t l n p q :=
  h.mono hk (Nat.le_refl _)

/-! ## Combinators -/

theorem Tracks.pure (a : α) : Tracks t 0 n (pure a) (pure a) := fun s _ => .ok (.refl s)

theorem Tracks.fail : Tracks t k n (fail : Parser α) Parser.fail := by
  intro s _
  refine .error rfl fun ht => ?_
  rw [ht, List.append_nil]

theorem Tracks.abort : Tracks t k n (abort : Parser α) Parser.abort := by
  intro s _
  refine .error rfl fun ht => ?_
  rw [ht, List.append_nil]

theorem Follows.bind {p q : Parser α} {f g : α → Parser β} {s s' : Text} (h : Follows t k s (p s) (q s'))
    (hf : ∀ a r, p s = .ok (a, r) → Leaves k s r → Follows t l r (f a r) (g a (r ++ t))) :
    Follows t (k + l) s ((p >>= f) s) ((q >>= g) s') := by
  simp only [Bind.bind]
  generalize p s = x at h hf ⊢
  generalize q s' = y at h ⊢
  cases h with
  | ok hl => exact (hf _ _ rfl hl).after hl
  | error hc he => exact .error hc he

theorem Tracks.bind {p q : Parser α} {f g : α → Parser β} (h : Tracks t k n p q)
    (hf : ∀ a, Tracks t l (n - k) (f a) (g a)) : Tracks t (k + l) n (p >>= f) (q >>= g) := by
  refine fun s hs => (h s hs).bind fun a r _ hl => hf a r ?_
  have := hl.2
  omega

theorem Tracks.ite {p q p' q' : Parser α} (c : Prop) [Decidable c] (h : Tracks t k n p q) (h' : Tracks t k n p' q') :
    Tracks t k n (if c then p else p') (if c then q else q') := by
  split
  · exact h
  · exact h'

theorem Tracks.orElse {p q p' q' : Parser α} (h : Tracks t k n p q) (h' : Tracks t k n p' q') :
    Tracks t k n (p <|> p') (q <|> q') := by
  intro s hs
  have hp := h s hs
  simp only [orElse_apply, Parser.orElse]
  generalize p s = x at hp ⊢
  generalize q (s ++ t) = y at hp ⊢
  cases hp with
  | ok hl => exact .ok hl
  | error hc he =>
      simp only [hc]
      split
      · exact .error hc he
      · exact h' s hs

theorem Tracks.commit {p q : Parser α} (h : Tracks t k n p q) : Tracks t k n p.commit q.commit := by
  intro s hs
  have hp := h s hs
  simp only [Parser.commit]
  generalize p s = x at hp ⊢
  generalize q (s ++ t) = y at hp ⊢
  cases hp with
  | ok hl => exact .ok hl
  | error hc he => exact .error rfl fun ht => by rw [he ht]

theorem Tracks.expecting {p q : Parser α} (what : String) (h : Tracks t k n p q) :
    Tracks t k n (p.expecting what) (q.expecting what) := by
  intro s hs
  have hp := h s hs
  simp only [Parser.expecting]
  generalize p s = x at hp ⊢
  generalize q (s ++ t) = y at hp ⊢
  cases hp with
  | ok hl => exact .ok hl
  | error hc he => exact .error hc fun ht => by rw [he ht]

theorem Tracks.optional {p q : Parser α} (h : Tracks t k n p q) : Tracks t 0 n p.optional q.optional := by
  intro s hs
  have hp := h s hs
  simp only [Parser.optional]
  generalize p s = x at hp ⊢
  generalize q (s ++ t) = y at hp ⊢
  cases hp with
  | ok hl => exact .ok (hl.taking (Nat.zero_le _))
  | error hc he =>
      simp only [hc]
      split
      · exact .error hc he
      · exact .ok (.refl s)

/-- An item takes a character, so a repetition may go on for any number of rounds above the length of the text. -/
theorem Tracks.repeated {p q : Parser α} (h : Tracks t 1 n p q) {s : Text} (hs : s.length < n) {c c' : Nat}
    (hc : s.length < c) (hc' : s.length < c') :
    Follows t 0 s (Parser.repeated p c s) (Parser.repeated q c' (s ++ t)) := by
  induction c generalizing s c' with
  | zero => omega
  | succ c ih =>
      obtain ⟨c', rfl⟩ : ∃ d, c' = d + 1 := ⟨c' - 1, by omega⟩
      have hp := h s hs
      simp only [Parser.repeated]
      generalize p s = x at hp ⊢
      generalize q (s ++ t) = y at hp ⊢
      cases hp with
      | ok hl =>
          rename_i a r
          have := hl.2
          have hr : Follows t 0 r (Parser.repeated p c r) (Parser.repeated q c' (r ++ t)) :=
            ih (by omega) (by omega) (by omega)
          simp only
          generalize Parser.repeated p c r = x at hr ⊢
          generalize Parser.repeated q c' (r ++ t) = y at hr ⊢
          cases hr with
          | ok hl' => exact .ok ((hl.trans hl').taking (Nat.zero_le _))
          | error hf he => exact .error hf he
      | error hf he =>
          simp only [hf]
          split
          · exact .error hf he
          · exact .ok (.refl s)

theorem Tracks.many {p q : Parser α} (h : Tracks t 1 n p q) : Tracks t 0 n p.many q.many := by
  intro s hs
  refine h.repeated hs (Nat.lt_succ_self _) ?_
  rw [List.length_append]
  omega

theorem Tracks.atLeastOne {p q : Parser α} (h : Tracks t 1 n p q) : Tracks t 1 n p.atLeastOne q.atLeastOne :=
  h.bind fun _ => (h.below (by omega)).many.bind fun _ => .pure _

theorem Tracks.separatedSome {p q : Parser α} {u v : Parser Unit} (h : Tracks t k n p q) (hu : Tracks t 1 n u v) :
    Tracks t k n (p.separatedSome u) (q.separatedSome v) := by
  refine h.bind fun _ => .bind (.many ?_) fun _ => .pure _
  exact ((hu.below (by omega)).bind fun _ => h.below (by omega)).taking (by omega)

theorem Tracks.separated {p q : Parser α} {u v : Parser Unit} (h : Tracks t k n p q) (hu : Tracks t 1 n u v) :
    Tracks t 0 n (p.separated u) (q.separated v) :=
  (h.separatedSome hu).optional.bind fun _ => .pure _

theorem Tracks.chain {p q : Parser α} {u v : Parser Unit} (join : α → α → α) (h : Tracks t k n p q)
    (hu : Tracks t 1 n u v) : Tracks t k n (p.chain u join) (q.chain v join) := by
  refine h.bind fun _ => .bind (.many ?_) fun _ => .pure _
  exact ((hu.below (by omega)).bind fun _ => (h.below (by omega)).commit).taking (by omega)

/-! ## Characters and runs -/

/-- No text of a class goes on into `t`. -/
def Ends (accepts : Char → Bool) (t : Text) : Prop := ∀ c, t.head? = some c → accepts c = false

theorem Ends.nil (accepts : Char → Bool) : Ends accepts [] := fun _ h => nomatch h

theorem Ends.cons {accepts : Char → Bool} {c : Char} (h : accepts c = false) (r : Text) : Ends accepts (c :: r) := by
  intro d hd
  simp only [List.head?_cons, Option.some.injEq] at hd
  rw [← hd, h]

theorem Ends.mono {accepts accepts' : Char → Bool} (h : Ends accepts t)
    (hsub : ∀ c, accepts' c = true → accepts c = true) : Ends accepts' t := by
  intro c hc
  cases hx : accepts' c with
  | false => rfl
  | true => exact (hsub c hx).symm.trans (h c hc)

theorem Ends.takeWhile {accepts : Char → Bool} (h : Ends accepts t) (s : Text) :
    (s ++ t).takeWhile accepts = s.takeWhile accepts := by
  induction s with
  | nil =>
      cases t with
      | nil => rfl
      | cons c r => simp [h c rfl]
  | cons c s ih => simp only [List.cons_append, List.takeWhile_cons, ih]

theorem Ends.dropWhile {accepts : Char → Bool} (h : Ends accepts t) (s : Text) :
    (s ++ t).dropWhile accepts = s.dropWhile accepts ++ t := by
  induction s with
  | nil =>
      cases t with
      | nil => rfl
      | cons c r => simp [h c rfl]
  | cons c s ih =>
      simp only [List.cons_append, List.dropWhile_cons, ih]
      split <;> rfl

theorem Tracks.charWhere {accepts : Char → Bool} (h : Ends accepts t) :
    Tracks t 1 n (charWhere accepts) (Parser.charWhere accepts) := by
  intro s _
  cases s with
  | nil =>
      cases t with
      | nil => exact .error rfl fun _ => rfl
      | cons c r =>
          simp only [List.nil_append, Parser.charWhere, h c rfl, Bool.false_eq_true, ↓reduceIte]
          exact .error rfl fun ht => by cases ht
  | cons c s =>
      simp only [List.cons_append, Parser.charWhere]
      split
      · exact .ok (.tail c s)
      · exact .error rfl fun ht => by rw [ht, List.append_nil]

theorem charWhere_ok {accepts : Char → Bool} {s r : Text} {c : Char} (h : charWhere accepts s = .ok (c, r)) :
    accepts c = true := by
  cases s with
  | nil => cases h
  | cons d s =>
      simp only [Parser.charWhere] at h
      split at h
      · cases h; assumption
      · cases h

theorem char_eq (c : Char) : char c = charWhere (· = c) >>= fun _ => pure () := by
  funext s
  cases s with
  | nil => rfl
  | cons d s =>
      by_cases hd : d = c
      · simp [char, charWhere, bind, pure, hd]
      · simp [char, charWhere, bind, fail, hd]

theorem Tracks.char {c : Char} (h : Ends (· = c) t) : Tracks t 1 n (char c) (Parser.char c) := by
  rw [char_eq]
  exact (Tracks.charWhere h).bind fun _ => .pure _

theorem isPrefixOf_append {text : Text} (h : Ends text.contains t) (s : Text) :
    text.isPrefixOf (s ++ t) = text.isPrefixOf s := by
  induction text generalizing s with
  | nil => simp [List.isPrefixOf]
  | cons c text ih =>
      have ht : Ends text.contains t := fun d hd => by
        have := h d hd
        simp only [List.contains_cons, Bool.or_eq_false_iff] at this
        exact this.2
      cases s with
      | nil =>
          cases t with
          | nil => rfl
          | cons d r =>
              have := h d rfl
              simp only [List.contains_cons, Bool.or_eq_false_iff, beq_eq_false_iff_ne] at this
              simp [List.isPrefixOf, Ne.symm this.1]
      | cons d s => simp only [List.cons_append, List.isPrefixOf, ih ht]

theorem Tracks.exactly {text : Text} (h : Ends text.contains t) (hne : text ≠ []) :
    Tracks t 1 n (exactly text) (Parser.exactly text) := by
  intro s _
  simp only [Parser.exactly, isPrefixOf_append h]
  split
  · rename_i hp
    have hl : text.length ≤ s.length := by
      obtain ⟨r, rfl⟩ := List.isPrefixOf_iff_prefix.mp hp
      rw [List.length_append]
      omega
    rw [List.drop_append_of_le_length hl]
    exact .ok ((Leaves.drop hl).taking (List.length_pos_iff.mpr hne))
  · exact .error rfl fun ht => by rw [ht, List.append_nil]

theorem Tracks.run {accepts : Char → Bool} (h : Ends accepts t) :
    Tracks t 0 n (run accepts) (Parser.run accepts) := by
  intro s _
  simp only [Parser.run, h.takeWhile, h.dropWhile]
  exact .ok ((Leaves.dropWhile accepts s).taking (Nat.zero_le _))

theorem Tracks.runSome {accepts : Char → Bool} (h : Ends accepts t) :
    Tracks t 1 n (runSome accepts) (Parser.runSome accepts) := by
  intro s _
  simp only [Parser.runSome, h.takeWhile, h.dropWhile]
  have hl := Leaves.dropWhile accepts s
  cases hw : s.takeWhile accepts with
  | nil => exact .error rfl fun ht => by rw [ht, List.append_nil]
  | cons c w => exact .ok (hl.taking (by simp [hw]))

theorem Tracks.runUpTo {accepts : Char → Bool} (limit : Nat) (h : Ends accepts t) :
    Tracks t 1 n (runUpTo limit accepts) (Parser.runUpTo limit accepts) := by
  intro s _
  have hw : ((s ++ t).take limit).takeWhile accepts = (s.take limit).takeWhile accepts := by
    rw [List.take_append]
    refine Ends.takeWhile ?_ _
    intro c hc
    cases hl : limit - s.length with
    | zero => simp [hl] at hc
    | succ d =>
        rw [hl, List.head?_take] at hc
        exact h c (by simpa using hc)
  simp only [Parser.runUpTo, hw]
  have hle : ((s.take limit).takeWhile accepts).length ≤ s.length :=
    Nat.le_trans (List.takeWhile_sublist _).length_le (List.length_take_le' _ _)
  cases hc : (s.take limit).takeWhile accepts with
  | nil => exact .error rfl fun ht => by rw [ht, List.append_nil]
  | cons c w =>
      rw [hc] at hle
      simp only
      rw [List.drop_append_of_le_length hle]
      exact .ok ((Leaves.drop hle).taking (by simp))

/-! ## Recursive parsers -/

/-- A layer calls itself only on shorter texts, and it does before `t` what it does on a text alone. -/
def Guarded (t : Text) (k : Nat) (layer : Parser α → Parser α) : Prop :=
  ∀ (n : Nat) (p q : Parser α), Tracks t k n p q → Tracks t k (n + 1) (layer p) (layer q)

theorem Guarded.nested {layer : Parser α → Parser α} (h : Guarded t k layer) {d d' : Nat} (hd : n ≤ d)
    (hd' : n ≤ d') : Tracks t k n (nested layer d) (Parser.nested layer d') := by
  induction n generalizing d d' with
  | zero => exact fun s hs => absurd hs (Nat.not_lt_zero _)
  | succ n ih =>
      obtain ⟨d, rfl⟩ : ∃ e, d = e + 1 := ⟨d - 1, by omega⟩
      obtain ⟨d', rfl⟩ : ∃ e, d' = e + 1 := ⟨d' - 1, by omega⟩
      exact h _ _ _ (ih (by omega) (by omega))

theorem Guarded.recursive {layer : Parser α → Parser α} (h : Guarded t k layer) :
    Tracks t k n (recursive layer) (Parser.recursive layer) := by
  intro s _
  refine h.nested (Nat.le_refl _) ?_ s (Nat.lt_succ_self _)
  rw [List.length_append]
  omega

/-- A guarded layer describes its recursive parser. -/
theorem Guarded.recursive_eq {layer : Parser α → Parser α} (h : Guarded [] k layer) :
    Parser.recursive layer = layer (Parser.recursive layer) := by
  funext s
  have hn : Tracks [] k s.length (Parser.nested layer s.length) (Parser.recursive layer) := by
    intro s' hs'
    refine h.nested (n := s'.length + 1) hs' ?_ s' (Nat.lt_succ_self _)
    simp only [List.append_nil, Nat.le_refl]
  have := (h _ _ _ hn s (Nat.lt_succ_self _)).eq
  rwa [List.append_nil] at this

end CompiledRules.Parser
