import CompiledRules.Proofs.Parser.Reading

/-!
# What parsers yield

A success tells which alternative was taken and that those before it refused. What holds of every result of a parser
holds of every result that is put together from them.
-/

namespace CompiledRules.Parser

variable {α β : Type}

/-! ## What a success tells -/

theorem orElse_eq_ok {p q : Parser α} {s : Text} {x : α × Text} :
    (p <|> q) s = .ok x ↔ p s = .ok x ∨ Refuses p s ∧ q s = .ok x := by
  cases h : p s with
  | ok out =>
      rw [orElse_ok (a := out.1) (r := out.2) h]
      refine ⟨.inl, ?_⟩
      rintro (h' | ⟨⟨e, he, -⟩, -⟩)
      · exact h'
      · rw [h] at he
        cases he
  | error e =>
      cases hc : e.committed with
      | true =>
          have hfail : (p <|> q) s = .error e := by simp only [orElse_apply, orElse, h, hc, ↓reduceIte]
          rw [hfail]
          refine ⟨fun h' => (by cases h'), ?_⟩
          rintro (h' | ⟨⟨e', he', hc'⟩, -⟩)
          · cases h'
          · rw [h] at he'
            cases he'
            rw [hc] at hc'
            cases hc'
      | false =>
          rw [orElse_error h hc]
          exact ⟨fun h' => .inr ⟨⟨e, h, hc⟩, h'⟩, fun h' => h'.elim (fun h'' => by cases h'') And.right⟩

theorem expecting_eq_ok {p : Parser α} {what : String} {s : Text} {x : α × Text} :
    p.expecting what s = .ok x ↔ p s = .ok x := by
  cases h : p s with
  | error e => simp [expecting, h]
  | ok out => simp [expecting, h]

theorem optional_eq_ok {p : Parser α} {s r : Text} {a? : Option α} (h : p.optional s = .ok (a?, r)) :
    (∃ a, a? = some a ∧ p s = .ok (a, r)) ∨ a? = none ∧ r = s ∧ Refuses p s := by
  rw [optional] at h
  split at h
  · rename_i hp
    cases h
    exact .inl ⟨_, rfl, hp⟩
  · rename_i e he
    split at h
    · cases h
    · rename_i hc
      cases h
      exact .inr ⟨rfl, rfl, e, he, by simpa using hc⟩

theorem Consumes.many_eq_ok {p : Parser α} (hp : Consumes p) {s r : Text} {as : List α} (h : many p s = .ok (as, r)) :
    as = [] ∧ r = s ∧ Refuses p s ∨ ∃ a u as', as = a :: as' ∧ p s = .ok (a, u) ∧ many p u = .ok (as', r) := by
  cases hs : p s with
  | ok out =>
      rw [hp.many_step hs] at h
      obtain ⟨as', u, hmany, h⟩ := bind_eq_ok.1 h
      obtain ⟨rfl, rfl⟩ := pure_eq_ok.1 h
      exact .inr ⟨out.1, out.2, as', rfl, rfl, hmany⟩
  | error e =>
      cases hc : e.committed with
      | true =>
          rw [many_abort hs hc] at h
          cases h
      | false =>
          rw [many_stop hs hc] at h
          cases h
          exact .inl ⟨rfl, rfl, e, hs, hc⟩

theorem Refuses.of_bind_pure {p : Parser α} {f : α → β} {s : Text} (h : Refuses (p >>= fun a => pure (f a)) s) :
    Refuses p s := by
  obtain ⟨e, he, hc⟩ := h
  cases hs : p s with
  | ok out =>
      rw [Parser.bind_ok (a := out.1) (r := out.2) hs] at he
      cases he
  | error e' =>
      rw [bind_error hs] at he
      cases he
      exact ⟨e, hs, hc⟩

/-- Where a repetition stops, no item follows. -/
theorem Consumes.refuses_of_many {p : Parser α} (hp : Consumes p) {s r : Text} {as : List α}
    (h : many p s = .ok (as, r)) : Refuses p r := by
  induction as generalizing s with
  | nil =>
      rcases hp.many_eq_ok h with ⟨-, rfl, hs⟩ | ⟨_, _, _, has, -⟩
      · exact hs
      · cases has
  | cons a as ih =>
      rcases hp.many_eq_ok h with ⟨has, -⟩ | ⟨_, u, _, has, -, hmany⟩
      · cases has
      · cases has
        exact ih hmany

theorem word_eq_ok {s w r : Text} (h : word s = .ok (w, r)) :
    s = w ++ r ∧ Text.isWord w = true ∧ Ends Text.isWordChar r := by
  obtain ⟨c, u, hc, h⟩ := bind_eq_ok.1 h
  obtain ⟨others, v, hrun, h⟩ := bind_eq_ok.1 h
  obtain ⟨rfl, rfl⟩ := pure_eq_ok.1 h
  cases s with
  | nil => cases hc
  | cons d s =>
      have hd : Text.isWordStart c = true := charWhere_ok hc
      simp only [charWhere] at hc
      split at hc
      · cases hc
        cases hrun
        refine ⟨?_, ?_, ends_dropWhile _ _⟩
        · rw [List.cons_append, List.takeWhile_append_dropWhile]
        · simp [Text.isWord, hd]
      · cases hc

/-! ## Properties of all results -/

/-- Whatever the parser reads has the property. -/
def Yields (p : Parser α) (P : α → Prop) : Prop := ∀ s a r, p s = .ok (a, r) → P a

theorem Yields.bind {p : Parser α} {P : α → Prop} {f : α → Parser β} {Q : β → Prop} (hp : Yields p P)
    (hf : ∀ a, P a → Yields (f a) Q) : Yields (p >>= f) Q := by
  intro s b u h
  obtain ⟨a, r, ha, hb⟩ := bind_eq_ok.1 h
  exact hf a (hp s a r ha) r b u hb

theorem Yields.pure {P : α → Prop} {a : α} (h : P a) : Yields (pure a) P := by
  intro s b r hb
  obtain ⟨rfl, -⟩ := pure_eq_ok.1 hb
  exact h

theorem Yields.all (p : Parser α) : Yields p fun _ => True := fun _ _ _ _ => trivial

theorem Yields.orElse {p q : Parser α} {P : α → Prop} (hp : Yields p P) (hq : Yields q P) : Yields (p <|> q) P := by
  intro s a r h
  rcases orElse_eq_ok.1 h with h | ⟨-, h⟩
  · exact hp s a r h
  · exact hq s a r h

theorem Yields.commit {p : Parser α} {P : α → Prop} (h : Yields p P) : Yields p.commit P :=
  fun s a r ha => h s a r (commit_eq_ok.1 ha)

theorem runSome_yields (accepts : Char → Bool) :
    Yields (runSome accepts) fun w => w ≠ [] ∧ ∀ c ∈ w, accepts c = true := by
  intro s w r h
  rw [runSome] at h
  split at h
  · cases h
  · rename_i hne
    cases h
    exact ⟨hne, List.all_eq_true.1 List.all_takeWhile⟩

theorem word_yields : Yields word fun w => Text.isWord w = true := fun _ _ _ h => (word_eq_ok h).2.1

theorem Yields.many {p : Parser α} {P : α → Prop} (h : Yields p P) : Yields p.many fun as => ∀ a ∈ as, P a := by
  have hrepeated (n : Nat) : Yields (repeated p n) fun as => ∀ a ∈ as, P a := by
    induction n with
    | zero =>
        rintro s as r ⟨⟩
        exact nofun
    | succ n ih =>
        intro s as r hs
        rw [repeated] at hs
        split at hs
        · split at hs
          · cases hs
          · cases hs
            exact nofun
        · rename_i a u ha
          split at hs
          · rename_i as' u' has
            cases hs
            exact List.forall_mem_cons.2 ⟨h s a u ha, ih u as' _ has⟩
          · cases hs
  exact fun s => hrepeated (s.length + 1) s

theorem Yields.separatedSome {p : Parser α} {P : α → Prop} (h : Yields p P) (separator : Parser Unit) :
    Yields (p.separatedSome separator) fun as => ∀ a ∈ as, P a :=
  h.bind fun _ ha => (Yields.many ((Yields.all _).bind fun _ _ => h)).bind fun _ has =>
    .pure (List.forall_mem_cons.2 ⟨ha, has⟩)

theorem Yields.separated {p : Parser α} {P : α → Prop} (h : Yields p P) (separator : Parser Unit) :
    Yields (p.separated separator) fun as => ∀ a ∈ as, P a := by
  intro s as r hs
  obtain ⟨as?, u, hoption, hs⟩ := bind_eq_ok.1 hs
  obtain ⟨rfl, -⟩ := pure_eq_ok.1 hs
  rcases optional_eq_ok hoption with ⟨as, rfl, has⟩ | ⟨rfl, -, -⟩
  · exact h.separatedSome separator s as u has
  · exact nofun

theorem Yields.chain {operand : Parser α} {P : α → Prop} (h : Yields operand P) (connective : Parser Unit)
    {join : α → α → α} (hjoin : ∀ a b, P a → P b → P (join a b)) : Yields (operand.chain connective join) P := by
  refine h.bind fun first hfirst => ?_
  refine (Yields.many ((Yields.all _).bind fun _ _ => h.commit)).bind fun others hothers => ?_
  refine .pure ?_
  clear h
  induction others generalizing first with
  | nil => exact hfirst
  | cons next others ih =>
      obtain ⟨hnext, hothers⟩ := List.forall_mem_cons.1 hothers
      exact ih (join first next) (hjoin first next hfirst hnext) hothers

theorem Yields.recursive {layer : Parser α → Parser α} {P : α → Prop} (h : ∀ p, Yields p P → Yields (layer p) P) :
    Yields (Parser.recursive layer) P := by
  have hnested (depth : Nat) : Yields (nested layer depth) P := by
    induction depth with
    | zero => rintro s a r ⟨⟩
    | succ depth ih => exact h _ ih
  exact fun s => hnested (s.length + 1) s

end CompiledRules.Parser
