import CompiledRules.Proofs.Parser.Layout
import Mathlib

/-!
# Failures that end the reading

A committed failure passes through every choice, option and repetition around it, so that it ends the whole reading
wherever reading comes to it.
-/

namespace CompiledRules.Parser

variable {α β : Type} {rest s r u : Text}

/-! ## Committed failures -/

/-- The parser fails for good, with `rest` left to read. -/
def Aborts (rest : Text) (p : Parser α) (s : Text) : Prop :=
  ∃ e, p s = .error e ∧ e.committed = true ∧ e.rest = rest

theorem Aborts.not_refuses {p : Parser α} (h : Aborts rest p s) : ¬ Refuses p s := by
  rintro ⟨e, he, hc⟩
  obtain ⟨e', he', hc', -⟩ := h
  cases he.symm.trans he'
  rw [hc] at hc'
  cases hc'

theorem Aborts.of_eq {p q : Parser α} (h : p s = q r) (hq : Aborts rest q r) : Aborts rest p s := by
  rw [Aborts, h]
  exact hq

theorem Aborts.bind {p : Parser α} (h : Aborts rest p s) (f : α → Parser β) : Aborts rest (p >>= f) s := by
  obtain ⟨e, he, hc⟩ := h
  exact ⟨e, bind_error he, hc⟩

theorem Aborts.bind_ok {p : Parser α} {f : α → Parser β} {a : α} (h : p s = .ok (a, r)) (hf : Aborts rest (f a) r) :
    Aborts rest (p >>= f) s := by
  obtain ⟨e, he, hc⟩ := hf
  exact ⟨e, by rw [Parser.bind_ok h, he], hc⟩

theorem Aborts.orElse {p : Parser α} (h : Aborts rest p s) (q : Parser α) : Aborts rest (p <|> q) s := by
  obtain ⟨e, he, hc, hr⟩ := h
  refine ⟨e, ?_, hc, hr⟩
  change Parser.orElse p (fun _ => q) s = _
  simp only [Parser.orElse, he, hc, ↓reduceIte]

theorem Refuses.orElse_aborts {p q : Parser α} (h : Refuses p s) (hq : Aborts rest q s) : Aborts rest (p <|> q) s :=
  .of_eq (h.orElse_eq q) hq

theorem Aborts.commit {p : Parser α} (h : Aborts rest p s) : Aborts rest p.commit s := by
  obtain ⟨e, he, -, hr⟩ := h
  exact ⟨{ e with committed := true }, by simp only [Parser.commit, he], rfl, hr⟩

theorem Aborts.expecting {p : Parser α} (h : Aborts rest p s) (what : String) : Aborts rest (p.expecting what) s := by
  obtain ⟨e, he, hc⟩ := h
  exact ⟨{ e with expected := e.expected ++ [what] }, by simp only [Parser.expecting, he], hc⟩

theorem Aborts.optional {p : Parser α} (h : Aborts rest p s) : Aborts rest p.optional s := by
  obtain ⟨e, he, hc, hr⟩ := h
  exact ⟨e, by simp only [Parser.optional, he, hc, ↓reduceIte], hc, hr⟩

theorem Aborts.many {p : Parser α} (h : Aborts rest p s) : Aborts rest p.many s := by
  obtain ⟨e, he, hc, hr⟩ := h
  exact ⟨e, many_abort he hc, hc, hr⟩

theorem Aborts.complete {p : Parser α} (h : Aborts rest p s) :
    ∃ e, complete p s = .error e ∧ e.committed = true ∧ e.rest = rest := by
  obtain ⟨e, he, hc⟩ := h
  exact ⟨e, by simp only [Parser.complete, he], hc⟩

theorem SkipsBlanks.aborts {p : Parser α} (h : SkipsBlanks p) (hs : Aborts rest p (s.dropWhile Text.isBlank)) :
    Aborts rest p s :=
  .of_eq (h s).symm hs

/-! ## Where repetitions come to -/

/-- The parser reads what stands between the two texts. -/
def Takes (p : Parser α) (s r : Text) : Prop := ∃ a, p s = .ok (a, r)

/-- Between the two texts stand items, each with a separator behind it. -/
def Passes (item : Parser α) (separator : Parser Unit) : Text → Text → Prop :=
  Relation.ReflTransGen (Takes (item >>= fun _ => separator))

/-- The sign between two arguments. -/
def comma : Parser Unit := do
  blanks
  char ','

theorem takes_bind {p : Parser α} {f : α → Parser β} :
    Takes (p >>= f) s u ↔ ∃ a r, p s = .ok (a, r) ∧ Takes (f a) r u := by
  simp only [Takes, bind_eq_ok]
  tauto

theorem Takes.bind_aborts {p : Parser α} {f : α → Parser β} (h : Takes p s r) (hf : ∀ a, Aborts rest (f a) r) :
    Aborts rest (p >>= f) s := by
  obtain ⟨a, ha⟩ := h
  exact .bind_ok ha (hf a)

/-- A failure for good in one of several items ends the repetition. -/
theorem Consumes.many_aborts {p : Parser α} (hp : Consumes p) (h : Relation.ReflTransGen (Takes p) s u)
    (hu : Aborts rest p u) : Aborts rest p.many s := by
  induction h using Relation.ReflTransGen.head_induction_on with
  | refl => exact hu.many
  | head hstep _ ih =>
      obtain ⟨a, ha⟩ := hstep
      exact .of_eq (hp.many_step ha) (ih.bind _)

theorem Passes.committed {item : Parser α} {separator : Parser Unit} (h : Passes item separator s u) :
    Passes item.commit separator s u := by
  refine Relation.ReflTransGen.mono (fun s r hstep => ?_) _ _ h
  obtain ⟨a, v, hitem, hseparator⟩ := takes_bind.1 hstep
  exact takes_bind.2 ⟨a, v, commit_ok hitem, hseparator⟩

/-- What was passed after one separator is read in turns of a separator and an item. -/
theorem Passes.many_aborts {item : Parser α} {separator : Parser Unit} (hc : Consumes (do separator; item))
    (h : Passes item separator r u) (hr : Takes separator s r) (hu : Aborts rest item u) :
    Aborts rest (many do separator; item) s := by
  -- A turn starts one separator before its item, so where it starts moves along with the induction.
  induction h using Relation.ReflTransGen.head_induction_on generalizing s with
  | refl =>
      obtain ⟨_, hr⟩ := hr
      exact (Aborts.bind_ok hr hu).many
  | head hstep _ ih =>
      obtain ⟨_, hr⟩ := hr
      obtain ⟨a, v, hitem, hseparator⟩ := takes_bind.1 hstep
      have hturn : (do separator; item) s = .ok (a, v) := (bind_ok hr).trans hitem
      exact .of_eq (hc.many_step hturn) ((ih hseparator).bind _)

theorem Passes.separatedSome_aborts {item : Parser α} {separator : Parser Unit} (hc : Consumes (do separator; item))
    (h : Passes item separator s u) (hu : Aborts rest item u) : Aborts rest (separatedSome item separator) s := by
  rcases h.cases_head with rfl | ⟨r, hstep, hrest⟩
  · exact hu.bind _
  · obtain ⟨a, v, hitem, hseparator⟩ := takes_bind.1 hstep
    exact .bind_ok hitem ((Passes.many_aborts hc hrest hseparator hu).bind _)

theorem Passes.separated_aborts {item : Parser α} {separator : Parser Unit} (hc : Consumes (do separator; item))
    (h : Passes item separator s u) (hu : Aborts rest item u) : Aborts rest (separated item separator) s :=
  (h.separatedSome_aborts hc hu).optional.bind _

theorem Passes.chain_aborts {operand : Parser α} {connective : Parser Unit} {join : α → α → α}
    (hc : Consumes connective) (hop : ∀ n, Tracks [] 0 n operand operand) (h : Passes operand connective s u)
    (hu : Aborts rest operand u) : Aborts rest (chain operand connective join) s := by
  rcases h.cases_head with rfl | ⟨r, hstep, hrest⟩
  · exact hu.bind _
  · obtain ⟨a, v, hitem, hseparator⟩ := takes_bind.1 hstep
    have hturn : Consumes (do connective; commit operand) :=
      Tracks.consumes (t := []) fun n => .taking (by omega) (.bind hc.tracks fun _ => .commit (hop _))
    exact .bind_ok hitem ((Passes.many_aborts hturn (Passes.committed hrest) hseparator hu.commit).bind _)

end CompiledRules.Parser
