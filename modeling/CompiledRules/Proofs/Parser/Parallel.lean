import CompiledRules.Proofs.Parser.Yields
import Mathlib

/-!
# Two texts side by side

Two parsers run on two texts that correspond to each other. They agree if their results and their rests correspond
again, or if both fail alike. How texts correspond may change along the way, so it is told by a state. Sequences, choices
and repetitions of parsers that agree do agree.
-/

namespace CompiledRules.Parser

variable {α β σ : Type}

/-- What two parsers come to, if they agree: results that correspond and lead to a state, with rests that correspond in
this state, or two failures of which both or none is committed. -/
inductive Outcome (O : σ → Text → Text → Prop) (S : α → α → σ → Prop) :
    Except Failure (α × Text) → Except Failure (α × Text) → Prop where
  | ok {a b : α} {n : σ} {r t : Text} : S a b n → O n r t → Outcome O S (.ok (a, r)) (.ok (b, t))
  | error {f g : Failure} : f.committed = g.committed → Outcome O S (.error f) (.error g)

/-- The parsers agree on all texts that correspond as `I` tells. -/
def Parallel (I : Text → Text → Prop) (O : σ → Text → Text → Prop) (S : α → α → σ → Prop) (p q : Parser α) : Prop :=
  ∀ s t, I s t → Outcome O S (p s) (q t)

/-- The results are equal, and the state stays. -/
def Same (n : σ) (a b : α) (m : σ) : Prop := a = b ∧ m = n

/-- The results correspond one by one, each in the state that the one before leads to. -/
inductive Listwise (R : σ → α → α → σ → Prop) : σ → List α → List α → σ → Prop where
  | nil {n : σ} : Listwise R n [] [] n
  | cons {k m n : σ} {a b : α} {as bs : List α} : R k a b m → Listwise R m as bs n → Listwise R k (a :: as) (b :: bs) n

theorem Listwise.same {k n : σ} {as bs : List α} (h : Listwise Same k as bs n) : Same k as bs n := by
  induction h with
  | nil => exact ⟨rfl, rfl⟩
  | cons hitem _ ih =>
      obtain ⟨rfl, rfl⟩ := hitem
      obtain ⟨rfl, rfl⟩ := ih
      exact ⟨rfl, rfl⟩

section

variable {I : Text → Text → Prop} {M O : σ → Text → Text → Prop} {S T : α → α → σ → Prop} {U : β → β → σ → Prop}
  {p q p' q' : Parser α} {n : σ}

/-! ## Sequences and choices -/

theorem Parallel.pure {a b : α} (h : S a b n) : Parallel (O n) O S (pure a) (pure b) := fun _ _ hst => .ok h hst

theorem Parallel.abort : Parallel I O S abort abort := fun _ _ _ => .error rfl

theorem Outcome.bind {f g : α → Parser β} {s t : Text} (hp : Outcome M S (p s) (q t))
    (hf : ∀ a b n r u, p s = .ok (a, r) → S a b n → M n r u → Outcome O U (f a r) (g b u)) :
    Outcome O U ((p >>= f) s) ((q >>= g) t) := by
  simp only [Bind.bind]
  generalize p s = x at hp hf ⊢
  generalize q t = y at hp ⊢
  cases hp with
  | ok hab hrest => exact hf _ _ _ _ _ rfl hab hrest
  | error hc => exact .error hc

theorem Parallel.bind {f g : α → Parser β} (hp : Parallel I M S p q)
    (hf : ∀ a b n, S a b n → Parallel (M n) O U (f a) (g b)) : Parallel I O U (p >>= f) (q >>= g) :=
  fun s t hst => (hp s t hst).bind fun a b n r u _ hab hrest => hf a b n hab r u hrest

/-- What is read alike decides alike how reading goes on. -/
theorem Parallel.then {f g : α → Parser β} (hp : Parallel I M (Same n) p q)
    (hf : ∀ a, Parallel (M n) O U (f a) (g a)) : Parallel I O U (p >>= f) (q >>= g) := by
  refine hp.bind fun a b m hab => ?_
  obtain ⟨rfl, rfl⟩ := hab
  exact hf a

theorem Parallel.restrict {J : Text → Text → Prop} (h : Parallel I O S p q) (hI : ∀ s t, J s t → I s t) :
    Parallel J O S p q :=
  fun s t hst => h s t (hI s t hst)

theorem Parallel.mono (h : Parallel I M S p q) (hrest : ∀ n s t, M n s t → O n s t)
    (hresult : ∀ a b n, S a b n → T a b n) : Parallel I O T p q := by
  intro s t hst
  have hpq := h s t hst
  generalize p s = x at hpq ⊢
  generalize q t = y at hpq ⊢
  cases hpq with
  | ok hab hr => exact .ok (hresult _ _ _ hab) (hrest _ _ _ hr)
  | error hc => exact .error hc

/-- Lists that correspond item by item to equal items are equal. -/
theorem Parallel.same {p q : Parser (List α)} (h : Parallel I O (Listwise Same n) p q) : Parallel I O (Same n) p q :=
  h.mono (fun _ _ _ hrest => hrest) fun _ _ _ => Listwise.same

theorem Parallel.ite (c : Prop) [Decidable c] (h : Parallel I O S p q) (h' : Parallel I O S p' q') :
    Parallel I O S (if c then p else p') (if c then q else q') := by
  split
  · exact h
  · exact h'

theorem Outcome.orElse {s t : Text} (h : Outcome O S (p s) (q t)) (h' : Outcome O S (p' s) (q' t)) :
    Outcome O S ((p <|> p') s) ((q <|> q') t) := by
  simp only [orElse_apply, Parser.orElse]
  generalize p s = x at h ⊢
  generalize q t = y at h ⊢
  cases h with
  | ok hab hr => exact .ok hab hr
  | error hc =>
      simp only [hc]
      split
      · exact .error hc
      · exact h'

theorem Parallel.orElse (h : Parallel I O S p q) (h' : Parallel I O S p' q') :
    Parallel I O S (p <|> p') (q <|> q') :=
  fun s t hst => (h s t hst).orElse (h' s t hst)

theorem Parallel.commit (h : Parallel I O S p q) : Parallel I O S p.commit q.commit := by
  intro s t hst
  have hpq := h s t hst
  simp only [Parser.commit]
  generalize p s = x at hpq ⊢
  generalize q t = y at hpq ⊢
  cases hpq with
  | ok hab hr => exact .ok hab hr
  | error hc => exact .error rfl

theorem Parallel.expecting (h : Parallel I O S p q) (what : String) :
    Parallel I O S (p.expecting what) (q.expecting what) := by
  intro s t hst
  have hpq := h s t hst
  simp only [Parser.expecting]
  generalize p s = x at hpq ⊢
  generalize q t = y at hpq ⊢
  cases hpq with
  | ok hab hr => exact .ok hab hr
  | error hc => exact .error hc

theorem Parallel.optional {V : Option α → Option α → σ → Prop} (h : Parallel (O n) O S p q) (hnone : V none none n)
    (hsome : ∀ a b m, S a b m → V (some a) (some b) m) : Parallel (O n) O V p.optional q.optional := by
  intro s t hst
  have hpq := h s t hst
  simp only [Parser.optional]
  generalize p s = x at hpq ⊢
  generalize q t = y at hpq ⊢
  cases hpq with
  | ok hab hr => exact .ok (hsome _ _ _ hab) hr
  | error hc =>
      simp only [hc]
      split
      · exact .error hc
      · exact .ok hnone hst

theorem Parallel.optionalSame (h : Parallel (O n) O (Same n) p q) : Parallel (O n) O (Same n) p.optional q.optional :=
  h.optional ⟨rfl, rfl⟩ fun _ _ _ hab => ⟨congrArg some hab.1, hab.2⟩

end

/-! ## Repetitions -/

section

variable {O : σ → Text → Text → Prop} {R : σ → α → α → σ → Prop} {p : Parser α} {separator : Parser Unit}

theorem Parallel.many (hconsumes : Consumes p) (h : ∀ n, Parallel (O n) O (R n) p p) (n : σ) :
    Parallel (O n) O (Listwise R n) p.many p.many := by
  intro s t hst
  -- Each item takes a character, so the induction is on the length of the first text.
  induction hlength : s.length using Nat.strong_induction_on generalizing n s t with
  | _ length ih =>
      have hpq := h n s t hst
      cases hs : p s with
      | error f =>
          cases ht : p t with
          | ok out => rw [hs, ht] at hpq; cases hpq
          | error g =>
              rw [hs, ht] at hpq
              obtain hc : f.committed = g.committed := by cases hpq; assumption
              cases hf : f.committed with
              | true => rw [many_abort hs hf, many_abort ht (hc ▸ hf)]; exact .error hc
              | false => rw [many_stop hs hf, many_stop ht (hc ▸ hf)]; exact .ok .nil hst
      | ok out =>
          obtain ⟨a, r⟩ := out
          cases ht : p t with
          | error g => rw [hs, ht] at hpq; cases hpq
          | ok out' =>
              obtain ⟨b, u⟩ := out'
              rw [hs, ht] at hpq
              obtain ⟨m, hab, hru⟩ : ∃ m, R n a b m ∧ O m r u := by cases hpq; exact ⟨_, ‹_›, ‹_›⟩
              have hshort : r.length < length := by
                have := (hconsumes s r a hs).2
                omega
              have hrest := ih r.length hshort m r u hru rfl
              rw [hconsumes.many_step hs, hconsumes.many_step ht]
              simp only [Bind.bind]
              generalize p.many r = x at hrest ⊢
              generalize p.many u = y at hrest ⊢
              cases hrest with
              | ok hitems hend => exact .ok (.cons hab hitems) hend
              | error hc => exact .error hc

theorem Consumes.then (hseparator : Consumes separator) (hp : ∀ n, Tracks [] 0 n p p) :
    Consumes (do separator; p) :=
  Tracks.consumes fun _ => .bind hseparator.tracks fun _ => hp _

section

variable (hconsumes : Consumes separator) (htracks : ∀ n, Tracks [] 0 n p p) (hp : ∀ n, Parallel (O n) O (R n) p p)
  (hseparator : ∀ n : σ, Parallel (O n) O (Same n) separator separator)
include hconsumes htracks hp hseparator

theorem Parallel.separatedSome (n : σ) :
    Parallel (O n) O (Listwise R n) (p.separatedSome separator) (p.separatedSome separator) := by
  have hmany := Parallel.many (hconsumes.then htracks) fun n => (hseparator n).then fun _ => hp n
  exact (hp n).bind fun a b m hab => (hmany m).bind fun _ _ _ hitems => .pure (.cons hab hitems)

theorem Parallel.separated (n : σ) :
    Parallel (O n) O (Listwise R n) (p.separated separator) (p.separated separator) := by
  have hsome := Parallel.separatedSome hconsumes htracks hp hseparator n
  have hoption := hsome.optional (V := fun as? bs? m => Listwise R n (as?.getD []) (bs?.getD []) m) .nil
    fun _ _ _ hitems => hitems
  exact hoption.bind fun _ _ _ hitems => .pure hitems

theorem Parallel.chain {join : α → α → α}
    (hjoin : ∀ {k m n a b c d}, R k a b m → R m c d n → R k (join a c) (join b d) n) (n : σ) :
    Parallel (O n) O (R n) (p.chain separator join) (p.chain separator join) := by
  have hmany := Parallel.many (hconsumes.then fun n => (htracks n).commit) fun n =>
    (hseparator n).then fun _ => (hp n).commit
  have hfold {m k : σ} {as bs : List α} (hitems : Listwise R m as bs k) :
      ∀ {n a b}, R n a b m → R n (as.foldl join a) (bs.foldl join b) k := by
    induction hitems with
    | nil => exact fun hab => hab
    | cons hcd _ ih => exact fun hab => ih (hjoin hab hcd)
  exact (hp n).bind fun a b m hab => (hmany m).bind fun _ _ _ hitems => .pure (hfold hitems hab)

end

/-! ## Recursive parsers -/

theorem Guarded.tracks_nested {k : Nat} {layer : Parser α → Parser α} (h : Guarded [] k layer) (depth n : Nat) :
    Tracks [] k n (Parser.nested layer depth) (Parser.nested layer depth) := by
  induction depth generalizing n with
  | zero => exact .fail
  | succ depth ih =>
      cases n with
      | zero => exact fun s hs => absurd hs (Nat.not_lt_zero _)
      | succ n => exact h n _ _ (ih n)

theorem Guarded.nested_eq {k : Nat} {layer : Parser α → Parser α} (h : Guarded [] k layer) {depth : Nat} {s : Text}
    (hs : s.length < depth) : Parser.nested layer depth s = Parser.recursive layer s := by
  have htracks : Tracks [] k (s.length + 1) (Parser.nested layer depth) (Parser.nested layer (s.length + 1)) :=
    h.nested hs (Nat.le_refl _)
  have hfollows := htracks s (Nat.lt_succ_self _)
  rw [List.append_nil] at hfollows
  exact hfollows.eq

/-- A depth that is enough for both texts makes both recursions the same nesting. -/
theorem Parallel.recursive {k : Nat} {layer : Parser α → Parser α} (hguarded : Guarded [] k layer)
    (h : ∀ p, (∀ n, Tracks [] k n p p) → (∀ n, Parallel (O n) O (R n) p p) →
      ∀ n, Parallel (O n) O (R n) (layer p) (layer p)) (n : σ) :
    Parallel (O n) O (R n) (Parser.recursive layer) (Parser.recursive layer) := by
  have hnested (depth : Nat) : ∀ n, Parallel (O n) O (R n) (nested layer depth) (nested layer depth) := by
    induction depth with
    | zero => exact fun _ _ _ _ => .error rfl
    | succ depth ih => exact h _ (hguarded.tracks_nested depth) ih
  intro s t hst
  have hboth := hnested (max s.length t.length + 1) n s t hst
  rw [hguarded.nested_eq (by omega), hguarded.nested_eq (by omega)] at hboth
  exact hboth

end

end CompiledRules.Parser
