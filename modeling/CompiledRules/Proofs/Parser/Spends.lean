import CompiledRules.Proofs.Parser.Yields
import Mathlib

/-!
# What parsers spend

A cost of what a parser reads is covered if it is no more than the characters that were taken. Costs that add up are
covered by a sequence if they are covered by its parts: what the first part leaves over is a credit for the second.
-/

namespace CompiledRules.Parser

variable {α β : Type} {cost : α → Nat} {credit : Nat} {p q : Parser α}

/-- Whatever the parser reads costs no more than the characters that it takes, and the credit. -/
def Spends (credit : Nat) (cost : α → Nat) (p : Parser α) : Prop :=
  ∀ s a r, p s = .ok (a, r) → cost a + r.length ≤ s.length + credit

theorem Spends.of_tracks {k : Nat} (h : ∀ n, Tracks [] k n p p) : Spends 0 (fun _ => k) p := by
  intro s a r ha
  have hfollows := h (s.length + 1) s (Nat.lt_succ_self _)
  rw [ha] at hfollows
  rw [Nat.add_comm]
  exact hfollows.leaves.2

theorem Spends.mono {cost' : α → Nat} {credit' : Nat} (h : Spends credit cost p)
    (hle : ∀ a, cost' a + credit ≤ cost a + credit') : Spends credit' cost' p := by
  intro s a r ha
  have := h s a r ha
  have := hle a
  omega

/-- What is there before is there after. -/
theorem Spends.frame (h : Spends 0 cost p) (credit : Nat) : Spends credit (fun a => credit + cost a) p :=
  h.mono fun a => by omega

/-- A parser whose result costs nothing. -/
theorem Spends.free {k : Nat} (h : ∀ n, Tracks [] k n p p) (credit : Nat) : Spends credit (fun _ => credit) p :=
  (Spends.of_tracks h).mono fun _ => by omega

theorem Spends.pure {a : α} (h : cost a ≤ credit) : Spends credit cost (pure a) := by
  intro s b r hb
  obtain ⟨rfl, rfl⟩ := pure_eq_ok.1 hb
  omega

theorem Spends.bind {f : α → Parser β} {cost' : β → Nat} (hp : Spends credit cost p)
    (hf : ∀ a, Spends (cost a) cost' (f a)) : Spends credit cost' (p >>= f) := by
  intro s b u h
  obtain ⟨a, r, ha, hb⟩ := bind_eq_ok.1 h
  have := hp s a r ha
  have := hf a r b u hb
  omega

theorem Spends.orElse (hp : Spends credit cost p) (hq : Spends credit cost q) : Spends credit cost (p <|> q) := by
  intro s a r h
  rcases orElse_eq_ok.1 h with h | ⟨-, h⟩
  · exact hp s a r h
  · exact hq s a r h

theorem Spends.commit (h : Spends credit cost p) : Spends credit cost p.commit :=
  fun s a r ha => h s a r (commit_eq_ok.1 ha)

theorem Spends.expecting (h : Spends credit cost p) (what : String) : Spends credit cost (p.expecting what) :=
  fun s a r ha => h s a r (expecting_eq_ok.1 ha)

theorem Spends.optional (h : Spends 0 cost p) : Spends 0 (fun a? => (a?.map cost).getD 0) p.optional := by
  intro s a? r ha
  rcases optional_eq_ok ha with ⟨a, rfl, hsome⟩ | ⟨rfl, rfl, -⟩
  · exact h s a r hsome
  · simp

theorem Spends.many (h : Spends 0 cost p) : Spends 0 (fun as => (as.map cost).sum) p.many := by
  have hrepeated (count : Nat) : Spends 0 (fun as => (as.map cost).sum) (repeated p count) := by
    induction count with
    | zero =>
        rintro s as r ⟨⟩
        simp
    | succ count ih =>
        intro s as r hs
        rw [repeated] at hs
        split at hs
        · split at hs
          · cases hs
          · cases hs
            simp
        · rename_i a u ha
          split at hs
          · rename_i as' u' has
            cases hs
            have hitem := h s a u ha
            have hitems := ih u as' _ has
            simp only [List.map_cons, List.sum_cons] at hitems ⊢
            omega
          · cases hs
  exact fun s => hrepeated (s.length + 1) s

section

variable {separator : Parser Unit} (hseparator : ∀ n, Tracks [] 1 n separator separator)
include hseparator

theorem Spends.separatedSome (h : Spends 0 cost p) :
    Spends 0 (fun as => (as.map cost).sum) (p.separatedSome separator) := by
  refine h.bind fun first => ?_
  have hothers := Spends.many ((Spends.free hseparator 0).bind fun _ => h)
  refine (hothers.frame (cost first)).bind fun others => .pure ?_
  rw [List.map_cons, List.sum_cons]

theorem Spends.separated (h : Spends 0 cost p) : Spends 0 (fun as => (as.map cost).sum) (p.separated separator) := by
  refine (h.separatedSome hseparator).optional.bind fun as? => .pure ?_
  cases as? <;> simp

theorem Spends.chain (h : Spends 0 cost p) {join : α → α → α} (hjoin : ∀ a b, cost (join a b) = cost a + cost b) :
    Spends 0 cost (p.chain separator join) := by
  have hfold (others : List α) (first : α) :
      cost (others.foldl join first) = cost first + (others.map cost).sum := by
    induction others generalizing first with
    | nil => simp
    | cons next others ih =>
        rw [List.foldl_cons, ih, hjoin, List.map_cons, List.sum_cons]
        omega
  refine h.bind fun first => ?_
  have hothers := Spends.many ((Spends.free hseparator 0).bind fun _ => h.commit)
  refine (hothers.frame (cost first)).bind fun others => .pure ?_
  rw [hfold]

end

theorem Spends.recursive {layer : Parser α → Parser α} (h : ∀ p, Spends 0 cost p → Spends 0 cost (layer p)) :
    Spends 0 cost (Parser.recursive layer) := by
  have hnested (depth : Nat) : Spends 0 cost (nested layer depth) := by
    induction depth with
    | zero => rintro s a r ⟨⟩
    | succ depth ih => exact h _ ih
  exact fun s => hnested (s.length + 1) s

end CompiledRules.Parser
