/-!
# Lists with one place changed

Looking up and counting in a list of which one place is set or modified, or that has one place more.
-/

namespace List

variable {α : Type} {l : List α} {m n : Nat} {a b : α}

/-! ## Looking up -/

theorem getElem?_set_cases (h : (l.set n a)[m]? = some b) : m = n ∧ b = a ∨ m ≠ n ∧ l[m]? = some b := by
  rw [getElem?_set] at h
  grind

theorem getElem?_set_same (h : l[n]? = some a) (b : α) : (l.set n b)[n]? = some b :=
  getElem?_set_self (getElem?_eq_some_iff.mp h).1

theorem getElem?_concat_cases (h : (l ++ [a])[m]? = some b) : l[m]? = some b ∨ b = a := by
  grind

theorem getElem?_concat_of (h : l[m]? = some b) : (l ++ [a])[m]? = some b :=
  (getElem?_append_left (getElem?_eq_some_iff.mp h).1).trans h

/-! ## Changing nothing, or the last place -/

theorem set_of_getElem? (h : l[n]? = some a) : l.set n a = l := by
  obtain ⟨hlt, rfl⟩ := getElem?_eq_some_iff.mp h
  exact set_getElem_self hlt

theorem modify_of_getElem? (h : l[n]? = some a) (f : α → α) : l.modify n f = l.set n (f a) := by
  have : Inhabited α := ⟨a⟩
  rw [modify_eq_set, h, Option.getD_some]

theorem modify_of_fixed {f : α → α} (h : l[n]? = some a) (hf : f a = a) : l.modify n f = l := by
  rw [modify_of_getElem? h, hf, set_of_getElem? h]

theorem modify_concat (l : List α) (a : α) (f : α → α) : (l ++ [a]).modify l.length f = l ++ [f a] := by
  induction l with
  | nil => rfl
  | cons b l ih => simp [modify_succ_cons, ih]

/-! ## Counting -/

variable {p : α → Bool}

theorem two_le_countP (hmn : m ≠ n) (hm : l[m]? = some a) (hn : l[n]? = some b) (ha : p a = true) (hb : p b = true) :
    2 ≤ l.countP p := by
  induction l generalizing m n with
  | nil => cases hm
  | cons x l ih =>
      have hmem {k : Nat} {c : α} (hk : l[k]? = some c) (hc : p c = true) : 0 < l.countP p :=
        countP_pos_iff.mpr ⟨c, mem_of_getElem? hk, hc⟩
      cases m with
      | zero =>
          cases hm
          cases n with
          | zero => exact absurd rfl hmn
          | succ n =>
              have := hmem hn hb
              rw [countP_cons_of_pos ha]
              omega
      | succ m =>
          cases n with
          | zero =>
              cases hn
              have := hmem hm ha
              rw [countP_cons_of_pos hb]
              omega
          | succ n =>
              have := ih (fun h => hmn (congrArg (· + 1) h)) hm hn
              rw [countP_cons]
              omega

theorem countP_set_add (p : α → Bool) (h : l[n]? = some a) (b : α) :
    (l.set n b).countP p + (p a).toNat = l.countP p + (p b).toNat := by
  obtain ⟨hlt, rfl⟩ := getElem?_eq_some_iff.mp h
  have hpos : p l[n] = true → 0 < l.countP p := fun hp => countP_pos_iff.mpr ⟨_, getElem_mem hlt, hp⟩
  rw [countP_set hlt]
  cases hp : p l[n] with
  | false => cases p b <;> simp
  | true =>
      have := hpos hp
      cases p b <;> simp <;> omega

theorem countP_modify_add (p : α → Bool) (h : l[n]? = some a) (f : α → α) :
    (l.modify n f).countP p + (p a).toNat = l.countP p + (p (f a)).toNat := by
  rw [modify_of_getElem? h]
  exact countP_set_add p h (f a)

end List
