import CompiledRules.Value.Basic
import Mathlib

/-!
# Laws of comparison

Two values compare alike from both sides. Without floats, equal values are the same value, so that membership is that of
lists, and the strict order is transitive. Two integers, two booleans and two texts always have an order.
-/

namespace CompiledRules

theorem Double.compare?_swap (a b : Double) : b.compare? a = (a.compare? b).map Ordering.swap := by
  by_cases h : a = .nan ∨ b = .nan
  · rw [compare?, compare?, if_pos h.symm, if_pos h, Option.map_none]
  · rw [compare?, compare?, if_neg (h ∘ Or.symm), if_neg h, Option.map_some, Std.OrientedOrd.eq_swap]

namespace Value

variable {a b c : Value} {o : Ordering}

/-! ## Both sides -/

theorem map_swap_eq_some_eq {o : Option Ordering} : o.map Ordering.swap = some .eq ↔ o = some .eq := by
  cases o with
  | none => simp
  | some o => cases o <;> simp [Ordering.swap]

mutual

theorem order?_swap : (a b : Value) → order? b a = (order? a b).map Ordering.swap
  | .null, b => by cases b <;> rfl
  | .int m, b => by
      cases b with
      | int n => simp only [order?, Option.map_some, ← Std.OrientedOrd.eq_swap]
      | float y => exact Double.compare?_swap _ y
      | _ => rfl
  | .float x, b => by
      cases b with
      | int n => exact Double.compare?_swap x _
      | float y => exact Double.compare?_swap x y
      | _ => rfl
  | .bool p, b => by
      cases b with
      | bool q => simp only [order?, Option.map_some, ← Std.OrientedOrd.eq_swap]
      | _ => rfl
  | .string s, b => by
      cases b with
      | string t => simp only [order?, Option.map_some, ← Std.OrientedOrd.eq_swap]
      | _ => rfl
  | .list as, b => by
      cases b with
      | list bs =>
          rw [order?, order?, sameItems_comm as bs]
          split <;> rfl
      | _ => rfl

theorem sameItems_comm : (as bs : List Value) → sameItems bs as = sameItems as bs
  | [], [] => rfl
  | [], _ :: _ => rfl
  | _ :: _, [] => rfl
  | a :: as, b :: bs => by
      have hitem : (order? b a == some .eq) = (order? a b == some .eq) := by
        rw [order?_swap a b, Bool.eq_iff_iff, beq_iff_eq, beq_iff_eq, map_swap_eq_some_eq]
      rw [sameItems, sameItems, hitem, sameItems_comm as bs]

end

theorem map_comp_swap {f g : Ordering → Bool} (h : ∀ o, f o = g o.swap) (a b : Value) :
    (order? a b).map f = (order? b a).map g := by
  rw [order?_swap a b, Option.map_map]
  exact congrArg (fun f => (order? a b).map f) (funext h)

theorem compare?_eq_comm (a b : Value) : compare? .eq a b = compare? .eq b a :=
  map_comp_swap (fun o => by cases o <;> rfl) a b

theorem compare?_neq_comm (a b : Value) : compare? .neq a b = compare? .neq b a :=
  map_comp_swap (fun o => by cases o <;> rfl) a b

theorem compare?_gt_eq_lt (a b : Value) : compare? .gt a b = compare? .lt b a :=
  map_comp_swap (fun o => by cases o <;> rfl) a b

theorem compare?_gte_eq_lte (a b : Value) : compare? .gte a b = compare? .lte b a :=
  map_comp_swap (fun o => by cases o <;> rfl) a b

/-! ## Outcomes as orders -/

theorem compare?_eq_iff : compare? .eq a b = some true ↔ order? a b = some .eq := by simp [compare?]

theorem compare?_lt_iff : compare? .lt a b = some true ↔ order? a b = some .lt := by simp [compare?]

/-- Where there is an order, exactly one of the three comparisons holds. -/
theorem existsUnique_compare? (h : order? a b = some o) :
    ∃! op, op ∈ [CompareOp.lt, .eq, .gt] ∧ compare? op a b = some true := by
  cases o with
  | lt => exact ⟨.lt, by simp [compare?, h], by simp [compare?, h]⟩
  | eq => exact ⟨.eq, by simp [compare?, h], by simp [compare?, h]⟩
  | gt => exact ⟨.gt, by simp [compare?, h], by simp [compare?, h]⟩

/-- No value is less than itself: the opposite of its order with itself is that order. -/
theorem compare?_lt_self (a : Value) : compare? .lt a a ≠ some true := by
  intro h
  have hlt := compare?_lt_iff.1 h
  have hswap := order?_swap a a
  rw [hlt] at hswap
  cases hswap

/-! ## Values without floats -/

mutual

/-- There is no float in the value, at any depth. -/
def isFloatFree : Value → Bool
  | .float _ => false
  | .list items => areFloatFree items
  | _ => true

/-- There is no float in the values. -/
def areFloatFree : List Value → Bool
  | [] => true
  | v :: vs => isFloatFree v && areFloatFree vs

end

theorem areFloatFree_iff (vs : List Value) : areFloatFree vs = true ↔ ∀ v ∈ vs, v.isFloatFree = true := by
  induction vs with
  | nil => simp [areFloatFree]
  | cons v vs ih => simp [areFloatFree, ih]

mutual

theorem order?_eq_iff : (a b : Value) → a.isFloatFree = true → b.isFloatFree = true →
    (order? a b = some .eq ↔ a = b)
  | .float _, _, ha, _ => by cases ha
  | .null, b, _, _ => by cases b <;> simp [order?]
  | .int m, b, _, hb => by
      cases b with
      | float _ => cases hb
      | int n => simp [order?, Int64.toInt_inj]
      | _ => simp [order?]
  | .bool p, b, _, _ => by cases b <;> simp [order?]
  | .string s, b, _, _ => by cases b <;> simp [order?]
  | .list as, b, ha, hb => by
      cases b with
      | list bs => simp [order?, sameItems_iff as bs ha hb]
      | _ => simp [order?]

theorem sameItems_iff : (as bs : List Value) → areFloatFree as = true → areFloatFree bs = true →
    (sameItems as bs = true ↔ as = bs)
  | [], [], _, _ => by simp [sameItems]
  | [], _ :: _, _, _ => by simp [sameItems]
  | _ :: _, [], _, _ => by simp [sameItems]
  | a :: as, b :: bs, ha, hb => by
      simp only [areFloatFree, Bool.and_eq_true] at ha hb
      simp [sameItems, order?_eq_iff a b ha.1 hb.1, sameItems_iff as bs ha.2 hb.2]

end

/-- Without floats the membership of lists is asked. -/
theorem compare?_isIn {xs : List Value} (ha : a.isFloatFree = true) (hxs : areFloatFree xs = true) :
    (a ∈ xs → compare? .isIn a (.list xs) = some true) ∧ (a ∉ xs → compare? .isIn a (.list xs) = some false) := by
  have hitem (x : Value) (hx : x ∈ xs) : order? x a = some .eq ↔ x = a :=
    order?_eq_iff x a ((areFloatFree_iff xs).1 hxs x hx) ha
  constructor
  · intro hmem
    simp only [compare?, contains?, Option.some.injEq, List.any_eq_true, beq_iff_eq]
    exact ⟨a, hmem, (hitem a hmem).2 rfl⟩
  · intro hmem
    simp only [compare?, contains?, Option.some.injEq, List.any_eq_false, beq_iff_eq]
    intro x hx heq
    rw [(hitem x hx).1 heq] at hx
    exact hmem hx

/-- Only integers, booleans and texts are less than others. -/
theorem order?_eq_lt (ha : a.isFloatFree = true) (hb : b.isFloatFree = true) (h : order? a b = some .lt) :
    (∃ m n, a = .int m ∧ b = .int n ∧ compare m.toInt n.toInt = .lt) ∨
      (∃ p q, a = .bool p ∧ b = .bool q ∧ compare p q = .lt) ∨
      ∃ s t, a = .string s ∧ b = .string t ∧ compare s t = .lt := by
  cases a with
  | float _ => cases ha
  | null => cases b <;> cases h
  | int m =>
      cases b with
      | float _ => cases hb
      | int n => exact .inl ⟨m, n, rfl, rfl, Option.some.inj h⟩
      | _ => cases h
  | bool p =>
      cases b with
      | bool q => exact .inr (.inl ⟨p, q, rfl, rfl, Option.some.inj h⟩)
      | _ => cases h
  | string s =>
      cases b with
      | string t => exact .inr (.inr ⟨s, t, rfl, rfl, Option.some.inj h⟩)
      | _ => cases h
  | list as =>
      cases b with
      | list bs =>
          rw [order?] at h
          split at h <;> cases h
      | _ => cases h

theorem compare?_lt_trans (ha : a.isFloatFree = true) (hb : b.isFloatFree = true) (hc : c.isFloatFree = true)
    (hab : compare? .lt a b = some true) (hbc : compare? .lt b c = some true) : compare? .lt a c = some true := by
  rw [compare?_lt_iff] at hab hbc ⊢
  rcases order?_eq_lt ha hb hab with ⟨m, n, rfl, rfl, hlt⟩ | ⟨p, q, rfl, rfl, hlt⟩ | ⟨s, t, rfl, rfl, hlt⟩
  · rcases order?_eq_lt hb hc hbc with ⟨_, k, ⟨⟩, rfl, hlt'⟩ | ⟨_, _, ⟨⟩, -⟩ | ⟨_, _, ⟨⟩, -⟩
    exact congrArg some (Std.TransCmp.lt_trans hlt hlt')
  · rcases order?_eq_lt hb hc hbc with ⟨_, _, ⟨⟩, -⟩ | ⟨_, r, ⟨⟩, rfl, hlt'⟩ | ⟨_, _, ⟨⟩, -⟩
    exact congrArg some (Std.TransCmp.lt_trans hlt hlt')
  · rcases order?_eq_lt hb hc hbc with ⟨_, _, ⟨⟩, -⟩ | ⟨_, _, ⟨⟩, -⟩ | ⟨_, u, ⟨⟩, rfl, hlt'⟩
    exact congrArg some (Std.TransCmp.lt_trans hlt hlt')

/-! ## The laws together -/

/-- Comparison is the same from both sides. Without floats, what is equal is the same value, `in` asks for the membership
of the list, and less-than is a strict order, which is total on integers, on booleans and on texts. -/
theorem compare?_laws :
    (∀ a b, compare? .eq a b = compare? .eq b a ∧ compare? .neq a b = compare? .neq b a ∧
      compare? .gt a b = compare? .lt b a ∧ compare? .gte a b = compare? .lte b a) ∧
    (∀ a b : Value, a.isFloatFree = true → b.isFloatFree = true → (compare? .eq a b = some true ↔ a = b)) ∧
    (∀ (a : Value) (xs : List Value), a.isFloatFree = true → areFloatFree xs = true →
      (a ∈ xs → compare? .isIn a (.list xs) = some true) ∧ (a ∉ xs → compare? .isIn a (.list xs) = some false)) ∧
    (∀ a, compare? .lt a a ≠ some true) ∧
    (∀ a b c : Value, a.isFloatFree = true → b.isFloatFree = true → c.isFloatFree = true →
      compare? .lt a b = some true → compare? .lt b c = some true → compare? .lt a c = some true) ∧
    (∀ m n : Int64, ∃! op, op ∈ [CompareOp.lt, .eq, .gt] ∧ compare? op (.int m) (.int n) = some true) ∧
    (∀ p q : Bool, ∃! op, op ∈ [CompareOp.lt, .eq, .gt] ∧ compare? op (.bool p) (.bool q) = some true) ∧
    (∀ s t : String, ∃! op, op ∈ [CompareOp.lt, .eq, .gt] ∧ compare? op (.string s) (.string t) = some true) := by
  refine ⟨fun a b => ?_, fun a b ha hb => ?_, fun a xs => compare?_isIn, compare?_lt_self, fun a b c => compare?_lt_trans,
    fun m n => existsUnique_compare? rfl, fun p q => existsUnique_compare? rfl, fun s t => existsUnique_compare? rfl⟩
  · exact ⟨compare?_eq_comm a b, compare?_neq_comm a b, compare?_gt_eq_lt a b, compare?_gte_eq_lte a b⟩
  · rw [compare?_eq_iff, order?_eq_iff a b ha hb]

/-- A list with a list in it, in which texts and booleans stand beside integers. -/
def nestedItems : List Value := [.null, .list [.int 1, .list [.string "x", .bool true]], .string "x"]

theorem compare?_laws_nestedItems :
    areFloatFree nestedItems = true ∧
      compare? .isIn (.list [.int 1, .list [.string "x", .bool true]]) (.list nestedItems) = some true ∧
      compare? .isIn (.list [.int 1, .list [.string "x"]]) (.list nestedItems) = some false ∧
      compare? .eq (.list nestedItems) (.list nestedItems) = some true ∧
      compare? .lt (.string "B") (.string "é") = some true := by
  have hfree : areFloatFree nestedItems = true := by decide
  obtain ⟨-, heq, hin, -, htrans, -⟩ := compare?_laws
  refine ⟨hfree, (hin _ _ (by decide) hfree).1 ?_, (hin _ _ (by decide) hfree).2 ?_, ?_, ?_⟩
  · simp [nestedItems]
  · simp [nestedItems]
  · exact (heq (.list nestedItems) (.list nestedItems) hfree hfree).2 rfl
  · exact htrans (.string "B") (.string "a") (.string "é") rfl rfl rfl (by decide) (by decide)

end Value

end CompiledRules
