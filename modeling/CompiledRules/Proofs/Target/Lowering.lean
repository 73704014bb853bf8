import CompiledRules.Expr.Meaning
import CompiledRules.Proofs.Except
import CompiledRules.Proofs.Expr.Parts
import CompiledRules.Proofs.Node.Printer
import CompiledRules.Proofs.Table
import CompiledRules.Target.Array
import Mathlib

/-!
# What lowering does

`Lowers` relates an expression to the body that it becomes, with the list literals met before and after. From it follow
the shape of the body, the constants that it reads, and its value.
-/

namespace CompiledRules

/-- Whether the value is a list. -/
def Value.isList : Value → Bool
  | .list _ => true
  | _ => false

/-- The list literals of an expression, from left to right. -/
def Expr.lists (e : Expr) : List Value := e.literals.filter Value.isList

namespace ArrayTarget

theorem of_testsNull {strict : Bool} {op : CompareOp} {operand : Expr} (h : testsNull strict op operand = true) :
    (op = .eq ∨ op = .neq) ∧ operand = .literal .null := by
  unfold testsNull at h
  split at h
  · simp only [Bool.and_eq_true, Bool.or_eq_true, decide_eq_true_eq] at h
    exact ⟨h.2, rfl⟩
  · cases h

mutual

/-- The expression becomes the body, and the lists grow from `lists` to `lists'`. -/
inductive Lowers (strict : Bool) : Expr → List Value → Node → List Value → Prop where
  | list {items lists} :
      Lowers strict (.literal (.list items)) lists (.this (listName lists.length)) (lists ++ [.list items])
  | literal {value lists} : value.isList = false → value.isFinite = true →
      Lowers strict (.literal value) lists (.literal value) lists
  | field {path lists} : Lowers strict (.field path) lists (.target (Text.segments path)) lists
  | parameter {p lists} : Lowers strict (.parameter p) lists (.parameter p) lists
  | call {name args lists nodes lists'} :
      LowersAll strict args lists nodes lists' → Lowers strict (.call name args) lists (.call name nodes) lists'
  | nullLeft {op left right lists node lists'} : testsNull strict op left = true →
      Lowers strict right lists node lists' → Lowers strict (.compare op left right) lists (nullTest op node) lists'
  | nullRight {op left right lists node lists'} : testsNull strict op left = false →
      testsNull strict op right = true → Lowers strict left lists node lists' →
      Lowers strict (.compare op left right) lists (nullTest op node) lists'
  | compare {op left right lists l lists' r lists''} : testsNull strict op left = false →
      testsNull strict op right = false → (∀ symbol, op ≠ .custom symbol) → Lowers strict left lists l lists' →
      Lowers strict right lists' r lists'' → Lowers strict (.compare op left right) lists (compareNode op l r) lists''
  | and {left right lists l lists' r lists''} : Lowers strict left lists l lists' →
      Lowers strict right lists' r lists'' → Lowers strict (.and left right) lists (.and l r) lists''
  | or {left right lists l lists' r lists''} : Lowers strict left lists l lists' →
      Lowers strict right lists' r lists'' → Lowers strict (.or left right) lists (.or l r) lists''
  | xor {left right lists l lists' r lists''} : Lowers strict left lists l lists' →
      Lowers strict right lists' r lists'' → Lowers strict (.xor left right) lists (.xor l r) lists''
  | not {operand lists node lists'} :
      Lowers strict operand lists node lists' → Lowers strict (.not operand) lists (.not node) lists'

/-- The expressions become the bodies, one after the other. -/
inductive LowersAll (strict : Bool) : List Expr → List Value → List Node → List Value → Prop where
  | nil {lists} : LowersAll strict [] lists [] lists
  | cons {e es lists node lists' nodes lists''} : Lowers strict e lists node lists' →
      LowersAll strict es lists' nodes lists'' → LowersAll strict (e :: es) lists (node :: nodes) lists''

end

variable {operators : List String} {strict : Bool}

theorem literalNode_eq_ok {value : Value} {node : Node} :
    literalNode value = .ok node ↔ value.isFinite = true ∧ node = .literal value := by
  unfold literalNode
  split
  · rename_i h
    simp [h, eq_comm]
  · rename_i h
    simp [h]

theorem lowers_literal {value : Value} {lists lists' : List Value} {node : Node}
    (h : lower operators strict (.literal value) lists = .ok (node, lists')) :
    Lowers strict (.literal value) lists node lists' := by
  have hother (hlist : value.isList = false) : (do return (← literalNode value, lists)) = Except.ok (node, lists') →
      Lowers strict (.literal value) lists node lists' := by
    intro h
    obtain ⟨_, hnode, h⟩ := Except.bind_eq_ok_iff.mp h
    obtain ⟨hfinite, rfl⟩ := literalNode_eq_ok.mp hnode
    cases h
    exact .literal hlist hfinite
  cases value with
  | list items =>
      cases h
      exact .list
  | _ => exact hother rfl h

mutual

theorem lowers_of_lower : (e : Expr) → {lists lists' : List Value} → {node : Node} →
    lower operators strict e lists = .ok (node, lists') → Lowers strict e lists node lists'
  | .literal value, _, _, _, h => lowers_literal h
  | .field path, _, _, _, h => by
      rw [lower] at h
      cases h
      exact .field
  | .parameter p, _, _, _, h => by
      rw [lower] at h
      cases h
      exact .parameter
  | .call name args, _, _, _, h => by
      rw [lower] at h
      split at h
      · obtain ⟨_, hargs, h⟩ := Except.bind_eq_ok_iff.mp h
        cases h
        exact .call (lowersAll_of_lowerAll args hargs)
      · cases h
  | .compare op left right, _, _, _, h => by
      unfold lower at h
      split at h
      · rename_i hleft
        obtain ⟨_, hnode, h⟩ := Except.bind_eq_ok_iff.mp h
        cases h
        exact .nullLeft hleft (lowers_of_lower right hnode)
      · rename_i hleft
        split at h
        · rename_i hright
          obtain ⟨_, hnode, h⟩ := Except.bind_eq_ok_iff.mp h
          cases h
          exact .nullRight (Bool.eq_false_iff.mpr hleft) hright (lowers_of_lower left hnode)
        · rename_i hright
          split at h
          · cases h
          · rename_i hcustom
            obtain ⟨_, hl, h⟩ := Except.bind_eq_ok_iff.mp h
            obtain ⟨_, hr, h⟩ := Except.bind_eq_ok_iff.mp h
            cases h
            exact .compare (Bool.eq_false_iff.mpr hleft) (Bool.eq_false_iff.mpr hright) hcustom
              (lowers_of_lower left hl) (lowers_of_lower right hr)
  | .and left right, _, _, _, h => by
      rw [lower] at h
      obtain ⟨_, hl, h⟩ := Except.bind_eq_ok_iff.mp h
      obtain ⟨_, hr, h⟩ := Except.bind_eq_ok_iff.mp h
      cases h
      exact .and (lowers_of_lower left hl) (lowers_of_lower right hr)
  | .or left right, _, _, _, h => by
      rw [lower] at h
      obtain ⟨_, hl, h⟩ := Except.bind_eq_ok_iff.mp h
      obtain ⟨_, hr, h⟩ := Except.bind_eq_ok_iff.mp h
      cases h
      exact .or (lowers_of_lower left hl) (lowers_of_lower right hr)
  | .xor left right, _, _, _, h => by
      rw [lower] at h
      obtain ⟨_, hl, h⟩ := Except.bind_eq_ok_iff.mp h
      obtain ⟨_, hr, h⟩ := Except.bind_eq_ok_iff.mp h
      cases h
      exact .xor (lowers_of_lower left hl) (lowers_of_lower right hr)
  | .not operand, _, _, _, h => by
      rw [lower] at h
      obtain ⟨_, hnode, h⟩ := Except.bind_eq_ok_iff.mp h
      cases h
      exact .not (lowers_of_lower operand hnode)

theorem lowersAll_of_lowerAll : (es : List Expr) → {lists lists' : List Value} → {nodes : List Node} →
    lowerAll operators strict es lists = .ok (nodes, lists') → LowersAll strict es lists nodes lists'
  | [], _, _, _, h => by
      rw [lowerAll] at h
      cases h
      exact .nil
  | e :: es, _, _, _, h => by
      rw [lowerAll] at h
      obtain ⟨_, hnode, h⟩ := Except.bind_eq_ok_iff.mp h
      obtain ⟨_, hnodes, h⟩ := Except.bind_eq_ok_iff.mp h
      cases h
      exact .cons (lowers_of_lower e hnode) (lowersAll_of_lowerAll es hnodes)

end

/-! ## Lists -/

/-- An operand that a null test leaves out holds no list. -/
theorem lists_of_testsNull {op : CompareOp} {operand : Expr} (h : testsNull strict op operand = true) :
    operand.lists = [] := by
  obtain ⟨-, rfl⟩ := of_testsNull h
  rfl

theorem lists_literal {value : Value} (h : value.isList = false) : (Expr.literal value).lists = [] :=
  List.filter_singleton.trans (by rw [h]; rfl)

section

variable (op : CompareOp) (left right : Expr)

theorem lists_compare : (Expr.compare op left right).lists = left.lists ++ right.lists := List.filter_append ..

theorem lists_and : (Expr.and left right).lists = left.lists ++ right.lists := List.filter_append ..

theorem lists_or : (Expr.or left right).lists = left.lists ++ right.lists := List.filter_append ..

theorem lists_xor : (Expr.xor left right).lists = left.lists ++ right.lists := List.filter_append ..

end

mutual

/-- The lists grow by all list literals of the expression, in their order. -/
theorem Lowers.lists_eq : {e : Expr} → {lists lists' : List Value} → {node : Node} →
    Lowers strict e lists node lists' → lists' = lists ++ e.lists
  | _, _, _, _, .list => rfl
  | _, _, _, _, .literal hlist _ => by rw [lists_literal hlist, List.append_nil]
  | _, _, _, _, .field => (List.append_nil _).symm
  | _, _, _, _, .parameter => (List.append_nil _).symm
  | _, _, _, _, .call h => h.lists_eq
  | _, _, _, _, .nullLeft hleft h => by rw [lists_compare, lists_of_testsNull hleft, List.nil_append, h.lists_eq]
  | _, _, _, _, .nullRight _ hright h => by rw [lists_compare, lists_of_testsNull hright, List.append_nil, h.lists_eq]
  | _, _, _, _, .compare _ _ _ hl hr => by rw [lists_compare, hr.lists_eq, hl.lists_eq, List.append_assoc]
  | _, _, _, _, .and hl hr => by rw [lists_and, hr.lists_eq, hl.lists_eq, List.append_assoc]
  | _, _, _, _, .or hl hr => by rw [lists_or, hr.lists_eq, hl.lists_eq, List.append_assoc]
  | _, _, _, _, .xor hl hr => by rw [lists_xor, hr.lists_eq, hl.lists_eq, List.append_assoc]
  | _, _, _, _, .not h => h.lists_eq

theorem LowersAll.lists_eq : {es : List Expr} → {lists lists' : List Value} → {nodes : List Node} →
    LowersAll strict es lists nodes lists' → lists' = lists ++ (Expr.literalsAll es).filter Value.isList
  | _, _, _, _, .nil => (List.append_nil _).symm
  | _, _, _, _, .cons h hs => by
      rw [Expr.literalsAll, List.filter_append, hs.lists_eq, h.lists_eq, List.append_assoc, Expr.lists]

end

/-- The lists grow by list literals from among the given ones. -/
def Adds (literals lists lists' : List Value) : Prop :=
  ∃ added, lists' = lists ++ added ∧ ∀ v ∈ added, v ∈ literals ∧ ∃ items, v = .list items

theorem Adds.length_le {literals lists lists' : List Value} (h : Adds literals lists lists') :
    lists.length ≤ lists'.length := by
  obtain ⟨added, rfl, -⟩ := h
  simp

theorem Adds.getElem? {literals lists lists' : List Value} (h : Adds literals lists lists') {i : Nat} {v : Value}
    (hi : lists[i]? = some v) : lists'[i]? = some v := by
  obtain ⟨added, rfl, -⟩ := h
  rw [List.getElem?_append_left (List.getElem?_eq_some_iff.mp hi).1, hi]

theorem adds_filter (literals lists : List Value) : Adds literals lists (lists ++ literals.filter Value.isList) := by
  refine ⟨_, rfl, fun v hv => ?_⟩
  obtain ⟨hmem, hlist⟩ := List.mem_filter.mp hv
  cases v with
  | list items => exact ⟨hmem, items, rfl⟩
  | _ => cases hlist

theorem Lowers.adds {e : Expr} {lists lists' : List Value} {node : Node} (h : Lowers strict e lists node lists') :
    Adds e.literals lists lists' := by
  rw [h.lists_eq]
  exact adds_filter _ _

theorem LowersAll.adds {es : List Expr} {lists lists' : List Value} {nodes : List Node}
    (h : LowersAll strict es lists nodes lists') : Adds (Expr.literalsAll es) lists lists' := by
  rw [h.lists_eq]
  exact adds_filter _ _

/-! ## Constants -/

/-- Every name is that of a list. -/
def NamesOf (lists : List Value) (names : List String) : Prop := ∀ name ∈ names, ∃ i < lists.length, name = listName i

theorem NamesOf.mono {literals lists lists' : List Value} {names : List String} (h : NamesOf lists names)
    (hadds : Adds literals lists lists') : NamesOf lists' names := fun name hname => by
  obtain ⟨i, hi, rfl⟩ := h name hname
  exact ⟨i, Nat.lt_of_lt_of_le hi hadds.length_le, rfl⟩

theorem NamesOf.append {literals lists lists' : List Value} {names names' : List String} (h : NamesOf lists names)
    (hadds : Adds literals lists lists') (h' : NamesOf lists' names') : NamesOf lists' (names ++ names') :=
  List.forall_mem_append.mpr ⟨h.mono hadds, h'⟩

theorem constants_nullTest (op : CompareOp) (node : Node) : (nullTest op node).constants = node.constants := by
  unfold nullTest
  split <;> simp [Node.constants, Node.constantsAll]

theorem constants_compareNode (op : CompareOp) (l r : Node) :
    (compareNode op l r).constants = l.constants ++ r.constants := by
  unfold compareNode
  split <;> simp [Node.constants, Node.constantsAll]

mutual

/-- A body reads the constants of the lists only. -/
theorem Lowers.constants : {e : Expr} → {lists lists' : List Value} → {node : Node} →
    Lowers strict e lists node lists' → NamesOf lists' node.constants
  | _, lists, _, _, .list => by simpa [NamesOf, Node.constants] using ⟨lists.length, by simp, rfl⟩
  | _, _, _, _, .literal _ _ => nofun
  | _, _, _, _, .field => nofun
  | _, _, _, _, .parameter => nofun
  | _, _, _, _, .call h => h.constants
  | _, _, _, _, .nullLeft _ h => by rw [constants_nullTest]; exact h.constants
  | _, _, _, _, .nullRight _ _ h => by rw [constants_nullTest]; exact h.constants
  | _, _, _, _, .compare _ _ _ hl hr => by rw [constants_compareNode]; exact hl.constants.append hr.adds hr.constants
  | _, _, _, _, .and hl hr => hl.constants.append hr.adds hr.constants
  | _, _, _, _, .or hl hr => hl.constants.append hr.adds hr.constants
  | _, _, _, _, .xor hl hr => hl.constants.append hr.adds hr.constants
  | _, _, _, _, .not h => h.constants

theorem LowersAll.constants : {es : List Expr} → {lists lists' : List Value} → {nodes : List Node} →
    LowersAll strict es lists nodes lists' → NamesOf lists' (Node.constantsAll nodes)
  | _, _, _, _, .nil => nofun
  | _, _, _, _, .cons h hs => h.constants.append hs.adds hs.constants

end

/-! ## Shape -/

theorem toList_listName (i : Nat) : (listName i).toList = "list_".toList ++ Text.decimal i := by
  simp [listName]

theorem isWord_listName (i : Nat) : Text.isWord (listName i).toList = true := by
  have hstart : "list_".toList = 'l' :: "ist_".toList := rfl
  rw [toList_listName, hstart, List.cons_append, Text.isWord, List.all_append, Bool.and_eq_true, Bool.and_eq_true]
  refine ⟨by decide, by decide, List.all_eq_true.mpr fun c hc => ?_⟩
  exact Parser.isWordChar_of_isDigit ((Text.isDigits_decimal i).2 c hc)

theorem listName_injective {i j : Nat} (h : listName i = listName j) : i = j := by
  have hlists := congrArg String.toList h
  rw [toList_listName, toList_listName, List.append_cancel_left_eq] at hlists
  rw [← Text.decimalValue_decimal i, hlists, Text.decimalValue_decimal]

theorem wellFormed_nullTest (op : CompareOp) {node : Node} (h : node.WellFormed) : (nullTest op node).WellFormed := by
  unfold nullTest
  split <;> exact ⟨h, trivial⟩

theorem wellFormed_compareNode {op : CompareOp} (hop : ∀ symbol, op ≠ .custom symbol) {l r : Node} (hl : l.WellFormed)
    (hr : r.WellFormed) : (compareNode op l r).WellFormed := by
  unfold compareNode
  split
  · exact ⟨hl, hr, trivial⟩
  · rename_i hlike
    refine ⟨?_, hl, hr⟩
    cases op with
    | like => exact hlike rfl
    | custom symbol => exact hop symbol rfl
    | _ => trivial

mutual

theorem Lowers.wellFormed : {e : Expr} → {lists lists' : List Value} → {node : Node} →
    Lowers strict e lists node lists' → (∀ p ∈ e.parameters, p.InRange) → node.WellFormed
  | _, _, _, _, .list, _ => isWord_listName _
  | _, _, _, _, .literal _ h, _ => h
  | _, _, _, _, .field, _ => Text.segments_ne_nil _
  | _, _, _, _, .parameter, hp => hp _ List.mem_cons_self
  | _, _, _, _, .call h, hp => h.wellFormed hp
  | _, _, _, _, .nullLeft _ h, hp => wellFormed_nullTest _ (h.wellFormed (List.forall_mem_append.mp hp).2)
  | _, _, _, _, .nullRight _ _ h, hp => wellFormed_nullTest _ (h.wellFormed (List.forall_mem_append.mp hp).1)
  | _, _, _, _, .compare _ _ hop hl hr, hp =>
      wellFormed_compareNode hop (hl.wellFormed (List.forall_mem_append.mp hp).1)
        (hr.wellFormed (List.forall_mem_append.mp hp).2)
  | _, _, _, _, .and hl hr, hp =>
      ⟨hl.wellFormed (List.forall_mem_append.mp hp).1, hr.wellFormed (List.forall_mem_append.mp hp).2⟩
  | _, _, _, _, .or hl hr, hp =>
      ⟨hl.wellFormed (List.forall_mem_append.mp hp).1, hr.wellFormed (List.forall_mem_append.mp hp).2⟩
  | _, _, _, _, .xor hl hr, hp =>
      ⟨hl.wellFormed (List.forall_mem_append.mp hp).1, hr.wellFormed (List.forall_mem_append.mp hp).2⟩
  | _, _, _, _, .not h, hp => h.wellFormed hp

theorem LowersAll.wellFormed : {es : List Expr} → {lists lists' : List Value} → {nodes : List Node} →
    LowersAll strict es lists nodes lists' → (∀ p ∈ Expr.parametersAll es, p.InRange) → Node.WellFormedAll nodes
  | _, _, _, _, .nil, _ => trivial
  | _, _, _, _, .cons h hs, hp =>
      ⟨h.wellFormed (List.forall_mem_append.mp hp).1, hs.wellFormed (List.forall_mem_append.mp hp).2⟩

end

/-! ## Value -/

/-- The table keeps every list under its name. -/
def Keeps (data : Table Value) (lists : List Value) : Prop :=
  ∀ i v, lists[i]? = some v → data.find? (listName i) = some v

theorem Keeps.of_adds {data : Table Value} {literals lists lists' : List Value} (h : Keeps data lists')
    (hadds : Adds literals lists lists') : Keeps data lists :=
  fun i v hi => h i v (hadds.getElem? hi)

variable {env : Environment} {data : Table Value}

theorem truth_eq (v : Value) : v.truth = Expr.truthOf v := by
  cases v <;> rfl

theorem testsNull_eq (op : CompareOp) (operand : Expr) :
    testsNull strict op operand = Expr.asksNull strict op operand := by
  unfold testsNull Expr.asksNull Expr.isNullLiteral
  split <;> simp

theorem eval_parameter (p : Parameter) :
    (Node.parameter p).eval env data = (Expr.parameter p).eval strict env := by
  cases p <;> rfl

theorem eval_nullTest {op : CompareOp} {node : Node} {e : Expr} (h : node.eval env data = e.eval strict env) :
    (nullTest op node).eval env data = (do Expr.nullAnswer env op (← e.eval strict env)) := by
  have hcall : (Node.call "is_null" [node]).eval env data =
      (do env.operators.call "is_null" [← e.eval strict env]) := by
    rw [Node.eval, Node.evalAll, Node.evalAll, h]
    cases e.eval strict env <;> rfl
  unfold nullTest Expr.nullAnswer
  split
  · rw [hcall]
    simp
  · rw [Node.eval, hcall]
    simp [truth_eq]

theorem eval_compareNode {op : CompareOp} {l r : Node} {left right : Expr} (hl : l.eval env data = left.eval strict env)
    (hr : r.eval env data = right.eval strict env) : (compareNode op l r).eval env data = (do
      let l ← left.eval strict env
      let r ← right.eval strict env
      if op = .like then env.operators.call "like" [l, r]
      else return .bool ((Value.compare? op l r).getD false)) := by
  unfold compareNode
  split
  · rw [Node.eval, Node.evalAll, Node.evalAll, Node.evalAll, hl, hr]
    cases left.eval strict env with
    | error e => rfl
    | ok l => cases right.eval strict env <;> rfl
  · rw [Node.eval, hl, hr]
    rfl

mutual

/-- The body has the value of the expression. -/
theorem Lowers.eval : {e : Expr} → {lists lists' : List Value} → {node : Node} → Lowers strict e lists node lists' →
    Keeps data lists' → node.eval env data = e.eval strict env
  | _, _, _, _, .list, hk => by
      rw [Node.eval, hk _ _ List.getElem?_concat_length]
      rfl
  | _, _, _, _, .literal _ _, _ => rfl
  | _, _, _, _, .field, _ => rfl
  | _, _, _, _, .parameter, _ => eval_parameter _
  | _, _, _, _, .call h, hk => by rw [Node.eval, Expr.eval, h.eval hk]
  | _, _, _, _, .nullLeft hleft h, hk => by
      rw [testsNull_eq] at hleft
      rw [eval_nullTest (h.eval hk), Expr.eval, if_pos hleft]
  | _, _, _, _, .nullRight hleft hright h, hk => by
      rw [testsNull_eq] at hleft hright
      rw [eval_nullTest (h.eval hk), Expr.eval, if_neg (by simp [hleft]), if_pos hright]
  | _, _, _, _, .compare hleft hright _ hl hr, hk => by
      rw [testsNull_eq] at hleft hright
      rw [eval_compareNode (hl.eval (hk.of_adds hr.adds)) (hr.eval hk), Expr.eval, if_neg (by simp [hleft]),
        if_neg (by simp [hright])]
  | _, _, _, _, .and hl hr, hk => by
      simp only [Node.eval, Expr.eval, truth_eq, hl.eval (hk.of_adds hr.adds), hr.eval hk]
  | _, _, _, _, .or hl hr, hk => by
      simp only [Node.eval, Expr.eval, truth_eq, hl.eval (hk.of_adds hr.adds), hr.eval hk]
  | _, _, _, _, .xor hl hr, hk => by
      simp only [Node.eval, Expr.eval, truth_eq, hl.eval (hk.of_adds hr.adds), hr.eval hk]
  | _, _, _, _, .not h, hk => by simp only [Node.eval, Expr.eval, truth_eq, h.eval hk]

theorem LowersAll.eval : {es : List Expr} → {lists lists' : List Value} → {nodes : List Node} →
    LowersAll strict es lists nodes lists' → Keeps data lists' →
    Node.evalAll env data nodes = Expr.evalAll strict env es
  | _, _, _, _, .nil, _ => rfl
  | _, _, _, _, .cons h hs, hk => by
      rw [Node.evalAll, Expr.evalAll, h.eval (hk.of_adds hs.adds), hs.eval hk]

end

end ArrayTarget

end CompiledRules
