import CompiledRules.Proofs.Executor.Load
import CompiledRules.Proofs.Target.Lowering
import Mathlib

/-!
# Compilation keeps the meaning

An expression that the target compiles can be assembled and loaded, and the executor gives on every record the answer
that the expression itself gives.
-/

namespace CompiledRules.ArrayTarget

/-! ## The table of lists -/

theorem listTable_concat (lists : List Value) (v : Value) :
    listTable (lists ++ [v]) = (listTable lists).insert (listName lists.length) v := by
  rw [listTable, List.zipIdx_append, List.map_append, Nat.zero_add]
  exact Table.ofEntries_concat _ (listName lists.length, v)

theorem keeps_listTable (lists : List Value) : Keeps (listTable lists) lists := by
  induction lists using List.reverseRecOn with
  | nil => exact nofun
  | append_singleton lists v ih =>
      intro i w hi
      rw [listTable_concat, Table.find?_insert]
      by_cases hlast : i = lists.length
      · subst hlast
        rw [List.getElem?_concat_length] at hi
        rw [if_pos rfl, hi]
      · rw [if_neg fun h => hlast (listName_injective h)]
        have hlt : i < lists.length := by
          have := (List.getElem?_eq_some_iff.mp hi).1
          rw [List.length_append, List.length_singleton] at this
          omega
        rw [List.getElem?_append_left hlt] at hi
        exact ih i w hi

/-- What stands in the table is a list under its name. -/
theorem getElem?_of_mem_listTable {lists : List Value} {entry : String × Value}
    (h : entry ∈ (listTable lists).entries) : ∃ i, lists[i]? = some entry.2 ∧ entry.1 = listName i := by
  induction lists using List.reverseRecOn with
  | nil => cases h
  | append_singleton lists v ih =>
      rw [listTable_concat] at h
      rcases Entries.mem_insert h with rfl | h
      · exact ⟨lists.length, List.getElem?_concat_length, rfl⟩
      · obtain ⟨i, hi, hname⟩ := ih h
        exact ⟨i, by rw [List.getElem?_append_left (List.getElem?_eq_some_iff.mp hi).1, hi], hname⟩

theorem mem_listTable {lists : List Value} {entry : String × Value} (h : entry ∈ (listTable lists).entries) :
    entry.2 ∈ lists ∧ ∃ i, entry.1 = listName i := by
  obtain ⟨i, hi, hname⟩ := getElem?_of_mem_listTable h
  exact ⟨List.mem_of_getElem? hi, i, hname⟩

theorem isWord_of_mem_listTable {lists : List Value} (entry : String × Value)
    (h : entry ∈ (listTable lists).entries) : Text.isWord entry.1.toList = true := by
  obtain ⟨-, i, hname⟩ := mem_listTable h
  rw [hname]
  exact isWord_listName i

theorem has_listTable {lists : List Value} {i : Nat} (hi : i < lists.length) :
    (listTable lists).has (listName i) = true := by
  rw [Table.has, keeps_listTable lists i lists[i] (List.getElem?_eq_getElem hi)]
  rfl

/-! ## Compilation -/

theorem compile_eq_ok {target : ArrayTarget} {e : Expr} {context : Context} {code : GeneratedCode}
    (h : target.compile e context = .ok code) : ∃ node lists,
      Lowers (context.flag strictNull false) e [] node lists ∧
      code = { body := String.ofList node.display, mixins := ["filter"], data := listTable lists } := by
  obtain ⟨⟨node, lists⟩, hlower, h⟩ := Except.bind_eq_ok_iff.mp h
  cases h
  exact ⟨node, lists, lowers_of_lower e hlower, rfl⟩

theorem known_filter : ∀ mixin ∈ ["filter"], Text.isWord mixin.toList = true ∧ mixin ∈ Executor.knownMixins := by decide

section

variable {target : ArrayTarget} {e : Expr} {context : Context} {code : GeneratedCode}
  (hindices : ∀ p ∈ e.parameters, p.InRange) (hcode : target.compile e context = .ok code)
include hindices hcode

/-- Compiled code with finite lists is all that the assembly and the executor ask for. -/
theorem loadable_of_compile (hfinite : ∀ list ∈ e.lists, list.isFinite = true) :
    code.Writable ∧ (∀ mixin ∈ code.mixins, mixin ∈ Executor.knownMixins) ∧
      ∃ node, Node.ofText code.body = .ok node ∧ ∀ name ∈ node.constants, code.data.has name = true := by
  obtain ⟨node, lists, hlowers, rfl⟩ := compile_eq_ok hcode
  rw [← List.nil_append e.lists, ← hlowers.lists_eq] at hfinite
  refine ⟨⟨?_, isWord_of_mem_listTable, ?_⟩, ?_, node, (hlowers.wellFormed hindices).ofText_display, ?_⟩
  · exact fun mixin hmixin => (known_filter mixin hmixin).1
  · exact fun entry hentry => hfinite _ (mem_listTable hentry).1
  · exact fun mixin hmixin => (known_filter mixin hmixin).2
  · intro name hname
    obtain ⟨i, hi, rfl⟩ := hlowers.constants name hname
    exact has_listTable hi

/-- Under whatever header compiled code was assembled and loaded, the executor gives the answers of the expression. -/
theorem execute_of_load {header : Header} {source : String} {executor : Executor}
    (hassemble : assemble header code = .ok source) (hload : Executor.load source = .ok executor) (record : Record)
    (operators : Operators) (parameters : Parameters) : executor.execute record operators parameters =
      e.holds (context.flag strictNull false) ⟨record, operators, parameters⟩ := by
  obtain ⟨-, hdata, hbody⟩ := Executor.of_assemble_load hassemble hload
  obtain ⟨node, lists, hlowers, rfl⟩ := compile_eq_ok hcode
  -- The body is read back as the node that was displayed.
  have hnode : node = executor.body := Except.ok.inj ((hlowers.wellFormed hindices).ofText_display.symm.trans hbody)
  simp only [Executor.execute, ← hnode, hdata, Expr.holds, hlowers.eval (keeps_listTable lists), truth_eq]

/-- Compiled code with finite lists becomes an executor that gives the answers of the expression. -/
theorem executor_of_compile {identifier : String} (hid : Identifier.isIdentifier identifier = true)
    (variant rule : String) (hfinite : ∀ list ∈ e.lists, list.isFinite = true) :
    ∃ source executor, assemble (.ofNames (.ofIdentifier identifier) variant rule) code = .ok source ∧
      Executor.load source = .ok executor ∧
      ∀ record operators parameters, executor.execute record operators parameters =
        e.holds (context.flag strictNull false) ⟨record, operators, parameters⟩ := by
  obtain ⟨hwritable, hmixins, node, hnode, hconstants⟩ := loadable_of_compile hindices hcode hfinite
  have hassemble := (Assembly.assemble_eq_ok (Executor.isWord_name hid variant rule)).mpr ⟨hwritable, rfl⟩
  have hload := (Executor.load_unitText hid variant rule hwritable rfl).mpr ⟨hmixins, node, hnode, hconstants, rfl⟩
  exact ⟨_, _, hassemble, hload, execute_of_load hindices hcode hassemble hload⟩

end

theorem isFinite_of_mem_lists {e : Expr} (h : ∀ items, .list items ∈ e.literals → Value.allFinite items = true) :
    ∀ list ∈ e.lists, list.isFinite = true := by
  intro list hlist
  obtain ⟨hmem, hlist⟩ := List.mem_filter.mp hlist
  cases list with
  | list items => exact h items hmem
  | _ => cases hlist

/-- Compiled code is assembled and loaded under every identifier, variant and rule, if its list literals are finite, and
then gives the answer of the expression on every record, with all operators and parameters. -/
theorem execute_compile (target : ArrayTarget) (e : Expr) (context : Context) (code : GeneratedCode)
    (identifier variant rule : String) (hid : Identifier.isIdentifier identifier = true)
    (hindices : ∀ p ∈ e.parameters, p.InRange)
    (hfinite : ∀ items, .list items ∈ e.literals → Value.allFinite items = true)
    (hcode : target.compile e context = .ok code) :
    ∃ source executor, assemble (.ofNames (.ofIdentifier identifier) variant rule) code = .ok source ∧
      Executor.load source = .ok executor ∧
      ∀ record operators parameters, executor.execute record operators parameters =
        e.holds (context.flag strictNull false) ⟨record, operators, parameters⟩ :=
  executor_of_compile hindices hcode hid variant rule (isFinite_of_mem_lists hfinite)

/-- A rule with a list, a null test, a pattern and two parameters. -/
def sampleRule : Expr :=
  .and (.compare .isIn (.field "a.\"b") (.literal (.list [.int (-1), .string "\\"])))
    (.or (.not (.compare .neq (.literal .null) (.parameter (.positional 0))))
      (.compare .like (.parameter (.named "p\n")) (.literal (.string "%;\x7d"))))

/-- A record of which the first part of the rule holds. -/
def sampleRecord : Record := Record.empty.insert "a.\"b" (.string "\\")

/-- Both bindings count: the positional one denies the null test, and the rule then hangs on the named one. -/
theorem execute_compile_sampleRule : ∃ code source executor,
    ArrayTarget.compile {} sampleRule (Context.set {} strictNull (.bool true)) = .ok code ∧
    assemble (.ofNames (.ofIdentifier "0123456789abcdef0123456789abcdef") "array" "\"") code = .ok source ∧
    Executor.load source = .ok executor ∧
    (∀ record operators parameters, executor.execute record operators parameters =
      sampleRule.holds true ⟨record, operators, parameters⟩) ∧
    executor.execute sampleRecord .builtin {} = .ok true ∧
    executor.execute sampleRecord .builtin (Parameters.push {} (.int 1)) = .ok false ∧
    executor.execute sampleRecord .builtin ((Parameters.push {} (.int 1)).set "p\n" (.string "x;\x7d")) = .ok true := by
  have hcode : ∃ code, ArrayTarget.compile {} sampleRule (Context.set {} strictNull (.bool true)) = .ok code := ⟨_, rfl⟩
  have hindices : ∀ p ∈ sampleRule.parameters, p.InRange := by
    simp [sampleRule, Expr.parameters, Parameter.InRange]
  have hfinite : ∀ items, .list items ∈ sampleRule.literals → Value.allFinite items = true := by
    simp [sampleRule, Expr.literals, Value.allFinite, Value.isFinite]
  obtain ⟨code, hcode⟩ := hcode
  obtain ⟨source, executor, hassemble, hload, hexecute⟩ := execute_compile {} sampleRule
    (Context.set {} strictNull (.bool true)) code "0123456789abcdef0123456789abcdef" "array" "\"" (by decide) hindices
    hfinite hcode
  exact ⟨code, source, executor, hcode, hassemble, hload, hexecute, hexecute _ _ _, hexecute _ _ _, hexecute _ _ _⟩

end CompiledRules.ArrayTarget
