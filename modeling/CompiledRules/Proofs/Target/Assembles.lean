import CompiledRules.Proofs.Compiler.Compile
import CompiledRules.Proofs.Expr.Count
import CompiledRules.Proofs.Target.Meaning
import CompiledRules.Proofs.Workspace
import Mathlib

/-!
# What compiled code comes to

The target refuses a literal of the body that is not finite. A list literal becomes a constant whatever it holds, and it
is only the assembly that refuses it. Nothing else that the target compiles is refused, in the assembly or on loading.
-/

namespace CompiledRules

namespace ArrayTarget

/-! ## Units -/

/-- The list with the number is not finite, and no other such list has a name before its own. -/
structure FirstInfinite (lists : List Value) (number : Nat) : Prop where
  infinite : ∃ list, lists[number]? = some list ∧ list.isFinite = false
  first : ∀ other list, lists[other]? = some list → list.isFinite = false → listName number ≤ listName other

/-- The entry that the assembly stops at is that of the first list that is not finite. -/
theorem exists_firstInfinite {lists : List Value} (h : ¬ ∀ list ∈ lists, list.isFinite = true) :
    ∃ number entry, FirstInfinite lists number ∧ entry.1 = listName number ∧
      (listTable lists).entries.find? (fun x => !x.2.isFinite) = some entry := by
  have hmem {number : Nat} {list : Value} (hlist : lists[number]? = some list) :
      (listName number, list) ∈ (listTable lists).entries :=
    (Table.find?_eq_some_iff _ _ _).mp (keeps_listTable lists number list hlist)
  cases hfind : (listTable lists).entries.find? (fun x => !x.2.isFinite) with
  | none =>
      refine absurd (fun list hlist => ?_) h
      obtain ⟨number, hnumber⟩ := List.mem_iff_getElem?.mp hlist
      simpa using List.find?_eq_none.mp hfind _ (hmem hnumber)
  | some entry =>
      obtain ⟨hinfinite, before, after, hentries, hbefore⟩ := List.find?_eq_some_iff_append.mp hfind
      obtain ⟨number, hnumber, hname⟩ := getElem?_of_mem_listTable (List.mem_of_find?_eq_some hfind)
      refine ⟨number, entry, ⟨⟨entry.2, hnumber, by simpa using hinfinite⟩, ?_⟩, hname, rfl⟩
      intro other list hother hlist
      rw [← hname]
      have hsorted := (listTable lists).increasing
      have hplace := hmem hother
      rw [hentries] at hplace hsorted
      -- In front of the entry everything is finite, and behind it the names are greater.
      rcases List.mem_append.mp hplace with hplace | hplace
      · have := hbefore _ hplace
        simp [hlist] at this
      · rcases List.mem_cons.mp hplace with heq | hplace
        · rw [← heq]
        · obtain ⟨-, hsorted, -⟩ := List.pairwise_append.mp hsorted
          exact String.not_lt.mp (String.lt_asymm ((List.pairwise_cons.mp hsorted).1 _ hplace))

section

variable {target : ArrayTarget} {e : Expr} {context : Context} {code : GeneratedCode} {identifier : String}
  (variant rule : String) (hid : Identifier.isIdentifier identifier = true)
  (hcode : target.compile e context = .ok code)
include hid hcode

theorem writeUnit_of_finite (hindices : ∀ p ∈ e.parameters, p.InRange)
    (hfinite : ∀ list ∈ e.lists, list.isFinite = true) : ∃ source,
    Compiler.writeUnit target.toTarget (.ofNames (.ofIdentifier identifier) variant rule) context e = .ok source := by
  obtain ⟨hwritable, hmixins, hbody⟩ := loadable_of_compile hindices hcode hfinite
  exact ⟨_, (Compiler.writeUnit_eq_ok hid).mpr ⟨code, hcode, hwritable, rfl, hmixins, hbody⟩⟩

theorem writeUnit_of_not_finite (hinfinite : ¬ ∀ list ∈ e.lists, list.isFinite = true) :
    ∃ number, FirstInfinite e.lists number ∧
      Compiler.writeUnit target.toTarget (.ofNames (.ofIdentifier identifier) variant rule) context e =
        .error (.assembly (.nonLiteral (listName number))) := by
  obtain ⟨number, entry, hfirst, hname, hfind⟩ := exists_firstInfinite hinfinite
  obtain ⟨node, lists, hlowers, rfl⟩ := compile_eq_ok hcode
  rw [← List.nil_append e.lists, ← hlowers.lists_eq] at hfind
  refine ⟨number, hfirst, Compiler.writeUnit_of_not_assembled hcode ?_⟩
  rw [← hname]
  exact Assembly.assemble_eq_error (Executor.isWord_name hid variant rule) (fun mixin hmixin =>
    (known_filter mixin hmixin).1) isWord_of_mem_listTable hfind

end

end ArrayTarget

/-! ## New compilers -/

namespace Compiler

variable {rule : String} {target : Target} {context : Context}

theorem compile_of_not_produced {error : CompileError}
    (h : (productionFor {} rule target context).result = .error error) :
    (compile {} MemoryStore.evaluate {} rule target context).result = .error error := by
  rw [result_compile _ _ _ rfl, (MemoryStore.evaluate_of_missing rfl _).1, h]
  rfl

theorem compile_of_produced {source : String} (h : (productionFor {} rule target context).result = .ok source) :
    ∃ executor, (compile {} MemoryStore.evaluate {} rule target context).result = .ok executor := by
  obtain ⟨executor, haccept, -⟩ := accept_of_productionFor h
  refine ⟨executor, ?_⟩
  rw [result_compile _ _ _ rfl, (MemoryStore.evaluate_of_missing rfl _).1, h]
  exact haccept

end Compiler

namespace ArrayTarget

/-! ## Rules with lists -/

theorem finite_iff {lists : List Value} :
    (∀ list ∈ lists, list.isFinite = true) ↔ false ∉ lists.map Value.isFinite := by
  simp

theorem FirstInfinite.getElem? {lists : List Value} {number : Nat} (h : FirstInfinite lists number) :
    (lists.map Value.isFinite)[number]? = some false := by
  obtain ⟨list, hlist, hfinite⟩ := h.infinite
  rw [List.getElem?_map, hlist, Option.map_some, hfinite]

/-- Which list literals of a rule are finite, if it is read and the target with the built-in operators compiles it. -/
def finiteLists? (rule : String) : Option (List Bool) := do
  let e ← (Expr.parse rule).toOption
  let _ ← (ArrayTarget.compile {} e {}).toOption
  return e.lists.map Value.isFinite

theorem of_finiteLists? {rule : String} {finite : List Bool} (h : finiteLists? rule = some finite) :
    ∃ e code, Expr.parse rule = .ok e ∧ ArrayTarget.compile {} e {} = .ok code ∧
      e.lists.map Value.isFinite = finite := by
  rw [finiteLists?] at h
  cases hparse : Expr.parse rule with
  | error error =>
      rw [hparse] at h
      cases h
  | ok e =>
      rw [hparse] at h
      change ((ArrayTarget.compile {} e {}).toOption >>= _) = _ at h
      cases hcode : ArrayTarget.compile {} e {} with
      | error error =>
          rw [hcode] at h
          cases h
      | ok code =>
          rw [hcode] at h
          cases h
          exact ⟨e, code, rfl, hcode, rfl⟩

/-- A new compiler with a store in memory gives the error of the rule if it cannot be read, and that of the target if it
refuses the expression. What the target compiles becomes an executor exactly if every list literal is finite; otherwise
the unit is not assembled, for the first list in the order of the names that is not finite. The length says that the
characters of the rule can be counted by a machine. -/
theorem compile_inMemory (target : ArrayTarget) (context : Context) (rule : String)
    (hlength : rule.toList.length ≤ 0x10000000000000000) :
    let result := (Compiler.compile {} MemoryStore.evaluate {} rule target.toTarget context).result
    (∀ error, Expr.parse rule = .error error → result = .error (.rule error)) ∧
    ∀ e, Expr.parse rule = .ok e →
      (∀ error, target.compile e context = .error error → result = .error (.target error)) ∧
      ∀ code, target.compile e context = .ok code →
        ((∀ list ∈ e.lists, list.isFinite = true) → ∃ executor, result = .ok executor) ∧
        ((¬ ∀ list ∈ e.lists, list.isFinite = true) → ∃ number, FirstInfinite e.lists number ∧
          result = .error (.assembly (.nonLiteral (listName number)))) := by
  refine ⟨fun error hparse => Compiler.compile_of_not_produced (Compiler.productionFor_of_error hparse), ?_⟩
  intro e hparse
  have hid := Identifier.isIdentifier_derive target.toTarget.variant rule
  have hproduction : (Compiler.productionFor {} rule target.toTarget context).result = _ :=
    Compiler.productionFor_of_ok hparse
  refine ⟨fun error herror => ?_, fun code hcode => ⟨fun hfinite => ?_, fun hinfinite => ?_⟩⟩
  · exact Compiler.compile_of_not_produced (hproduction.trans (Compiler.writeUnit_of_refused herror))
  · obtain ⟨source, hsource⟩ := writeUnit_of_finite _ _ hid hcode (Expr.inRange_of_parse hparse hlength) hfinite
    exact Compiler.compile_of_produced (hproduction.trans hsource)
  · obtain ⟨number, hfirst, herror⟩ := writeUnit_of_not_finite _ _ hid hcode hinfinite
    exact ⟨number, hfirst, Compiler.compile_of_not_produced (hproduction.trans herror)⟩

/-- Of two rules with a list and a parameter each, the one with a finite list becomes an executor. -/
theorem compile_inMemory_lists :
    "a in [1, \"x\"] and not b = ?".toList.length ≤ 0x10000000000000000 ∧
    (∃ executor, (Compiler.compile {} MemoryStore.evaluate {} "a in [1, \"x\"] and not b = ?" (toTarget {}) {}).result =
      .ok executor) ∧
    "a in [1] xor [2, [-1e999]] = ?".toList.length ≤ 0x10000000000000000 ∧
    (Compiler.compile {} MemoryStore.evaluate {} "a in [1] xor [2, [-1e999]] = ?" (toTarget {}) {}).result =
      .error (.assembly (.nonLiteral "list_1")) := by
  have hlength : "a in [1, \"x\"] and not b = ?".toList.length ≤ 0x10000000000000000 := by decide
  have hlength' : "a in [1] xor [2, [-1e999]] = ?".toList.length ≤ 0x10000000000000000 := by decide
  refine ⟨hlength, ?_, hlength', ?_⟩
  · have hfinite : finiteLists? "a in [1, \"x\"] and not b = ?" = some [true] := by decide +kernel
    obtain ⟨e, code, hparse, hcode, hlists⟩ := of_finiteLists? hfinite
    refine (((compile_inMemory {} {} _ hlength).2 e hparse).2 code hcode).1 ?_
    rw [finite_iff, hlists]
    decide
  · have hfinite : finiteLists? "a in [1] xor [2, [-1e999]] = ?" = some [true, false] := by decide +kernel
    obtain ⟨e, code, hparse, hcode, hlists⟩ := of_finiteLists? hfinite
    obtain ⟨number, hfirst, herror⟩ := (((compile_inMemory {} {} _ hlength').2 e hparse).2 code hcode).2 (by
      rw [finite_iff, hlists]
      decide)
    have hnumber := hfirst.getElem?
    rw [hlists] at hnumber
    have hone : number = 1 := by
      rcases number with _ | _ | number
      · cases hnumber
      · rfl
      · cases hnumber
    subst hone
    exact herror

/-- A list that is not finite passes the target and stops the assembly. -/
theorem compile_infiniteList :
    (Compiler.compile {} MemoryStore.evaluate {} "a in [1e400]" (toTarget {}) {}).result =
      .error (.assembly (.nonLiteral "list_0")) := by
  have hfinite : finiteLists? "a in [1e400]" = some [false] := by decide +kernel
  obtain ⟨e, code, hparse, hcode, hlists⟩ := of_finiteLists? hfinite
  have hinfinite : ¬ ∀ list ∈ e.lists, list.isFinite = true := by
    rw [finite_iff, hlists]
    decide
  have hid := Identifier.isIdentifier_derive (toTarget {}).variant "a in [1e400]"
  obtain ⟨number, hfirst, herror⟩ := writeUnit_of_not_finite _ _ hid hcode hinfinite
  have hnumber := hfirst.getElem?
  rw [hlists] at hnumber
  have hzero : number = 0 := by simpa using (List.getElem?_eq_some_iff.mp hnumber).1
  subst hzero
  exact Compiler.compile_of_not_produced ((Compiler.productionFor_of_ok hparse).trans herror)

end ArrayTarget

end CompiledRules
