import CompiledRules.Proofs.Compiler.Compile
import CompiledRules.Workspace
import Mathlib

/-!
# Compilers that share a store in memory

In every workspace that calls lead to, each text in the store is a unit of its identifier, whatever the targets emit. So
what is found in the store is never refused, but for two pairs with the same identifier.
-/

namespace CompiledRules

/-- Every text is a unit of the identifier that it is kept under. -/
def MemoryStore.Sound (store : MemoryStore) : Prop :=
  ∀ identifier text, store.get? identifier = some text → UnitOf identifier text

namespace MemoryStore

variable {store : MemoryStore} {identifier : String} {produce : Unit → Production}

theorem evaluate_of_found {text : String} (h : store.get? identifier = some text) :
    store.evaluate identifier produce = ⟨.ok text, store, .event (.foundInMemory identifier)⟩ := by
  simp only [evaluate, h]

theorem evaluate_of_missing (h : store.get? identifier = none) (produce : Unit → Production) :
    (store.evaluate identifier produce).result = (produce ()).result ∧
      (store.evaluate identifier produce).activity.productions = (produce ()).activity.productions := by
  simp only [evaluate, h]
  split
  · rename_i text hresult
    exact ⟨hresult.symm, Nat.zero_add _⟩
  · rename_i error hresult
    exact ⟨hresult.symm, Nat.zero_add _⟩

/-- The text that answers a call is in the store then. -/
theorem get?_of_evaluate {text : String} (h : (store.evaluate identifier produce).result = .ok text) :
    (store.evaluate identifier produce).state.get? identifier = some text := by
  cases hget : store.get? identifier with
  | some found =>
      rw [evaluate_of_found hget] at h ⊢
      cases h
      exact hget
  | none =>
      rw [(evaluate_of_missing hget produce).1] at h
      simp only [evaluate, hget, h]
      exact (Table.find?_insert ..).trans (if_pos rfl)

/-- A call that fails, or is answered with another text than was produced, leaves the store as it was. -/
theorem state_evaluate_of_other
    (h : ∀ text, (store.evaluate identifier produce).result = .ok text → (produce ()).result ≠ .ok text) :
    (store.evaluate identifier produce).state = store := by
  revert h
  cases hget : store.get? identifier with
  | some text =>
      intro _
      rw [evaluate_of_found hget]
  | none =>
      simp only [evaluate, hget]
      split
      · intro h
        exact absurd ‹_› (h _ rfl)
      · intro _
        rfl

/-- What holds of every text still does after a call, and holds of the answer, if it holds of what is produced. -/
theorem kept_evaluate {P : String → String → Prop}
    (hkept : ∀ identifier text, store.get? identifier = some text → P identifier text)
    (hproduce : ∀ text, (produce ()).result = .ok text → P identifier text) :
    (∀ key text, (store.evaluate identifier produce).state.get? key = some text → P key text) ∧
      ∀ text, (store.evaluate identifier produce).result = .ok text → P identifier text := by
  cases hget : store.get? identifier with
  | some text =>
      rw [evaluate_of_found hget]
      refine ⟨hkept, fun text' h => ?_⟩
      cases h
      exact hkept identifier text hget
  | none =>
      refine ⟨?_, fun text h => hproduce text ((evaluate_of_missing hget produce).1 ▸ h)⟩
      simp only [MemoryStore.evaluate, hget]
      split
      · rename_i text hresult
        intro key found hkey
        simp only [get?, Table.find?_insert] at hkey
        split at hkey
        · subst_vars
          cases hkey
          exact hproduce text hresult
        · exact hkept key found hkey
      · exact hkept

/-- A store stays sound if only units of the identifier are produced. -/
theorem Sound.evaluate (hsound : store.Sound)
    (hproduce : ∀ text, (produce ()).result = .ok text → UnitOf identifier text) :
    (store.evaluate identifier produce).state.Sound ∧
      ∀ text, (store.evaluate identifier produce).result = .ok text → UnitOf identifier text :=
  kept_evaluate hsound hproduce

end MemoryStore

namespace Workspace

variable {workspace : Workspace} {store : MemoryStore} {number : Nat} {compiler : Compiler} {rule : String}
  {target : Target} {context : Context}

/-- The store in memory is the only one, all compilers use it, and it and they are sound. -/
structure Shares (workspace : Workspace) (store : MemoryStore) : Prop where
  stores : workspace.stores = [.memory store]
  texts : store.Sound
  uses : ∀ entry ∈ workspace.compilers, entry.2 = 0
  registries : ∀ entry ∈ workspace.compilers, entry.1.Sound

theorem evaluate_memory (h : workspace.stores = [.memory store]) (identifier : String) (produce : Unit → Production) :
    evaluate 0 workspace identifier produce =
      ⟨(store.evaluate identifier produce).result,
        { workspace with stores := [.memory (store.evaluate identifier produce).state] },
        (store.evaluate identifier produce).activity⟩ := by
  simp [evaluate, store?, h, Store.evaluate]

theorem unitOf_productionFor {text : String} (h : (compiler.productionFor rule target context).result = .ok text) :
    UnitOf (Identifier.derive target.variant rule) text := by
  obtain ⟨executor, hload, hbelongs, -⟩ := Compiler.load_of_productionFor h
  exact ⟨executor, hload, hbelongs⟩

theorem sound_answer (h : store.Sound) (compiler : Compiler) (rule : String) (target : Target) (context : Context) :
    let answer := store.evaluate (Identifier.derive target.variant rule) fun _ =>
      compiler.productionFor rule target context
    answer.state.Sound ∧ ∀ text, answer.result = .ok text → UnitOf (Identifier.derive target.variant rule) text :=
  h.evaluate fun _ => unitOf_productionFor

/-! ## One call -/

theorem compile?_eq (h : workspace.compilers[number]? = some (compiler, 0)) :
    workspace.compile? number rule target context =
      let compilation := compiler.compile (evaluate 0) workspace rule target context
      some { compilation with
        state := { compilation.state with
          compilers := compilation.state.compilers.set number (compilation.compiler, 0) } } := by
  simp only [compile?, h, Option.map_some]

namespace Shares

theorem getElem?_compilers (h : workspace.Shares store) (hcompiler : workspace.compiler? number = some compiler) :
    workspace.compilers[number]? = some (compiler, 0) := by
  obtain ⟨entry, hentry, rfl⟩ := Option.map_eq_some_iff.mp hcompiler
  rw [hentry, ← h.uses entry (List.mem_of_getElem? hentry)]

/-- A call changes the store only, and the store stays sound. -/
theorem state_compile (h : workspace.Shares store) :
    ∃ store' : MemoryStore, store'.Sound ∧
      (compiler.compile (evaluate 0) workspace rule target context).state =
        { workspace with stores := [.memory store'] } := by
  cases hloaded : compiler.loaded? (Identifier.derive target.variant rule) with
  | some executor =>
      refine ⟨store, h.texts, ?_⟩
      rw [Compiler.compile_of_loaded context (evaluate 0) workspace hloaded, ← h.stores]
  | none =>
      refine ⟨_, (sound_answer h.texts compiler rule target context).1, ?_⟩
      rw [Compiler.state_compile context (evaluate 0) workspace hloaded, evaluate_memory h.stores]

theorem sound_compile (h : workspace.Shares store) (hsound : compiler.Sound) :
    (compiler.compile (evaluate 0) workspace rule target context).compiler.Sound := by
  refine hsound.compile context (evaluate 0) workspace fun text htext => ?_
  rw [evaluate_memory h.stores] at htext
  exact (sound_answer h.texts compiler rule target context).2 text htext

theorem compile? (h : workspace.Shares store) {compilation : Compilation Workspace}
    (hcompile : workspace.compile? number rule target context = some compilation) :
    ∃ store', compilation.state.Shares store' := by
  obtain ⟨⟨compiler, used⟩, hentry, -⟩ := Option.map_eq_some_iff.mp hcompile
  have hmem := List.mem_of_getElem? hentry
  obtain rfl : used = 0 := h.uses _ hmem
  rw [compile?_eq hentry] at hcompile
  cases hcompile
  obtain ⟨store', hsound, hstate⟩ := h.state_compile
  refine ⟨store', ?_⟩
  dsimp only
  rw [hstate]
  refine ⟨rfl, hsound, fun entry hin => ?_, fun entry hin => ?_⟩
  · rcases List.mem_or_eq_of_mem_set hin with hin | rfl
    · exact h.uses entry hin
    · rfl
  · rcases List.mem_or_eq_of_mem_set hin with hin | rfl
    · exact h.registries entry hin
    · exact h.sound_compile (h.registries _ hmem)

/-- A call that finds a text takes it, and nothing is produced. -/
theorem compile_of_found (h : workspace.Shares store)
    (hloaded : compiler.loaded? (Identifier.derive target.variant rule) = none) {text : String}
    (hget : store.get? (Identifier.derive target.variant rule) = some text) :
    let compilation := compiler.compile (evaluate 0) workspace rule target context
    compilation.result = Compiler.accept text target.variant rule ∧ compilation.activity.productions = 0 := by
  have hresult := Compiler.result_compile context (evaluate 0) workspace hloaded
  have hproductions := Compiler.productions_compile context (evaluate 0) workspace hloaded
  rw [evaluate_memory h.stores, MemoryStore.evaluate_of_found hget] at hresult hproductions
  exact ⟨hresult, hproductions⟩

theorem compile?_of_found (h : workspace.Shares store) (hcompiler : workspace.compiler? number = some compiler)
    (hloaded : compiler.loaded? (Identifier.derive target.variant rule) = none) {text : String}
    (hget : store.get? (Identifier.derive target.variant rule) = some text) {compilation : Compilation Workspace}
    (hcompile : workspace.compile? number rule target context = some compilation) :
    compilation.result = Compiler.accept text target.variant rule ∧ compilation.activity.productions = 0 := by
  rw [compile?_eq (h.getElem?_compilers hcompiler)] at hcompile
  cases hcompile
  exact h.compile_of_found hloaded hget

/-- A call that finds neither an executor nor a text has a unit produced. -/
theorem productions_compile? (h : workspace.Shares store) (hcompiler : workspace.compiler? number = some compiler)
    (hloaded : compiler.loaded? (Identifier.derive target.variant rule) = none)
    (hget : store.get? (Identifier.derive target.variant rule) = none) {compilation : Compilation Workspace}
    (hcompile : workspace.compile? number rule target context = some compilation) :
    compilation.activity.productions = 1 := by
  rw [compile?_eq (h.getElem?_compilers hcompiler)] at hcompile
  cases hcompile
  dsimp only
  rw [Compiler.productions_compile context (evaluate 0) workspace hloaded, evaluate_memory h.stores]
  exact (MemoryStore.evaluate_of_missing hget _).2.trans Compiler.productions_productionFor

/-- What a call produces is in the store then, and the other compilers are as they were. -/
theorem stored_compile? (h : workspace.Shares store) (hcompiler : workspace.compiler? number = some compiler)
    (hloaded : compiler.loaded? (Identifier.derive target.variant rule) = none)
    (hget : store.get? (Identifier.derive target.variant rule) = none) {source : String}
    (hsource : (compiler.productionFor rule target context).result = .ok source) {compilation : Compilation Workspace}
    (hcompile : workspace.compile? number rule target context = some compilation) :
    (∃ store', compilation.state.Shares store' ∧
      store'.get? (Identifier.derive target.variant rule) = some source) ∧
      ∀ other, other ≠ number → compilation.state.compiler? other = workspace.compiler? other := by
  obtain ⟨store', hshares⟩ := h.compile? hcompile
  have hstate := Compiler.state_compile context (evaluate 0) workspace hloaded
  rw [evaluate_memory h.stores] at hstate
  rw [compile?_eq (h.getElem?_compilers hcompiler)] at hcompile
  cases hcompile
  refine ⟨⟨store', hshares, ?_⟩, fun other hother => ?_⟩
  · have hstores := hshares.stores
    simp only [hstate] at hstores
    cases hstores
    refine MemoryStore.get?_of_evaluate ?_
    rw [(MemoryStore.evaluate_of_missing hget _).1, hsource]
  · simp only [compiler?, hstate, List.getElem?_set_ne hother.symm]

/-- A call finds an executor or a text and settles the pair, or it produces a unit that is not in the store. -/
theorem result_compile (h : workspace.Shares store) (hsound : compiler.Sound) :
    let compilation := compiler.compile (evaluate 0) workspace rule target context
    (Settles target.variant rule compilation.result ∧ compilation.activity.productions = 0) ∨
      store.get? (Identifier.derive target.variant rule) = none ∧
        compilation.result = (compiler.productionFor rule target context).result.bind
          fun source => Compiler.accept source target.variant rule := by
  intro compilation
  cases hloaded : compiler.loaded? (Identifier.derive target.variant rule) with
  | some executor =>
      have hcompilation := Compiler.compile_of_loaded context (evaluate 0) workspace hloaded
      refine .inl ⟨?_, by simp only [compilation, hcompilation]; rfl⟩
      simp only [compilation, hcompilation]
      exact Compiler.settles_checkOwner (hsound _ _ hloaded)
  | none =>
      cases hget : store.get? (Identifier.derive target.variant rule) with
      | some text =>
          obtain ⟨hresult, hproductions⟩ := h.compile_of_found hloaded hget
          refine .inl ⟨?_, hproductions⟩
          rw [hresult]
          exact Compiler.settles_accept (h.texts _ _ hget)
      | none =>
          have hresult := Compiler.result_compile context (evaluate 0) workspace hloaded
          rw [evaluate_memory h.stores, (MemoryStore.evaluate_of_missing hget _).1] at hresult
          exact .inr ⟨rfl, hresult⟩

end Shares

/-! ## Runs -/

/-- The workspaces that come of one empty store in memory, compilers that use it, and calls. -/
inductive Run : Workspace → Prop where
  | start : Run { stores := [.memory {}] }
  | add {workspace : Workspace} (parse : String → Except RuleError Expr) :
      Run workspace → Run (workspace.addCompiler { parse } 0).2
  | call {workspace : Workspace} {number : Nat} {rule : String} {target : Target} {context : Context}
      {compilation : Compilation Workspace} : Run workspace →
      workspace.compile? number rule target context = some compilation → Run compilation.state

theorem Shares.start : Shares { stores := [.memory {}] } {} := ⟨rfl, nofun, nofun, nofun⟩

theorem Shares.addCompiler (h : workspace.Shares store) (parse : String → Except RuleError Expr) :
    (workspace.addCompiler { parse } 0).2.Shares store := by
  refine ⟨h.stores, h.texts, fun entry hin => ?_, fun entry hin => ?_⟩
  · rcases List.mem_append.mp hin with hin | hin
    · exact h.uses entry hin
    · rw [List.mem_singleton.mp hin]
  · rcases List.mem_append.mp hin with hin | hin
    · exact h.registries entry hin
    · rw [List.mem_singleton.mp hin]
      nofun

theorem Run.shares (h : Run workspace) : ∃ store, workspace.Shares store := by
  induction h with
  | start => exact ⟨{}, .start⟩
  | add parse _ ih =>
      obtain ⟨store, hshares⟩ := ih
      exact ⟨store, hshares.addCompiler parse⟩
  | call _ hcompile ih =>
      obtain ⟨store, hshares⟩ := ih
      exact hshares.compile? hcompile

/-- In every workspace that calls of any compilers with any targets lead to: each text in the store is the unit of its
identifier, and every further call is answered. If it finds a text, it returns an executor of its own pair or reports a
conflict; a conflict is reported for two different pairs with the same identifier only; and if it has produced a unit
itself, it returns its executor. -/
theorem compile_sound (h : Run workspace) :
    ∃ store : MemoryStore, workspace.stores = [.memory store] ∧
      (∀ identifier text, store.get? identifier = some text → ∃ executor, Executor.load text = .ok executor ∧
        executor.header.identifier = identifier ∧
        identifier = Identifier.derive executor.header.variant executor.header.rule) ∧
      ∀ number compiler rule target context, workspace.compiler? number = some compiler →
        ∃ compilation, workspace.compile? number rule target context = some compilation ∧
          (∀ text, store.get? (Identifier.derive target.variant rule) = some text →
            Settles target.variant rule compilation.result) ∧
          (∀ clash, compilation.result = .error (.conflict clash) → clash.Collides target.variant rule) ∧
          ∀ source, compilation.activity.productions = 1 →
            (compiler.productionFor rule target context).result = .ok source →
            ∃ executor, compilation.result = .ok executor ∧ executor.header.variant = target.variant ∧
              executor.header.rule = rule ∧ executor.source = source := by
  obtain ⟨store, hshares⟩ := h.shares
  refine ⟨store, hshares.stores, fun identifier text hget => ?_,
    fun number compiler rule target context hcompiler => ?_⟩
  · obtain ⟨executor, hload, hbelongs⟩ := hshares.texts identifier text hget
    exact ⟨executor, hload, hbelongs.carries, hbelongs.derived⟩
  · have hentry := hshares.getElem?_compilers hcompiler
    have hsound := hshares.registries _ (List.mem_of_getElem? hentry)
    refine ⟨_, compile?_eq hentry, ?_⟩
    dsimp only
    rcases hshares.result_compile hsound with ⟨hsettles, hnone⟩ | ⟨hmissing, hresult⟩
    · refine ⟨fun _ _ => hsettles, fun clash hclash => hsettles.collides hclash, fun source hone => ?_⟩
      rw [hnone] at hone
      cases hone
    · rw [hresult]
      refine ⟨fun text hget => ?_, fun clash hclash => ?_, fun source _ hsource => ?_⟩
      · rw [hmissing] at hget
        cases hget
      · exact absurd hclash Compiler.accept_productionFor_ne_conflict
      · obtain ⟨executor, haccept, hexecutor⟩ := Compiler.accept_of_productionFor hsource
        exact ⟨executor, by rw [hsource]; exact haccept, hexecutor⟩

/-- A target whose rules all accept. -/
def always : Target where
  variant := "always"
  compile _ _ := .ok { body := "true" }

theorem productionFor_always (context : Context) :
    ∃ source, (Compiler.productionFor {} "a = 1" always context).result = .ok source :=
  ⟨_, (Compiler.writeUnit_eq_ok (Identifier.isIdentifier_derive always.variant "a = 1")).mpr
    ⟨{ body := "true" }, rfl, ⟨nofun, nofun, nofun⟩, rfl, nofun, .literal (.bool true), rfl, nofun⟩⟩

def twoCompilers : Workspace := { stores := [.memory {}], compilers := [({}, 0), ({}, 0)] }

theorem run_twoCompilers : Run twoCompilers := Run.add Expr.parse (Run.add Expr.parse Run.start)

/-- The first compiler produces a unit and fills the store, and the second one finds the text there. -/
theorem compile_sound_twoCompilers : ∃ filled first store source found second,
    Run twoCompilers ∧ twoCompilers.compile? 0 "a = 1" always {} = some filled ∧ filled.activity.productions = 1 ∧
      filled.result = .ok first ∧ first.header.variant = "always" ∧ first.header.rule = "a = 1" ∧
    Run filled.state ∧ filled.state.stores = [.memory store] ∧
      store.get? (Identifier.derive "always" "a = 1") = some source ∧ first.source = source ∧
      filled.state.compile? 1 "a = 1" always {} = some found ∧ found.activity.productions = 0 ∧
      found.result = .ok second ∧ second.header.variant = "always" ∧ second.header.rule = "a = 1" := by
  have hshares : twoCompilers.Shares {} := (Shares.start.addCompiler Expr.parse).addCompiler Expr.parse
  obtain ⟨source, hsource⟩ := productionFor_always {}
  obtain ⟨_, -, -, hcalls⟩ := compile_sound run_twoCompilers
  obtain ⟨filled, hfilled, -, -, hown⟩ := hcalls 0 {} "a = 1" always {} rfl
  have hone : filled.activity.productions = 1 := hshares.productions_compile? rfl rfl rfl hfilled
  obtain ⟨first, hfirst, hvariant, hrule, htext⟩ := hown source hone hsource
  obtain ⟨⟨store, hshares, hget⟩, hothers⟩ := hshares.stored_compile? rfl rfl rfl hsource hfilled
  have hsecond : filled.state.compiler? 1 = some {} := hothers 1 Nat.one_ne_zero
  have hrun : Run filled.state := run_twoCompilers.call hfilled
  obtain ⟨_, hstores, -, hcalls⟩ := compile_sound hrun
  cases hshares.stores.symm.trans hstores
  obtain ⟨found, hfound, hsettles, -⟩ := hcalls 1 {} "a = 1" always {} hsecond
  -- The text was produced for this very pair, so it is taken, and no conflict is reported.
  obtain ⟨accepted, haccept, -⟩ := Compiler.accept_of_productionFor hsource
  obtain ⟨hresult, hnone⟩ := hshares.compile?_of_found hsecond rfl hget hfound
  rcases hsettles source hget with ⟨second, hok, hexecutor⟩ | ⟨clash, hclash, -⟩
  · exact ⟨filled, first, store, source, found, second, run_twoCompilers, hfilled, hone, hfirst, hvariant, hrule, hrun,
      hstores, hget, htext, hfound, hnone, hok, hexecutor⟩
  · rw [hresult, haccept] at hclash
    cases hclash

end Workspace

end CompiledRules
