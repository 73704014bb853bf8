import CompiledRules.Proofs.Slots.Alone
import CompiledRules.Proofs.Store.File
import CompiledRules.Proofs.Workspace
import Mathlib

/-!
# A failed call leaves nothing behind

What a compiler produces it also accepts, so that a call fails before its text comes into the store, or on a text that
the store had. Either way registries, texts and files stay as they were. Where neither the compiler nor the store had
anything, the error is that of the production, and the same call comes to the same again.
-/

namespace CompiledRules

/-! ## Calls that fail -/

namespace Compiler

variable {σ : Type} {compiler : Compiler} {evaluate : Evaluator σ} {state : σ} {rule : String} {target : Target}
  {context : Context}

theorem compile_of_not_answered (hloaded : compiler.loaded? (Identifier.derive target.variant rule) = none)
    {error : CompileError} {activity : Activity} {state' : σ}
    (h : (evaluate state (Identifier.derive target.variant rule) fun _ =>
      compiler.productionFor rule target context) = ⟨.error error, state', activity⟩) :
    compiler.compile evaluate state rule target context =
      ⟨.error error, compiler, state', context.identify (.ofIdentifier (Identifier.derive target.variant rule)),
        activity⟩ := by
  rw [compile_of_not_loaded context evaluate state hloaded]
  simp only [h, Except.bind]

end Compiler

namespace Store

variable {store : Store} {disk : Disk} {identifier : String} {produce : Unit → Production}

/-- The text that a store has for an identifier, in memory or in a file. -/
def get? : Store → Disk → String → Option String
  | .memory store, _, identifier => store.get? identifier
  | .file store, disk, identifier => store.get? disk identifier
  | .fixed text, _, _ => some text

/-- The store has nothing for the identifier, nor has it seen anything. -/
def Lacks : Store → Disk → String → Prop
  | .memory store, _, identifier => store.get? identifier = none
  | .file store, disk, identifier => store.seen.find? identifier = none ∧ store.get? disk identifier = none
  | .fixed _, _, _ => False

/-- Should a produced text have to be written to a file, then it is. -/
def Writes (store : Store) (disk : Disk) (identifier : String) (result : Except CompileError String) : Prop :=
  ∀ file text, store = .file file → store.Lacks disk identifier → result = .ok text →
    (file.save disk identifier text).1 = .ok ()

/-- The same store, apart from what a store on disk has seen of its files. -/
inductive Resembles : Store → Store → Prop where
  | refl (store : Store) : Resembles store store
  | file (store : FileStore) (seen : Table String) : Resembles (.file store) (.file { store with seen })

theorem Resembles.get?_eq {other : Store} (h : Resembles store other) (disk : Disk) (identifier : String) :
    other.get? disk identifier = store.get? disk identifier := by
  cases h <;> rfl

theorem evaluate_file_resembles {file : FileStore}
    (hwrites : (Store.file file).Writes disk identifier (produce ()).result)
    (h : ∀ text, (FileStore.evaluate (file, disk) identifier produce).result = .ok text →
      (produce ()).result ≠ .ok text) :
    (FileStore.evaluate (file, disk) identifier produce).state.2 = disk ∧
      Resembles (.file file) (.file (FileStore.evaluate (file, disk) identifier produce).state.1) := by
  have hfst := FileStore.fst_lookUp file disk identifier
  revert h
  simp only [FileStore.evaluate]
  split
  · intro _
    exact ⟨rfl, .refl _⟩
  · rename_i hseen
    split
    · intro _
      exact ⟨rfl, .file file _⟩
    · rename_i hlook
      rw [hlook] at hfst
      split
      · intro _
        exact ⟨rfl, .refl _⟩
      · rename_i text hproduced
        -- A text that is saved is the answer, and then it is the one that was produced.
        have hsaved := hwrites file text rfl ⟨hseen, hfst.symm⟩ hproduced
        split
        · rename_i hsave
          rw [hsave] at hsaved
          cases hsaved
        · intro h
          exact absurd hproduced (h text rfl)

/-- A call that fails, or is answered with another text than was produced, changes neither files nor texts. -/
theorem evaluate_resembles (hwrites : store.Writes disk identifier (produce ()).result)
    (h : ∀ text, (Store.evaluate (store, disk) identifier produce).result = .ok text →
      (produce ()).result ≠ .ok text) :
    (Store.evaluate (store, disk) identifier produce).state.2 = disk ∧
      Resembles store (Store.evaluate (store, disk) identifier produce).state.1 := by
  cases store with
  | memory memory =>
      have hsame : (Store.evaluate (.memory memory, disk) identifier produce).state.1 = .memory memory :=
        congrArg Store.memory (MemoryStore.state_evaluate_of_other h)
      rw [hsame]
      exact ⟨rfl, .refl _⟩
  | file file => exact evaluate_file_resembles hwrites h
  | fixed text => exact ⟨rfl, .refl _⟩

theorem lookUp_of_lacks {file : FileStore} (h : (Store.file file).Lacks disk identifier) :
    file.seen.find? identifier = none ∧ ∃ activity, file.lookUp disk identifier = (none, activity) ∧
      activity.productions = 0 ∧ activity.targetCalls = 0 := by
  obtain ⟨hseen, hget⟩ := h
  refine ⟨hseen, _, Prod.ext ((FileStore.fst_lookUp file disk identifier).trans hget) rfl,
    FileStore.productions_lookUp file disk identifier, ?_⟩
  rw [FileStore.lookUp]
  split
  · rfl
  · rfl
  · split <;> rfl

/-- A store that has nothing passes the error of the production on, and stays as it is. -/
theorem evaluate_of_lacks (produce : Unit → Production) (hlacks : store.Lacks disk identifier) {error : CompileError}
    (hproduced : (produce ()).result = .error error) :
    ∃ activity, Store.evaluate (store, disk) identifier produce = ⟨.error error, (store, disk), activity⟩ ∧
      activity.productions = (produce ()).activity.productions ∧
      activity.targetCalls = (produce ()).activity.targetCalls := by
  cases store with
  | memory memory =>
      have hget : memory.get? identifier = none := hlacks
      simp only [Store.evaluate, MemoryStore.evaluate, hget, hproduced]
      exact ⟨_, rfl, Nat.zero_add _, Nat.zero_add _⟩
  | file file =>
      obtain ⟨hseen, activity, hlook, hproductions, hcalls⟩ := lookUp_of_lacks hlacks
      simp only [Store.evaluate, FileStore.evaluate, hseen, hlook, hproduced]
      refine ⟨_, rfl, ?_, ?_⟩
      · show activity.productions + 0 + _ = _
        rw [hproductions, Nat.zero_add]
      · show activity.targetCalls + 0 + _ = _
        rw [hcalls, Nat.zero_add]
  | fixed text => exact hlacks.elim

/-- What is produced for a store that has nothing is the answer. -/
theorem result_evaluate_of_lacks (produce : Unit → Production) (hlacks : store.Lacks disk identifier)
    (hwrites : store.Writes disk identifier (produce ()).result) :
    (Store.evaluate (store, disk) identifier produce).result = (produce ()).result := by
  cases hproduced : (produce ()).result with
  | error error =>
      obtain ⟨activity, hevaluate, -⟩ := evaluate_of_lacks produce hlacks hproduced
      rw [hevaluate]
  | ok text =>
      cases store with
      | memory memory =>
          have hget : memory.get? identifier = none := hlacks
          simp only [Store.evaluate, MemoryStore.evaluate, hget, hproduced]
      | file file =>
          obtain ⟨hseen, activity, hlook, -⟩ := lookUp_of_lacks hlacks
          have hsaved := hwrites file text rfl hlacks hproduced
          simp only [Store.evaluate, FileStore.evaluate, hseen, hlook, hproduced]
          split
          · rename_i hsave
            rw [hsave] at hsaved
            cases hsaved
          · rfl
      | fixed text => exact hlacks.elim

end Store

namespace Workspace

variable {workspace : Workspace} {number used : Nat} {compiler : Compiler} {store : Store} {rule : String}
  {target : Target} {context : Context} {error : CompileError}

theorem evaluate_of_store (hstore : workspace.store? used = some store) (identifier : String)
    (produce : Unit → Production) :
    evaluate used workspace identifier produce =
      let answer := Store.evaluate (store, workspace.disk) identifier produce
      ⟨answer.result,
        { workspace with stores := workspace.stores.set used answer.state.1, disk := answer.state.2 },
        answer.activity⟩ := by
  simp only [evaluate, hstore]

/-- The workspaces have the same registries, the same files and, up to what was seen of these, the same stores. -/
structure Resembles (workspace workspace' : Workspace) : Prop where
  compilers : workspace'.compilers = workspace.compilers
  disk : workspace'.disk = workspace.disk
  stores : ∀ k store, workspace.store? k = some store → ∃ store', workspace'.store? k = some store' ∧
    store.Resembles store'

theorem Resembles.refl (workspace : Workspace) : Resembles workspace workspace :=
  ⟨rfl, rfl, fun _ store h => ⟨store, h, .refl store⟩⟩

/-- Where workspaces resemble each other, every store has the same texts, and those in memory are the same. -/
theorem Resembles.texts {workspace' : Workspace} (h : Resembles workspace workspace') {k : Nat} {old : Store}
    (hold : workspace.store? k = some old) : ∃ new, workspace'.store? k = some new ∧
      (∀ key, new.get? workspace'.disk key = old.get? workspace.disk key) ∧
      ∀ memory, old = .memory memory → new = .memory memory := by
  obtain ⟨new, hnew, hsame⟩ := h.stores k old hold
  refine ⟨new, hnew, fun key => ?_, fun memory hmemory => ?_⟩
  · rw [h.disk]
    exact hsame.get?_eq workspace.disk key
  · subst hmemory
    cases hsame
    rfl

theorem Resembles.set (hstore : workspace.store? used = some store) {store' : Store} (h : store.Resembles store') :
    Resembles workspace { workspace with stores := workspace.stores.set used store' } := by
  refine ⟨rfl, rfl, fun k other hother => ?_⟩
  by_cases hk : used = k
  · subst hk
    rw [hstore] at hother
    cases hother
    exact ⟨store', List.getElem?_set_self (List.getElem?_eq_some_iff.mp hstore).1, h⟩
  · exact ⟨other, (List.getElem?_set_ne hk).trans hother, .refl other⟩

theorem resembles_compile (hstore : workspace.store? used = some store)
    (hwrites : store.Writes workspace.disk (Identifier.derive target.variant rule)
      (compiler.productionFor rule target context).result)
    (herror : (compiler.compile (evaluate used) workspace rule target context).result = .error error) :
    workspace.Resembles (compiler.compile (evaluate used) workspace rule target context).state := by
  cases hloaded : compiler.loaded? (Identifier.derive target.variant rule) with
  | some executor =>
      rw [Compiler.compile_of_loaded context _ _ hloaded]
      exact .refl workspace
  | none =>
      have hother := Compiler.answer_of_error hloaded herror
      rw [Compiler.state_compile context _ _ hloaded]
      rw [evaluate_of_store hstore] at hother ⊢
      obtain ⟨hdisk, hresembles⟩ := Store.evaluate_resembles hwrites hother
      dsimp only
      rw [hdisk]
      exact .set hstore hresembles

theorem exists_compile? (hcompiler : workspace.compilers[number]? = some (compiler, used)) (rule : String)
    (target : Target) (context : Context) :
    ∃ compilation, workspace.compile? number rule target context = some compilation ∧
      compilation.result = (compiler.compile (evaluate used) workspace rule target context).result := by
  simp only [compile?, hcompiler, Option.map_some]
  exact ⟨_, rfl, rfl⟩

/-- A call that leaves the registries as they were is the call of the compiler by itself. -/
theorem eq_compile_of_compile? (hcompiler : workspace.compilers[number]? = some (compiler, used))
    {compilation : Compilation Workspace} (hcompile : workspace.compile? number rule target context = some compilation)
    (hsame : (compiler.compile (evaluate used) workspace rule target context).compiler = compiler)
    (hcompilers : (compiler.compile (evaluate used) workspace rule target context).state.compilers =
      workspace.compilers) :
    compilation = compiler.compile (evaluate used) workspace rule target context := by
  simp only [compile?, hcompiler, Option.map_some] at hcompile
  cases hcompile
  -- What is left is that the registry is put back where it stands.
  generalize compiler.compile (evaluate used) workspace rule target context = made at hsame hcompilers ⊢
  obtain ⟨result, compiler', ⟨disk, stores, compilers⟩, written, activity⟩ := made
  cases hsame
  cases hcompilers
  rw [List.set_of_getElem? hcompiler]

theorem compile_of_lacks (hstore : workspace.store? used = some store)
    (hwrites : store.Writes workspace.disk (Identifier.derive target.variant rule)
      (compiler.productionFor rule target context).result)
    (hloaded : compiler.loaded? (Identifier.derive target.variant rule) = none)
    (hlacks : store.Lacks workspace.disk (Identifier.derive target.variant rule))
    (herror : (compiler.compile (evaluate used) workspace rule target context).result = .error error) :
    (compiler.productionFor rule target context).result = .error error ∧ ∃ activity,
      compiler.compile (evaluate used) workspace rule target context =
        ⟨.error error, compiler, workspace,
          context.identify (.ofIdentifier (Identifier.derive target.variant rule)), activity⟩ ∧
      activity.productions = (compiler.productionFor rule target context).activity.productions ∧
      activity.targetCalls = (compiler.productionFor rule target context).activity.targetCalls := by
  have hanswer := Store.result_evaluate_of_lacks (fun _ => compiler.productionFor rule target context) hlacks hwrites
  cases hproduced : (compiler.productionFor rule target context).result with
  | ok text =>
      have hother := Compiler.answer_of_error hloaded herror text
      rw [evaluate_of_store hstore] at hother
      exact absurd hproduced (hother (hanswer.trans hproduced))
  | error produced =>
      obtain ⟨activity, hevaluate, hproductions, hcalls⟩ :=
        Store.evaluate_of_lacks (fun _ => compiler.productionFor rule target context) hlacks hproduced
      have hsame : (evaluate used workspace (Identifier.derive target.variant rule) fun _ =>
          compiler.productionFor rule target context) = ⟨.error produced, workspace, activity⟩ := by
        rw [evaluate_of_store hstore, hevaluate]
        simp only [List.set_of_getElem? hstore]
      have hcompilation := Compiler.compile_of_not_answered hloaded hsame
      rw [hcompilation] at herror
      cases herror
      exact ⟨rfl, activity, hcompilation, hproductions, hcalls⟩

/-! ## The slots of a store in memory -/

/-- For every store in memory that calls lead to, there are slots that callers lead to one after the other. -/
theorem Run.turns (h : Run workspace) : ∃ memory s, workspace.stores = [.memory memory] ∧ Slots.Turns s memory := by
  induction h with
  | start => exact ⟨{}, {}, rfl, .start⟩
  | add parse _ ih => exact ih
  | @call workspace number rule target context compilation hrun hcompile ih =>
      obtain ⟨memory, s, hstores, hturns⟩ := ih
      obtain ⟨store, hshares⟩ := hrun.shares
      obtain ⟨⟨compiler, used⟩, hentry, -⟩ := Option.map_eq_some_iff.mp hcompile
      obtain rfl : used = 0 := hshares.uses _ (List.mem_of_getElem? hentry)
      rw [compile?_eq hentry] at hcompile
      cases hcompile
      dsimp only
      cases hloaded : compiler.loaded? (Identifier.derive target.variant rule) with
      | some executor =>
          rw [Compiler.compile_of_loaded context (evaluate 0) workspace hloaded]
          exact ⟨memory, s, hstores, hturns⟩
      | none =>
          rw [Compiler.state_compile context (evaluate 0) workspace hloaded, evaluate_memory hstores]
          obtain ⟨s', hfinishes, -⟩ := hturns.keeps.finishes (Identifier.derive target.variant rule)
            fun _ => compiler.productionFor rule target context
          exact ⟨_, s', rfl, hturns.turn hfinishes⟩

theorem Run.turns_of_store (h : Run workspace) {memory : MemoryStore}
    (hstore : workspace.store? used = some (.memory memory)) : ∃ s, Slots.Turns s memory := by
  obtain ⟨memory', s, hstores, hturns⟩ := h.turns
  have hmem := List.mem_of_getElem? hstore
  rw [hstores] at hmem
  cases List.mem_singleton.mp hmem
  exact ⟨s, hturns⟩

theorem slots_of_error {memory : MemoryStore} (hstore : workspace.store? used = some (.memory memory))
    (hloaded : compiler.loaded? (Identifier.derive target.variant rule) = none)
    (herror : (compiler.compile (evaluate used) workspace rule target context).result = .error error)
    {s : Slots.State} (hturns : Slots.Turns s memory) :
    ∃ answer s', s.Finishes (Identifier.derive target.variant rule)
        (compiler.productionFor rule target context).result.toOption answer s' ∧
      s'.counter = s.counter ∧ ∀ key, s'.map.has key = s.map.has key := by
  have hother := Compiler.answer_of_error hloaded herror
  rw [evaluate_of_store hstore] at hother
  obtain ⟨s', hfinishes, hkeeps⟩ := hturns.keeps.finishes (Identifier.derive target.variant rule)
    fun _ => compiler.productionFor rule target context
  rw [MemoryStore.state_evaluate_of_other hother] at hkeeps
  refine ⟨_, s', hfinishes, hkeeps.counted.trans hturns.keeps.counted.symm, fun key => ?_⟩
  rw [hkeeps.has_eq, hturns.keeps.has_eq]

/-! ## Nothing is left behind -/

/-- After a call that fails, whatever was called before, the registries, the files, and the texts of all stores are as
they were, and so are the slots of a store in memory and its counter, if its callers take their turns. The context has
the same options and the names of the pair. If neither the compiler nor the store had anything for the pair, then the
error is that of the production, the rule was read and given to the target, and the same call again comes to the same,
with as much done for it. -/
theorem failed_compile {compilation : Compilation Workspace}
    (hcompiler : workspace.compilers[number]? = some (compiler, used)) (hstore : workspace.store? used = some store)
    (hwrites : store.Writes workspace.disk (Identifier.derive target.variant rule)
      (compiler.productionFor rule target context).result)
    (hcompile : workspace.compile? number rule target context = some compilation)
    (herror : compilation.result = .error error) :
    let identifier := Identifier.derive target.variant rule
    let production := compiler.productionFor rule target context
    compilation.state.compilers = workspace.compilers ∧ compilation.state.disk = workspace.disk ∧
    (∀ k old, workspace.store? k = some old → ∃ new, compilation.state.store? k = some new ∧
      (∀ key, new.get? compilation.state.disk key = old.get? workspace.disk key) ∧
      ∀ memory, old = .memory memory → new = .memory memory) ∧
    (∀ memory, store = .memory memory → (workspace.Run → ∃ s, Slots.Turns s memory) ∧
      ∀ s, Slots.Turns s memory → compiler.loaded? identifier = none →
        ∃ answer s', s.Finishes identifier production.result.toOption answer s' ∧ s'.counter = s.counter ∧
          ∀ key, s'.map.has key = s.map.has key) ∧
    compilation.context = { context with names := some (.ofIdentifier identifier) } ∧
    (compiler.loaded? identifier = none → store.Lacks workspace.disk identifier →
      production.result = .error error ∧ error.isProduced = true ∧
      compilation.activity.productions = 1 ∧ compilation.activity.targetCalls = (compiler.parse rule).isOk.toNat ∧
      compilation.state.compile? number rule target compilation.context = some compilation) := by
  have hresult : (compiler.compile (evaluate used) workspace rule target context).result = .error error := by
    obtain ⟨same, hsame, hresult⟩ := exists_compile? hcompiler rule target context
    rw [hcompile] at hsame
    cases hsame
    exact hresult.symm.trans herror
  have hresembles := resembles_compile hstore hwrites hresult
  have heq := eq_compile_of_compile? hcompiler hcompile (Compiler.compiler_compile_of_error hresult)
    hresembles.compilers
  have hagain := hcompile
  subst heq
  refine ⟨hresembles.compilers, hresembles.disk, fun _ _ => hresembles.texts, fun memory hmemory => ?_,
    Compiler.context_compile, fun hloaded hlacks => ?_⟩
  · subst hmemory
    exact ⟨fun hrun => hrun.turns_of_store hstore, fun s hturns hloaded => slots_of_error hstore hloaded hresult hturns⟩
  · obtain ⟨hproduced, activity, hcompilation, hproductions, hcalls⟩ :=
      compile_of_lacks hstore hwrites hloaded hlacks hresult
    refine ⟨hproduced, Compiler.isProduced_of_productionFor hproduced, ?_, ?_, ?_⟩
    · rw [hcompilation]
      exact hproductions.trans Compiler.productions_productionFor
    · rw [hcompilation]
      exact hcalls.trans Compiler.targetCalls_productionFor
    · have hstate : (compiler.compile (evaluate used) workspace rule target context).state = workspace := by
        rw [hcompilation]
      rw [Compiler.context_compile, hstate]
      exact hagain

/-- A target that refuses every rule. -/
def never : Target where
  variant := "never"
  compile _ _ := .error (.unsupported "never" "any rule")

/-- A compiler that uses a store on disk, beside a store in memory. -/
def onDisk : Workspace where
  stores := [.memory {}, .file { directory := ["units"] }]
  compilers := [({}, 1)]

theorem failed_compile_never : ∃ compilation, onDisk.compile? 0 "a = 1" never {} = some compilation ∧
    compilation.result = .error (.target (.unsupported "never" "any rule")) ∧
    compilation.state.compilers = onDisk.compilers ∧ compilation.state.disk = {} ∧
    compilation.activity.productions = 1 ∧ compilation.activity.targetCalls = 1 ∧
    compilation.state.compile? 0 "a = 1" never compilation.context = some compilation := by
  have hproduced : (Compiler.productionFor {} "a = 1" never {}).result =
      .error (.target (.unsupported "never" "any rule")) := rfl
  have hempty (key : String) : FileStore.get? { directory := ["units"] } {} key = none := by
    cases hget : FileStore.get? { directory := ["units"] } {} key with
    | none => rfl
    | some text =>
        obtain ⟨bytes, hread⟩ := FileStore.exists_read_of_get? hget
        obtain ⟨-, hentry⟩ := Disk.read_eq_ok_iff.1 hread
        simp [Disk.entry?] at hentry
  have hlacks : Store.Lacks (.file { directory := ["units"] }) onDisk.disk (Identifier.derive never.variant "a = 1") :=
    ⟨rfl, hempty _⟩
  have hstore : onDisk.store? 1 = some (.file { directory := ["units"] }) := rfl
  have hwrites : Store.Writes (.file { directory := ["units"] }) onDisk.disk (Identifier.derive never.variant "a = 1")
      (Compiler.productionFor {} "a = 1" never {}).result := by
    intro file text _ _ hok
    rw [hproduced] at hok
    cases hok
  obtain ⟨compilation, hcompile, hsame⟩ :=
    exists_compile? (show onDisk.compilers[0]? = some ({}, 1) from rfl) "a = 1" never {}
  have hresult : compilation.result = .error (.target (.unsupported "never" "any rule")) := by
    have hanswer := Store.result_evaluate_of_lacks (fun _ => Compiler.productionFor {} "a = 1" never {}) hlacks hwrites
    rw [hsame, Compiler.result_compile {} (evaluate 1) onDisk rfl, evaluate_of_store hstore]
    simp only [hanswer, hproduced, Except.bind]
  obtain ⟨hcompilers, hdisk, -, -, -, hlacking⟩ := failed_compile rfl hstore hwrites hcompile hresult
  obtain ⟨-, -, hproductions, hcalls, hagain⟩ := hlacking rfl hlacks
  exact ⟨compilation, hcompile, hresult, hcompilers, hdisk, hproductions, hcalls, hagain⟩

end Workspace

end CompiledRules
