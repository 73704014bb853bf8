import CompiledRules.Proofs.Workspace
import Mathlib

/-!
# A shared store changes no answer

Compilers that share a store in memory, and read rules alike, answer every call as a new compiler with a store of its
own would, if calls for one pair of variant and rule ask for the same and no two pairs have one identifier. Every text
in the store and every registered executor is what some call of the history makes for its pair, on its own.
-/

namespace CompiledRules

namespace MemoryStore

variable {store : MemoryStore} {identifier : String} {produce : Unit → Production}

theorem get?_evaluate {key text : String} (h : store.get? key = some text) :
    (store.evaluate identifier produce).state.get? key = some text := by
  cases hget : store.get? identifier with
  | some found => rw [evaluate_of_found hget]; exact h
  | none =>
      simp only [evaluate, hget]
      split
      · simp only [get?, Table.find?_insert]
        split
        · subst_vars
          rw [hget] at h
          cases h
        · exact h
      · exact h

end MemoryStore

namespace Workspace

/-! ## Calls and histories -/

/-- A call of the compiler with the given number. -/
structure Call where
  number : Nat
  rule : String
  target : Target
  context : Context

namespace Call

/-- The variant and the rule that a call is for. -/
def pair (call : Call) : String × String := (call.target.variant, call.rule)

/-- The identifier that a call is for. -/
def identifier (call : Call) : String := Identifier.derive call.target.variant call.rule

/-- What the call comes to on a new compiler with a new store in memory. -/
def alone (parse : String → Except RuleError Expr) (call : Call) : Except CompileError Executor :=
  (Compiler.compile { parse } MemoryStore.evaluate {} call.rule call.target call.context).result

end Call

/-- What the compiler with the number of the call comes to. -/
def answer? (workspace : Workspace) (call : Call) : Option (Compilation Workspace) :=
  workspace.compile? call.number call.rule call.target call.context

/-- The calls so far, the last one first, and the workspace that they lead to. All compilers read rules alike and use
one store in memory, which was empty at first. -/
inductive History (parse : String → Except RuleError Expr) : List Call → Workspace → Prop where
  | start : History parse [] { stores := [.memory {}] }
  | add {calls : List Call} {workspace : Workspace} :
      History parse calls workspace → History parse calls (workspace.addCompiler { parse } 0).2
  | call {calls : List Call} {workspace : Workspace} {call : Call} {compilation : Compilation Workspace} :
      History parse calls workspace → workspace.answer? call = some compilation →
      History parse (call :: calls) compilation.state

/-- Calls for one pair have targets and options alike, and no two pairs have one identifier. -/
structure Consistent (calls : List Call) : Prop where
  alike : ∀ a ∈ calls, ∀ b ∈ calls, a.pair = b.pair →
    a.target.compile = b.target.compile ∧ a.context.options = b.context.options
  apart : ∀ a ∈ calls, ∀ b ∈ calls, a.identifier = b.identifier → a.pair = b.pair

/-- Texts that were stored and executors that were registered before are so after. -/
structure Keeps (before after : Workspace) : Prop where
  stored : ∀ number store, before.store? number = some (.memory store) →
    ∃ store', after.store? number = some (.memory store') ∧
      ∀ identifier text, store.get? identifier = some text → store'.get? identifier = some text
  registered : ∀ number compiler, before.compiler? number = some compiler →
    ∃ compiler', after.compiler? number = some compiler' ∧
      ∀ identifier executor, compiler.loaded? identifier = some executor →
        compiler'.loaded? identifier = some executor

variable {parse : String → Except RuleError Expr} {calls : List Call} {call : Call} {workspace : Workspace}
  {store : MemoryStore} {number : Nat} {compiler : Compiler} {identifier text : String} {executor : Executor}

/-! ## What a call makes on its own -/

namespace Call

/-- The call has its unit produced under the identifier. -/
structure Makes (parse : String → Except RuleError Expr) (call : Call) (identifier text : String) : Prop where
  names : call.identifier = identifier
  produces : (Compiler.productionFor { parse } call.rule call.target call.context).result = .ok text

theorem alone_eq (call : Call) : call.alone parse =
    (Compiler.productionFor { parse } call.rule call.target call.context).result.bind
      fun source => Compiler.accept source call.target.variant call.rule := by
  have hmissing : MemoryStore.get? {} (Identifier.derive call.target.variant call.rule) = none := rfl
  have hloaded : Compiler.loaded? { parse } (Identifier.derive call.target.variant call.rule) = none := rfl
  rw [alone, Compiler.result_compile call.context MemoryStore.evaluate {} hloaded,
    (MemoryStore.evaluate_of_missing hmissing _).1]

theorem Makes.alone_eq_ok (h : call.Makes parse identifier text) (hload : Executor.load text = .ok executor) :
    call.alone parse = .ok executor ∧ executor.header.variant = call.target.variant ∧
      executor.header.rule = call.rule := by
  obtain ⟨made, haccept, hvariant, hrule, -⟩ := Compiler.accept_of_productionFor h.produces
  have hmade := Compiler.load_of_accept haccept
  rw [hload] at hmade
  cases hmade
  refine ⟨?_, hvariant, hrule⟩
  rw [call.alone_eq, h.produces]
  exact haccept

theorem production_congr {other : Call} (hpair : call.pair = other.pair)
    (hcompile : call.target.compile = other.target.compile)
    (hoptions : call.context.options = other.context.options) :
    Compiler.productionFor { parse } call.rule call.target call.context =
      Compiler.productionFor { parse } other.rule other.target other.context := by
  obtain ⟨hvariant, hrule⟩ := Prod.mk.inj hpair
  have htarget : call.target = other.target := by
    obtain ⟨number, rule, ⟨variant, compile⟩, context⟩ := call
    cases hvariant
    cases hcompile
    rfl
  -- The names in the context are written anew, so only the options matter.
  simp only [Compiler.productionFor, Context.identify, htarget, hrule, hoptions]

end Call

theorem Consistent.makes (h : Consistent (call :: calls)) {other : Call} (hother : other ∈ call :: calls)
    (hmakes : other.Makes parse call.identifier text) : call.Makes parse call.identifier text := by
  have hpair := h.apart call List.mem_cons_self other hother hmakes.names.symm
  obtain ⟨hcompile, hoptions⟩ := h.alike call List.mem_cons_self other hother hpair
  exact ⟨rfl, by rw [Call.production_congr hpair hcompile hoptions]; exact hmakes.produces⟩

theorem Consistent.of_subset {fewer : List Call} (h : Consistent calls) (hsubset : fewer ⊆ calls) :
    Consistent fewer :=
  ⟨fun a ha b hb => h.alike a (hsubset ha) b (hsubset hb), fun a ha b hb => h.apart a (hsubset ha) b (hsubset hb)⟩

/-! ## What is kept comes from a call -/

/-- Every text in the store and every registered executor is what a call of the history makes on its own. -/
structure Recalls (parse : String → Except RuleError Expr) (calls : List Call) (workspace : Workspace)
    (store : MemoryStore) : Prop where
  shares : workspace.Shares store
  parsers : ∀ entry ∈ workspace.compilers, entry.1.parse = parse
  texts : ∀ identifier text, store.get? identifier = some text → ∃ call ∈ calls, call.Makes parse identifier text
  registries : ∀ entry ∈ workspace.compilers, ∀ identifier executor, entry.1.loaded? identifier = some executor →
    ∃ call ∈ calls, ∃ text, call.Makes parse identifier text ∧ Executor.load text = .ok executor

/-- The answer of the store to a call. -/
abbrev reply (store : MemoryStore) (compiler : Compiler) (call : Call) : Evaluation MemoryStore :=
  store.evaluate call.identifier fun _ => compiler.productionFor call.rule call.target call.context

/-- The store after a call. An executor that is registered leaves it as it is. -/
def storeAfter (store : MemoryStore) (compiler : Compiler) (call : Call) : MemoryStore :=
  if (compiler.loaded? call.identifier).isSome then store else (reply store compiler call).state

theorem get?_storeAfter (h : store.get? identifier = some text) :
    (storeAfter store compiler call).get? identifier = some text := by
  unfold storeAfter
  split
  · exact h
  · exact MemoryStore.get?_evaluate h

/-- The call as the compiler with its number carries it out. -/
abbrev compilationOf (workspace : Workspace) (compiler : Compiler) (call : Call) : Compilation Workspace :=
  compiler.compile (evaluate 0) workspace call.rule call.target call.context

theorem state_compilationOf (h : workspace.stores = [.memory store]) :
    (workspace.compilationOf compiler call).state =
      { workspace with stores := [.memory (storeAfter store compiler call)] } := by
  unfold storeAfter
  cases hloaded : compiler.loaded? call.identifier with
  | some executor =>
      rw [compilationOf, Compiler.compile_of_loaded call.context (evaluate 0) workspace hloaded]
      simp [← h]
  | none =>
      rw [Compiler.state_compile call.context (evaluate 0) workspace hloaded, evaluate_memory h]
      rfl

theorem result_compilationOf (h : workspace.stores = [.memory store])
    (hloaded : compiler.loaded? call.identifier = none) :
    (workspace.compilationOf compiler call).result = (reply store compiler call).result.bind
      fun source => Compiler.accept source call.target.variant call.rule := by
  rw [Compiler.result_compile call.context (evaluate 0) workspace hloaded, evaluate_memory h]
  rfl

theorem answer?_eq (h : workspace.Shares store) (hcompiler : workspace.compiler? call.number = some compiler) :
    workspace.answer? call = some { workspace.compilationOf compiler call with
      state := { workspace with
        stores := [.memory (storeAfter store compiler call)]
        compilers := workspace.compilers.set call.number ((workspace.compilationOf compiler call).compiler, 0) } } := by
  rw [answer?, compile?_eq (h.getElem?_compilers hcompiler)]
  dsimp only
  rw [state_compilationOf h.stores]

theorem exists_compiler {compilation : Compilation Workspace} (h : workspace.answer? call = some compilation) :
    ∃ compiler, workspace.compiler? call.number = some compiler := by
  obtain ⟨entry, hentry, -⟩ := Option.map_eq_some_iff.mp h
  exact ⟨entry.1, by rw [compiler?, hentry]; rfl⟩

namespace Recalls

theorem reply_makes (h : Recalls parse calls workspace store) (hparse : compiler.parse = parse) (call : Call) :
    (∀ identifier text, (reply store compiler call).state.get? identifier = some text →
        ∃ other ∈ call :: calls, other.Makes parse identifier text) ∧
      ∀ text, (reply store compiler call).result = .ok text →
        ∃ other ∈ call :: calls, other.Makes parse call.identifier text := by
  refine MemoryStore.kept_evaluate (fun identifier text hget => ?_) fun text hproduced => ?_
  · obtain ⟨other, hother, hmakes⟩ := h.texts identifier text hget
    exact ⟨other, List.mem_cons_of_mem _ hother, hmakes⟩
  · refine ⟨call, List.mem_cons_self, rfl, ?_⟩
    subst hparse
    exact hproduced

theorem start : Recalls parse [] { stores := [.memory {}] } {} := ⟨.start, nofun, nofun, nofun⟩

theorem add (h : Recalls parse calls workspace store) :
    Recalls parse calls (workspace.addCompiler { parse } 0).2 store := by
  refine ⟨h.shares.addCompiler parse, fun entry hentry => ?_, h.texts, fun entry hentry => ?_⟩
  · rcases List.mem_append.mp hentry with hentry | hentry
    · exact h.parsers entry hentry
    · rw [List.mem_singleton.mp hentry]
  · rcases List.mem_append.mp hentry with hentry | hentry
    · exact h.registries entry hentry
    · rw [List.mem_singleton.mp hentry]
      nofun

theorem mem_compilers (h : Recalls parse calls workspace store)
    (hcompiler : workspace.compiler? number = some compiler) : (compiler, 0) ∈ workspace.compilers :=
  List.mem_of_getElem? (h.shares.getElem?_compilers hcompiler)

/-- What a call leaves behind comes from it or from an earlier one. -/
theorem answer? (h : Recalls parse calls workspace store) (hcompiler : workspace.compiler? call.number = some compiler)
    {compilation : Compilation Workspace} (hcall : workspace.answer? call = some compilation) :
    Recalls parse (call :: calls) compilation.state (storeAfter store compiler call) := by
  have hmem := h.mem_compilers hcompiler
  have hparse := h.parsers _ hmem
  obtain ⟨hstate, hresult⟩ := h.reply_makes hparse call
  obtain ⟨store', hshares⟩ := h.shares.compile? hcall
  rw [answer?_eq h.shares hcompiler] at hcall
  cases hcall
  obtain rfl : store' = storeAfter store compiler call := by
    have := hshares.stores
    simpa using this.symm
  refine ⟨hshares, fun entry hentry => ?_, fun identifier text hget => ?_, fun entry hentry => ?_⟩
  · rcases List.mem_or_eq_of_mem_set hentry with hentry | rfl
    · exact h.parsers entry hentry
    · exact Compiler.parse_compile.trans hparse
  · unfold storeAfter at hget
    split at hget
    · obtain ⟨other, hother, hmakes⟩ := h.texts identifier text hget
      exact ⟨other, List.mem_cons_of_mem _ hother, hmakes⟩
    · exact hstate identifier text hget
  · have earlier : ∀ entry ∈ workspace.compilers, ∀ identifier executor, entry.1.loaded? identifier = some executor →
        ∃ other ∈ call :: calls, ∃ text, other.Makes parse identifier text ∧ Executor.load text = .ok executor := by
      intro entry hentry identifier executor hloaded
      obtain ⟨other, hother, hmakes⟩ := h.registries entry hentry identifier executor hloaded
      exact ⟨other, List.mem_cons_of_mem _ hother, hmakes⟩
    rcases List.mem_or_eq_of_mem_set hentry with hentry | rfl
    · exact earlier entry hentry
    · refine Compiler.registered_compile call.context (evaluate 0) workspace (earlier _ hmem) ?_
      intro source executor hsource haccept
      rw [evaluate_memory h.shares.stores] at hsource
      obtain ⟨other, hother, hmakes⟩ := hresult source hsource
      exact ⟨other, hother, source, hmakes, Compiler.load_of_accept haccept⟩

end Recalls

theorem History.recalls (h : History parse calls workspace) : ∃ store, Recalls parse calls workspace store := by
  induction h with
  | start => exact ⟨{}, .start⟩
  | add _ ih =>
      obtain ⟨store, hrecalls⟩ := ih
      exact ⟨store, hrecalls.add⟩
  | call _ hcall ih =>
      obtain ⟨store, hrecalls⟩ := ih
      obtain ⟨compiler, hcompiler⟩ := exists_compiler hcall
      exact ⟨_, hrecalls.answer? hcompiler hcall⟩

/-! ## One more call -/

namespace Recalls

/-- The registry, the store and a new production agree on what a consistent call comes to. -/
theorem result_eq_alone (h : Recalls parse calls workspace store)
    (hcompiler : workspace.compiler? call.number = some compiler) (hconsistent : Consistent (call :: calls)) :
    (workspace.compilationOf compiler call).result = call.alone parse := by
  have hmem := h.mem_compilers hcompiler
  cases hloaded : compiler.loaded? call.identifier with
  | some executor =>
      obtain ⟨other, hother, text, hmakes, hload⟩ := h.registries _ hmem _ _ hloaded
      obtain ⟨halone, hvariant, hrule⟩ :=
        (hconsistent.makes (List.mem_cons_of_mem _ hother) hmakes).alone_eq_ok hload
      rw [compilationOf, Compiler.compile_of_loaded call.context (evaluate 0) workspace hloaded, halone, ← hvariant,
        ← hrule, Compiler.checkOwner_eq_ok]
      rfl
  | none =>
      rw [result_compilationOf h.shares.stores hloaded]
      obtain ⟨-, hresult⟩ := h.reply_makes (h.parsers _ hmem) call
      cases hreply : (reply store compiler call).result with
      | ok text =>
          obtain ⟨other, hother, hmakes⟩ := hresult text hreply
          rw [call.alone_eq, (hconsistent.makes hother hmakes).produces]
      | error error =>
          -- The store holds nothing, so the error is that of the production.
          cases hget : store.get? call.identifier with
          | some text =>
              rw [reply, MemoryStore.evaluate_of_found hget] at hreply
              cases hreply
          | none =>
              have hproduced := (MemoryStore.evaluate_of_missing hget
                fun _ => compiler.productionFor call.rule call.target call.context).1
              rw [← hreply, reply, hproduced, call.alone_eq, ← h.parsers _ hmem]
              rfl

end Recalls

theorem storeAfter_of_error (h : workspace.stores = [.memory store]) {error : CompileError}
    (herror : (workspace.compilationOf compiler call).result = .error error) :
    storeAfter store compiler call = store := by
  unfold storeAfter
  split
  · rfl
  · rename_i hnone
    have hloaded : compiler.loaded? call.identifier = none := by simpa using hnone
    have hother := Compiler.answer_of_error hloaded herror
    rw [evaluate_memory h] at hother
    exact MemoryStore.state_evaluate_of_other hother

/-- A call that fails leaves the workspace as it was. -/
theorem state_of_error (h : workspace.Shares store) {compilation : Compilation Workspace}
    (hcall : workspace.answer? call = some compilation) {error : CompileError}
    (herror : compilation.result = .error error) : compilation.state = workspace := by
  obtain ⟨compiler, hcompiler⟩ := exists_compiler hcall
  obtain ⟨hlt, hentry⟩ := List.getElem?_eq_some_iff.mp (h.getElem?_compilers hcompiler)
  rw [answer?_eq h hcompiler] at hcall
  cases hcall
  dsimp only at herror ⊢
  rw [storeAfter_of_error h.stores herror, Compiler.compiler_compile_of_error herror, ← h.stores, ← hentry,
    List.set_getElem_self]

theorem keeps_answer? (h : workspace.Shares store) (hcompiler : workspace.compiler? call.number = some compiler)
    {compilation : Compilation Workspace} (hcall : workspace.answer? call = some compilation) :
    workspace.Keeps compilation.state := by
  rw [answer?_eq h hcompiler] at hcall
  cases hcall
  constructor
  · intro number kept hkept
    simp only [store?, h.stores] at hkept ⊢
    cases number with
    | zero =>
        cases hkept
        exact ⟨_, rfl, fun identifier text hget => get?_storeAfter hget⟩
    | succ number => cases hkept
  · intro number other hother
    obtain ⟨entry, hentry, rfl⟩ := Option.map_eq_some_iff.mp hother
    simp only [compiler?]
    by_cases hnumber : call.number = number
    · subst hnumber
      rw [hcompiler] at hother
      cases hother
      have hlt : call.number < workspace.compilers.length := (List.getElem?_eq_some_iff.mp hentry).1
      exact ⟨_, by rw [List.getElem?_set_self hlt]; rfl, fun identifier executor => Compiler.loaded?_compile⟩
    · exact ⟨entry.1, by rw [List.getElem?_set_ne hnumber, hentry]; rfl, fun _ _ hloaded => hloaded⟩

/-- After any history of compilers that read rules alike and share a store in memory, a call that is consistent with the
history comes to what it comes to on a new compiler with a store of its own, be it an executor or an error. If it fails,
it leaves everything as it was; and no call replaces a text or an executor. -/
theorem compile_transparent (h : History parse calls workspace) (hconsistent : Consistent (call :: calls))
    (hcompiler : workspace.compiler? call.number = some compiler) :
    ∃ compilation, workspace.compile? call.number call.rule call.target call.context = some compilation ∧
      compilation.result = call.alone parse ∧
      (∀ error, compilation.result = .error error → compilation.state = workspace) ∧
      workspace.Keeps compilation.state := by
  obtain ⟨store, hrecalls⟩ := h.recalls
  have hcall := answer?_eq hrecalls.shares hcompiler
  exact ⟨_, hcall, hrecalls.result_eq_alone hcompiler hconsistent,
    fun _ herror => state_of_error hrecalls.shares hcall herror, keeps_answer? hrecalls.shares hcompiler hcall⟩

/-- A call for a rule whose target accepts everything. -/
def alwaysCall (number : Nat) (rule : String) : Call := ⟨number, rule, always, {}⟩

theorem compile_transparent_twoCompilers : ∃ workspace compilation,
    History Expr.parse [alwaysCall 0 "a = 1", alwaysCall 0 "a ="] workspace ∧
      Consistent [alwaysCall 1 "a = 1", alwaysCall 0 "a = 1", alwaysCall 0 "a ="] ∧
      workspace.compile? 1 "a = 1" always {} = some compilation ∧
      compilation.result = (alwaysCall 1 "a = 1").alone Expr.parse := by
  have hstart : History Expr.parse [] twoCompilers := .add (.add .start)
  have hapart : Identifier.derive "always" "a = 1" ≠ Identifier.derive "always" "a =" := by decide +kernel
  have hconsistent : Consistent [alwaysCall 1 "a = 1", alwaysCall 0 "a = 1", alwaysCall 0 "a ="] := by
    constructor
    · simp [alwaysCall]
    · simp [alwaysCall, Call.identifier, Call.pair, always, hapart, hapart.symm]
  -- The first call fails, the second one fills the store, and the third one is another compiler's.
  have hone : Consistent [alwaysCall 0 "a ="] := hconsistent.of_subset (by simp)
  have htwo : Consistent [alwaysCall 0 "a = 1", alwaysCall 0 "a ="] := hconsistent.of_subset (by simp)
  obtain ⟨failed, hfailed, -, -, hkept⟩ := compile_transparent hstart hone rfl
  obtain ⟨first, hfirst, -⟩ := hkept.registered 0 _ rfl
  obtain ⟨second, hsecond, -⟩ := hkept.registered 1 _ rfl
  have hhistory := hstart.call hfailed
  obtain ⟨filled, hfilled, -, -, hkept⟩ := compile_transparent hhistory htwo hfirst
  obtain ⟨third, hthird, -⟩ := hkept.registered 1 _ hsecond
  have hhistory := hhistory.call hfilled
  obtain ⟨compilation, hcompile, hresult, -⟩ := compile_transparent hhistory hconsistent hthird
  exact ⟨filled.state, compilation, hhistory, hconsistent, hcompile, hresult⟩

end Workspace

end CompiledRules
