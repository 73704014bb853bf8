import CompiledRules.Proofs.Compiler.Compile
import CompiledRules.Proofs.Workspace
import Mathlib

/-!
# The executor that was asked for

Whatever texts an evaluator answers with, an executor that a compiler returns is of the variant and rule that were asked
for. Its names follow from its own identifier. That this is the one of the pair is up to the evaluator: a compiler takes
a unit of the pair whatever identifier it is named for.
-/

namespace CompiledRules

namespace Executor

theorem of_identifierOf? {name identifier : String} (h : identifierOf? name = some identifier) :
    name = executorName identifier ∧ Identifier.isIdentifier identifier = true := by
  simp only [identifierOf?, Option.ite_none_right_eq_some, Bool.and_eq_true] at h
  obtain ⟨⟨hstart, hid⟩, h⟩ := h
  cases h
  obtain ⟨rest, hrest⟩ := List.isPrefixOf_iff_prefix.mp hstart
  refine ⟨String.toList_injective ?_, hid⟩
  rw [toList_executorName, String.toList_ofList, ← hrest, List.drop_left]

/-- A unit that loads is named for the identifier that its executor has. -/
theorem names_of_load {source : String} {executor : Executor} (h : load source = .ok executor) :
    executor.header = .ofNames (.ofIdentifier executor.header.identifier) executor.header.variant executor.header.rule ∧
      Identifier.isIdentifier executor.header.identifier = true ∧ executor.source = source := by
  obtain ⟨hsource, unit, -, hloaded⟩ := loaded_of_load h
  obtain ⟨hname, hid⟩ := of_identifierOf? hloaded.identifier
  refine ⟨?_, hid, hsource⟩
  rw [hloaded.header, hname]
  rfl

end Executor

/-- Should the text load, then to an executor with the identifier. -/
def NamedFor (identifier text : String) : Prop :=
  ∀ executor, Executor.load text = .ok executor → executor.header.identifier = identifier

namespace Compiler

/-- If the call asks the evaluator at all, the answer is such a text for the identifier. -/
def Hears (Answers : String → String → Prop) {σ : Type} (compiler : Compiler) (evaluate : Evaluator σ) (state : σ)
    (rule : String) (target : Target) (context : Context) : Prop :=
  let identifier := Identifier.derive target.variant rule
  compiler.loaded? identifier = none → ∀ text,
    (evaluate state identifier fun _ => compiler.productionFor rule target context).result = .ok text →
      Answers identifier text

/-- The compilers that calls lead to, each call with any evaluator that gives it such an answer. -/
inductive Called (Answers : String → String → Prop) : Compiler → Prop where
  | start (parse : String → Except RuleError Expr) : Called Answers { parse }
  | call {compiler : Compiler} {σ : Type} (evaluate : Evaluator σ) (state : σ) (rule : String) (target : Target)
      (context : Context) : Called Answers compiler → compiler.Hears Answers evaluate state rule target context →
      Called Answers (compiler.compile evaluate state rule target context).compiler

variable {Answers : String → String → Prop} {compiler : Compiler}

/-- The executor is what a text that was answered for the identifier loads to. -/
def Answered (Answers : String → String → Prop) (identifier : String) (executor : Executor) : Prop :=
  Executor.load executor.source = .ok executor ∧ Answers identifier executor.source

theorem answered_of_accept {identifier source variant rule : String} {executor : Executor}
    (hanswer : Answers identifier source) (h : accept source variant rule = .ok executor) :
    Answered Answers identifier executor := by
  have hload := load_of_accept h
  obtain ⟨-, -, rfl⟩ := Executor.names_of_load hload
  exact ⟨hload, hanswer⟩

theorem Called.answered (h : compiler.Called Answers) (identifier : String) (executor : Executor)
    (hloaded : compiler.loaded? identifier = some executor) : Answered Answers identifier executor := by
  induction h generalizing identifier executor with
  | start => cases hloaded
  | @call compiler σ evaluate state rule target context _ hhears ih =>
      cases hfound : compiler.loaded? (Identifier.derive target.variant rule) with
      | some found =>
          rw [compile_of_loaded context evaluate state hfound] at hloaded
          exact ih _ _ hloaded
      | none =>
          -- What is new in the registry was accepted from an answer for the very identifier.
          exact registered_compile context evaluate state ih
            (fun source _ hsource haccept => answered_of_accept (hhears hfound source hsource) haccept) _ _ hloaded

theorem owner_of_compile {σ : Type} {evaluate : Evaluator σ} {state : σ} {rule : String} {target : Target}
    {context : Context} {executor : Executor}
    (h : (compiler.compile evaluate state rule target context).result = .ok executor) :
    executor.header.variant = target.variant ∧ executor.header.rule = rule := by
  cases hloaded : compiler.loaded? (Identifier.derive target.variant rule) with
  | some found =>
      rw [compile_of_loaded context evaluate state hloaded] at h
      unfold checkOwner at h
      split at h
      case isTrue howner =>
        cases h
        exact howner
      case isFalse => cases h
  | none =>
      rw [result_compile context evaluate state hloaded] at h
      obtain ⟨source, -, haccept⟩ := Except.bind_eq_ok_iff.mp h
      exact owner_of_accept haccept

/-- What is returned is registered from then on. -/
theorem loaded?_of_compile {σ : Type} {evaluate : Evaluator σ} {state : σ} {rule : String} {target : Target}
    {context : Context} {executor : Executor}
    (h : (compiler.compile evaluate state rule target context).result = .ok executor) :
    (compiler.compile evaluate state rule target context).compiler.loaded? (Identifier.derive target.variant rule) =
      some executor := by
  cases hloaded : compiler.loaded? (Identifier.derive target.variant rule) with
  | some found =>
      rw [compile_of_loaded context evaluate state hloaded] at h ⊢
      cases howner : checkOwner found target.variant rule with
      | error e =>
          rw [howner] at h
          cases h
      | ok owned =>
          rw [howner] at h
          cases h
          exact hloaded
  | none =>
      rw [compile_of_not_loaded context evaluate state hloaded] at h ⊢
      dsimp only at h ⊢
      split
      · rename_i hresult
        simp only [hresult] at h
        cases h
      · rename_i hresult
        simp only [hresult] at h
        cases h
        rw [loaded?, Table.find?_insert, if_pos rfl]

theorem namedFor_productionFor {rule text : String} {target : Target} {context : Context}
    (h : (compiler.productionFor rule target context).result = .ok text) :
    NamedFor (Identifier.derive target.variant rule) text := by
  intro executor hload
  obtain ⟨made, hmade, hbelongs, -⟩ := load_of_productionFor h
  rw [hmade] at hload
  cases hload
  exact hbelongs.carries

/-- Whatever the evaluators answer and whatever was called before, a returned executor is of the variant and rule that
were asked for, its names follow from its identifier, the context has the names of the identifier of the pair, and a
text that was answered for this identifier loads to the executor. If the texts answered for the identifier are named
for it, as those that the compiler itself produces are, then the executor has the identifier and the names in the
context. -/
theorem executor_asked {Answers : String → String → Prop} {compiler : Compiler} (hcalled : compiler.Called Answers)
    {σ : Type} (evaluate : Evaluator σ) (state : σ) (rule : String) (target : Target) (context : Context)
    (hhears : compiler.Hears Answers evaluate state rule target context)
    {executor : Executor} (h : (compiler.compile evaluate state rule target context).result = .ok executor) :
    let identifier := Identifier.derive target.variant rule
    let written := (compiler.compile evaluate state rule target context).context
    executor.header.rule = rule ∧ executor.header.variant = target.variant ∧
      executor.header.name = executorName executor.header.identifier ∧
      executor.header.path = executorPath executor.header.identifier ∧
      written = context.identify (.ofIdentifier identifier) ∧
      Executor.load executor.source = .ok executor ∧ Answers identifier executor.source ∧
      (∀ text, (compiler.productionFor rule target context).result = .ok text → NamedFor identifier text) ∧
      ((∀ text, Answers identifier text → NamedFor identifier text) → executor.header.identifier = identifier ∧
        written.names = some ⟨executor.header.identifier, executor.header.name, executor.header.path⟩) := by
  obtain ⟨hvariant, hrule⟩ := owner_of_compile h
  have hcalled' := hcalled.call evaluate state rule target context hhears
  obtain ⟨hload, hanswer⟩ := hcalled'.answered _ _ (loaded?_of_compile h)
  obtain ⟨hheader, -, -⟩ := Executor.names_of_load hload
  have hname : executor.header.name = executorName executor.header.identifier := congrArg Header.name hheader
  have hpath : executor.header.path = executorPath executor.header.identifier := congrArg Header.path hheader
  refine ⟨hrule, hvariant, hname, hpath, context_compile, hload, hanswer, fun text => namedFor_productionFor,
    fun hnamed => ?_⟩
  have hid := hnamed _ hanswer executor hload
  refine ⟨hid, ?_⟩
  rw [context_compile, hname, hpath, hid]
  rfl

/-! ## A unit with another name -/

/-- A unit for the pair that is named for another identifier. -/
def foreignUnit : String :=
  String.ofList (Assembly.unitText
    (.ofNames (.ofIdentifier "00000000000000000000000000000000") "always" "a = 1") { body := "true" })

theorem accept_foreignUnit : ∃ executor, accept foreignUnit "always" "a = 1" = .ok executor ∧
    executor.header = .ofNames (.ofIdentifier "00000000000000000000000000000000") "always" "a = 1" :=
  ⟨_, accept_unitText (by decide) (show GeneratedCode.Writable { body := "true" } from ⟨nofun, nofun, nofun⟩) nofun
    (show Node.ofText "true" = .ok (.literal (.bool true)) from rfl) nofun rfl, rfl⟩

/-- A new compiler whose evaluator answers with that unit returns its executor, which has neither the identifier of the
pair nor the names in the context. -/
theorem compile_foreignUnit : ∃ executor,
    let compilation := Compiler.compile {} Store.evaluate (.fixed foreignUnit, {}) "a = 1" Workspace.always {}
    compilation.result = .ok executor ∧ executor.header.identifier ≠ Identifier.derive "always" "a = 1" ∧
      ∃ names, compilation.context.names = some names ∧ executor.header.name ≠ names.name ∧
        executor.header.path ≠ names.path := by
  obtain ⟨executor, haccept, hheader⟩ := accept_foreignUnit
  refine ⟨executor, ?_, ?_, .ofIdentifier (Identifier.derive "always" "a = 1"), ?_, ?_, ?_⟩
  · have hfixed (produce : Unit → Production) : (Store.evaluate (.fixed foreignUnit, {})
        (Identifier.derive Workspace.always.variant "a = 1") produce).result = .ok foreignUnit := rfl
    have hvariant : Workspace.always.variant = "always" := rfl
    rw [result_compile _ _ _ rfl, hfixed, hvariant, Except.bind, haccept]
  · rw [hheader]
    decide +kernel
  · rw [context_compile]
    rfl
  · rw [hheader]
    decide +kernel
  · rw [hheader]
    decide +kernel

theorem hears_memory (rule : String) (target : Target) (context : Context) :
    Hears NamedFor {} MemoryStore.evaluate {} rule target context := by
  intro hnone text htext
  rw [(MemoryStore.evaluate_of_missing rfl _).1] at htext
  exact namedFor_productionFor htext

/-- Once the executor of the pair is registered, the same evaluator is not asked. -/
theorem executor_asked_registered : ∃ executor,
    let first := Compiler.compile {} MemoryStore.evaluate {} "a = 1" Workspace.always {}
    let second := first.compiler.compile Store.evaluate (.fixed foreignUnit, {}) "a = 1" Workspace.always {}
    first.compiler.Called NamedFor ∧
      first.compiler.Hears NamedFor Store.evaluate (.fixed foreignUnit, {}) "a = 1" Workspace.always {} ∧
      second.result = .ok executor ∧ executor.header.identifier = Identifier.derive "always" "a = 1" := by
  obtain ⟨source, hsource⟩ := Workspace.productionFor_always {}
  obtain ⟨executor, haccept, hvariant, hrule, -⟩ := accept_of_productionFor hsource
  have hfirst : (Compiler.compile {} MemoryStore.evaluate {} "a = 1" Workspace.always {}).result = .ok executor := by
    rw [result_compile _ _ _ rfl, (MemoryStore.evaluate_of_missing rfl _).1, hsource]
    exact haccept
  have hloaded := loaded?_of_compile hfirst
  have hcalled := (Called.start Expr.parse).call MemoryStore.evaluate {} "a = 1" Workspace.always {}
    (hears_memory _ _ _)
  have hhears : Hears NamedFor (Compiler.compile {} MemoryStore.evaluate {} "a = 1" Workspace.always {}).compiler
      Store.evaluate (.fixed foreignUnit, {}) "a = 1" Workspace.always {} := by
    intro hnone
    rw [hloaded] at hnone
    cases hnone
  have hsecond : ((Compiler.compile {} MemoryStore.evaluate {} "a = 1" Workspace.always {}).compiler.compile
      Store.evaluate (.fixed foreignUnit, {}) "a = 1" Workspace.always {}).result = .ok executor := by
    rw [compile_of_loaded _ _ _ hloaded, ← hvariant, ← hrule, checkOwner_eq_ok]
    rfl
  obtain ⟨-, -, -, -, -, -, -, -, hnamed⟩ := executor_asked hcalled _ _ _ _ _ hhears hsecond
  exact ⟨executor, hcalled, hhears, hsecond, (hnamed fun _ h => h).1⟩

end Compiler

end CompiledRules
