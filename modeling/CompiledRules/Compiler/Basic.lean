import CompiledRules.Store.Evaluator

/-!
# Compilers

A compiler reads a rule, lets the target compile it, has the unit kept by an evaluator, and registers the
executor. An executor that is registered stays registered.
-/

namespace CompiledRules

/-- How rules are read, and the executors that are registered by identifier. -/
structure Compiler where
  parse : String → Except RuleError Expr := Expr.parse
  registry : Table Executor := .empty

/-- What a call of a compiler came to. -/
structure Compilation (σ : Type) where
  result : Except CompileError Executor
  compiler : Compiler
  state : σ
  context : Context
  activity : Activity

namespace Compiler

variable {σ : Type}

/-- The number of registered executors. -/
def size (compiler : Compiler) : Nat := compiler.registry.size

def isEmpty (compiler : Compiler) : Bool := compiler.size == 0

/-- The executor that is registered under an identifier. -/
def loaded? (compiler : Compiler) (identifier : String) : Option Executor := compiler.registry.find? identifier

/-- The compiler as a message shows it. -/
def describe (compiler : Compiler) : String := "Compiler \x7b loaded: " ++ toString compiler.size ++ ", .. \x7d"

/-- Accepts the executor of the given variant and rule only. -/
def checkOwner (executor : Executor) (variant rule : String) : Except CompileError Unit :=
  if executor.header.variant = variant ∧ executor.header.rule = rule then .ok ()
  else
    .error (.conflict
      ⟨executor.header.identifier, executor.header.variant, executor.header.rule, variant, rule⟩)

/-- The unit text for a rule that is read. A unit that would not load is not produced. -/
def writeUnit (target : Target) (header : Header) (context : Context) (e : Expr) : Except CompileError String := do
  let code ← (target.compile e context).mapError .target
  let source ← (assemble header code).mapError .assembly
  let _ ← (Executor.load source).mapError .load
  return source

/-- Produces the unit text for a rule. -/
def produce (compiler : Compiler) (target : Target) (header : Header) (context : Context) : Production :=
  let event := .compilingRule header.identifier header.variant
  match compiler.parse header.rule with
  | .error error => ⟨.error (.rule error), ⟨[event], 1, 0⟩⟩
  | .ok e => ⟨writeUnit target header context e, ⟨[event], 1, 1⟩⟩

/-- The executor of a unit text, if it is the one for the variant and rule. -/
def accept (source variant rule : String) : Except CompileError Executor := do
  let executor ← (Executor.load source).mapError .load
  checkOwner executor variant rule
  return executor

/-- Registers an executor, unless the identifier has one. Returns the one that is registered. -/
def register (compiler : Compiler) (identifier variant : String) (executor : Executor) :
    Executor × Compiler × Activity :=
  match compiler.loaded? identifier with
  | some existing => (existing, compiler, {})
  | none =>
      (executor, { compiler with registry := compiler.registry.insert identifier executor },
        .event (.executorRegistered identifier variant))

/-- The executor for a rule and a target. The names of the executor are written into the context first. -/
def compile (compiler : Compiler) (evaluate : Evaluator σ) (state : σ) (rule : String) (target : Target)
    (context : Context) : Compilation σ :=
  let names := Names.ofIdentifier (Identifier.derive target.variant rule)
  let context := context.identify names
  match compiler.loaded? names.identifier with
  | some executor =>
      let result := do
        checkOwner executor target.variant rule
        return executor
      ⟨result, compiler, state, context, .event (.alreadyLoaded names.identifier target.variant)⟩
  | none =>
      let header := Header.ofNames names target.variant rule
      let answer := evaluate state names.identifier fun _ => compiler.produce target header context
      match answer.result.bind fun source => accept source target.variant rule with
      | .error error => ⟨.error error, compiler, answer.state, context, answer.activity⟩
      | .ok executor =>
          let (executor, compiler, registration) := compiler.register names.identifier target.variant executor
          ⟨.ok executor, compiler, answer.state, context, answer.activity ++ registration⟩

end Compiler

end CompiledRules
