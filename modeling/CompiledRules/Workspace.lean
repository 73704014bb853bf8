import CompiledRules.Compiler.Basic
import CompiledRules.Store.Basic

/-!
# Workspaces

A disk, and stores and compilers that share it. Stores and compilers are known by number, in the order in which
they were added; several compilers may use one store.
-/

namespace CompiledRules

/-- A disk with stores, and compilers each with the number of its store. -/
structure Workspace where
  disk : Disk := {}
  stores : List Store := []
  compilers : List (Compiler × Nat) := []

namespace Workspace

/-- Adds a store and returns its number. -/
def addStore (workspace : Workspace) (store : Store) : Nat × Workspace :=
  (workspace.stores.length, { workspace with stores := workspace.stores ++ [store] })

/-- Adds a compiler that uses the store with the given number. -/
def addCompiler (workspace : Workspace) (compiler : Compiler) (store : Nat) : Nat × Workspace :=
  (workspace.compilers.length, { workspace with compilers := workspace.compilers ++ [(compiler, store)] })

def store? (workspace : Workspace) (number : Nat) : Option Store := workspace.stores[number]?

def compiler? (workspace : Workspace) (number : Nat) : Option Compiler :=
  workspace.compilers[number]?.map Prod.fst

/-- Asks the store with the given number. -/
def evaluate (number : Nat) : Evaluator Workspace := fun workspace identifier produce =>
  match workspace.store? number with
  | none => ⟨.error (.load (.reported "no such store")), workspace, {}⟩
  | some store =>
      let answer := Store.evaluate (store, workspace.disk) identifier produce
      ⟨answer.result,
        { workspace with stores := workspace.stores.set number answer.state.1, disk := answer.state.2 },
        answer.activity⟩

/-- Has the compiler with the given number compile a rule. -/
def compile? (workspace : Workspace) (number : Nat) (rule : String) (target : Target) (context : Context) :
    Option (Compilation Workspace) :=
  workspace.compilers[number]?.map fun (compiler, store) =>
    let compilation := compiler.compile (evaluate store) workspace rule target context
    { compilation with
      state := { compilation.state with
        compilers := compilation.state.compilers.set number (compilation.compiler, store) } }

end Workspace

end CompiledRules
