import CompiledRules.Compiler.Basic
import CompiledRules.Schedule

/-!
# Many callers of one compiler

Calls that are made at the same time take turns step by step: a look at the registry, the answer of the
evaluator, the check of the executor that it gives, and the registration, in which the first one wins.
-/

namespace CompiledRules.Registry

/-- An executor as an object: it is told from others by the number of the call that loaded it. -/
structure Object where
  call : Nat
  executor : Executor

/-- An object of one of several compilers, with the number of the compiler. -/
structure Handle where
  compiler : Nat
  object : Object

namespace Handle

/-- Whether two are handles of one object. -/
def isSame (a b : Handle) : Bool := a.compiler == b.compiler && a.object.call == b.object.call

/-- Whether all are handles of one object. -/
def areSame (handles : List Handle) : Bool := handles.all fun a => handles.all a.isSame

end Handle

/-- How far a call has come. -/
inductive Phase where
  | arriving
  /-- Found nothing registered and asks the evaluator. -/
  | asking
  | answered (answer : Except CompileError String)
  /-- Has loaded and checked an executor. -/
  | loaded (executor : Executor)
  | done (result : Except CompileError Object)

/-- A call for a pair of variant and rule. -/
structure Call where
  variant : String
  rule : String
  phase : Phase := .arriving

/-- What the call has come to, if it is done. -/
def Call.result? (call : Call) : Option (Except CompileError Object) :=
  match call.phase with
  | .done result => some result
  | _ => none

/-- The identifier that a call is about. -/
def Call.identifier (call : Call) : String := Identifier.derive call.variant call.rule

/-- What happens next: a call is made for a variant and a rule, or one takes its next step. -/
abbrev Event := Turn (String × String) (Except CompileError String)

/-- Each of the calls takes a step and hears the answer that stands with its number. -/
def round (calls : List (Except CompileError String × Nat)) : List Event := calls.map fun call => .act call.2 call.1

/-- The registry and the calls that share it. -/
structure State where
  registry : Table Object := .empty
  calls : List Call := []

namespace State

/-- The next step of the call with the given number. The answer is what the evaluator gives, should that be the
step. -/
def advance (s : State) (number : Nat) (call : Call) (answer : Except CompileError String) :
    Option (Phase × State) :=
  match call.phase with
  | .arriving =>
      match s.registry.find? call.identifier with
      | none => some (.asking, s)
      | some object =>
          some (.done ((Compiler.checkOwner object.executor call.variant call.rule).map fun _ => object), s)
  | .asking => some (.answered answer, s)
  | .answered answer =>
      match answer.bind fun source => Compiler.accept source call.variant call.rule with
      | .ok executor => some (.loaded executor, s)
      | .error error => some (.done (.error error), s)
  | .loaded executor =>
      match s.registry.find? call.identifier with
      | some object => some (.done (.ok object), s)
      | none =>
          let object := ⟨number, executor⟩
          some (.done (.ok object), { s with registry := s.registry.insert call.identifier object })
  | .done _ => none

/-- The state after the next step of the call with the given number. -/
def step (s : State) (number : Nat) (answer : Except CompileError String) : Option State := do
  let call ← s.calls[number]?
  let (phase, s) ← s.advance number call answer
  return { s with calls := s.calls.set number { call with phase } }

/-- The state after the event, if it can happen. -/
def next (s : State) : Event → Option State
  | .arrive (variant, rule) => some { s with calls := s.calls ++ [{ variant, rule }] }
  | .act number answer => s.step number answer

/-- Calls for one pair are made at the same time, one for each answer of the evaluator, and take their steps by turns
until all are done. No call takes more than four. -/
def together (s : State) (variant rule : String) (answers : List (Except CompileError String)) :
    List (Except CompileError Object) × State :=
  let arrivals := answers.map fun _ => .arrive (variant, rule)
  let rounds := (List.replicate 4 (round (answers.zipIdx s.calls.length))).flatten
  let s' := Schedule.run next s (arrivals ++ rounds)
  ((s'.calls.drop s.calls.length).filterMap Call.result?, s')

end State

/-- One step of the whole: a call is made, or one of them takes its next step. -/
inductive Step : State → State → Prop where
  | arrive (s : State) (variant rule : String) : Step s { s with calls := s.calls ++ [{ variant, rule }] }
  | act {s s' : State} (number : Nat) (answer : Except CompileError String) :
      s.step number answer = some s' → Step s s'

/-- The states that steps lead to from the empty registry. -/
inductive Reachable : State → Prop where
  | start : Reachable {}
  | step {s s' : State} : Reachable s → Step s s' → Reachable s'

end CompiledRules.Registry
