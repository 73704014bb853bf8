import CompiledRules.Assembly
import CompiledRules.Declaration
import CompiledRules.Parser.Report

/-!
# Executors

An executor is a unit that has been read and checked: its name carries its identifier, its path follows from
it, its mixins are known, its constants have different names, and its body reads no other constant.
-/

namespace CompiledRules

/-- Why a unit text cannot be loaded. -/
inductive LoadError where
  | malformed (detail : String)
  | badName (name : String)
  | wrongPath (name path : String)
  | unknownMixin (mixin : String)
  | duplicateConstant (name : String)
  | undefinedConstant (name : String)
  /-- A reason that whoever keeps the unit gives in words. -/
  | reported (reason : String)
deriving DecidableEq

namespace LoadError

/-- What is wrong with the unit. -/
def reason : LoadError → String
  | .malformed detail => "malformed unit: " ++ detail
  | .badName name => "bad unit name '" ++ name ++ "'"
  | .wrongPath name path => "unit '" ++ name ++ "' declares path '" ++ path ++ "'"
  | .unknownMixin mixin => "unknown mixin '" ++ mixin ++ "'"
  | .duplicateConstant name => "duplicate constant '" ++ name ++ "'"
  | .undefinedConstant name => "body reads undefined constant '" ++ name ++ "'"
  | .reported reason => reason

/-- The error in words. -/
def message (error : LoadError) : String := "executor unit failed to load: " ++ error.reason

end LoadError

/-- A compiled rule, ready to run. -/
structure Executor where
  header : Header
  mixins : List String
  data : Table Value
  body : Node
  source : String

namespace Executor

/-- The mixins that an executor may carry. -/
def knownMixins : List String := ["filter"]

/-- Reads a unit text. -/
def declaration (source : String) : Except LoadError Declaration :=
  match Parser.complete Declaration.Grammar.unit source.toList with
  | .ok declaration => .ok declaration
  | .error failure => .error (.malformed (String.ofList (failure.report source.toList)))

/-- The identifier that the name of a unit carries. -/
def identifierOf? (name : String) : Option String :=
  let start := executorPrefix.toList
  let identifier := String.ofList (name.toList.drop start.length)
  if start.isPrefixOf name.toList && Identifier.isIdentifier identifier then some identifier else none

/-- The table of constants, unless two have the same name. -/
def collectConstants : List (String × Value) → Table Value → Except LoadError (Table Value)
  | [], data => .ok data
  | (key, value) :: rest, data =>
      if data.has key then .error (.duplicateConstant key) else collectConstants rest (data.insert key value)

/-- Loads a unit text. -/
def load (source : String) : Except LoadError Executor := do
  let unit ← declaration source
  match identifierOf? unit.name with
  | none => .error (.badName unit.name)
  | some identifier =>
      if unit.path ≠ executorPath identifier then .error (.wrongPath unit.name unit.path)
      else
        match unit.mixins.find? fun mixin => !knownMixins.contains mixin with
        | some mixin => .error (.unknownMixin mixin)
        | none =>
            let data ← collectConstants unit.constants .empty
            match unit.body.constants.find? fun name => !data.has name with
            | some name => .error (.undefinedConstant name)
            | none =>
                return {
                  header := ⟨identifier, unit.name, unit.path, unit.variant, unit.rule⟩
                  mixins := unit.mixins
                  data
                  body := unit.body
                  source }

/-- Runs the rule on a record. -/
def execute (executor : Executor) (record : Record) (operators : Operators) (parameters : Parameters) :
    Except ExecutionError Bool := do
  (← executor.body.eval ⟨record, operators, parameters⟩ executor.data).truth

/-- The items whose record the rule accepts, in order. The first failure ends it. -/
def keep {α : Type} (executor : Executor) (recordOf : α → Record) (operators : Operators)
    (parameters : Parameters) : List α → Except ExecutionError (List α)
  | [] => .ok []
  | item :: items => do
      let accepts ← executor.execute (recordOf item) operators parameters
      let kept ← keep executor recordOf operators parameters items
      return if accepts then item :: kept else kept

/-- The items whose record the rule accepts. Only an executor with the mixin `filter` filters. -/
def filterBy {α : Type} (executor : Executor) (recordOf : α → Record) (items : List α) (operators : Operators)
    (parameters : Parameters) : Except ExecutionError (List α) :=
  if executor.mixins.contains "filter" then executor.keep recordOf operators parameters items
  else .error (.missingMixin "filter")

/-- The records that the rule accepts, in order. -/
def filter (executor : Executor) (records : List Record) (operators : Operators) (parameters : Parameters) :
    Except ExecutionError (List Record) :=
  executor.filterBy id records operators parameters

end Executor

end CompiledRules
