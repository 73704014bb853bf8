/-!
# Events

What compilers and stores report while they work.
-/

namespace CompiledRules

/-- How much an event matters. -/
inductive Level where
  | debug
  | info
deriving DecidableEq

/-- A step of a compiler or a store. -/
inductive Event where
  | alreadyLoaded (identifier target : String)
  | compilingRule (identifier target : String)
  | executorRegistered (identifier target : String)
  | foundInMemory (identifier : String)
  | notInMemory (identifier : String)
  | foundOnDisk (identifier path : String)
  | unusableFile (identifier reason : String)
  | unreadableFile (identifier error : String)
  | notOnDisk (identifier : String)
deriving DecidableEq

namespace Event

def level : Event → Level
  | .executorRegistered _ _ => .info
  | _ => .debug

def message : Event → String
  | .alreadyLoaded _ _ => "executor already loaded"
  | .compilingRule _ _ => "compiling rule"
  | .executorRegistered _ _ => "executor registered"
  | .foundInMemory _ => "unit found in memory"
  | .notInMemory _ => "unit not in memory, compiling"
  | .foundOnDisk _ _ => "unit found on disk"
  | .unusableFile _ _ => "discarding unusable cache file"
  | .unreadableFile _ _ => "cache file unreadable"
  | .notOnDisk _ => "unit not on disk, compiling"

/-- The further fields of an event, by name. -/
def fields : Event → List (String × String)
  | .alreadyLoaded identifier target => [("identifier", identifier), ("target", target)]
  | .compilingRule identifier target => [("identifier", identifier), ("target", target)]
  | .executorRegistered identifier target => [("identifier", identifier), ("target", target)]
  | .foundInMemory identifier => [("identifier", identifier)]
  | .notInMemory identifier => [("identifier", identifier)]
  | .foundOnDisk identifier path => [("identifier", identifier), ("path", path)]
  | .unusableFile identifier reason => [("identifier", identifier), ("reason", reason)]
  | .unreadableFile identifier error => [("identifier", identifier), ("error", error)]
  | .notOnDisk identifier => [("identifier", identifier)]

end Event

end CompiledRules
