import CompiledRules.Store.Disk
import CompiledRules.Store.Evaluator
import CompiledRules.Store.UnitFile

/-!
# Stores

A store in memory keeps the texts it produced. A store on disk keeps each in a file of its own, and also in
memory once it has seen it. A file that does not hold the text is passed over and written anew. Nothing is kept
of a production that fails.
-/

namespace CompiledRules

/-- A store in memory: the texts by identifier. -/
structure MemoryStore where
  texts : Table String := .empty
deriving Inhabited

namespace MemoryStore

def get? (store : MemoryStore) (identifier : String) : Option String := store.texts.find? identifier

/-- The number of texts. -/
def size (store : MemoryStore) : Nat := store.texts.size

/-- Answers from memory, or produces a text and keeps it. -/
def evaluate : Evaluator MemoryStore := fun store identifier produce =>
  match store.get? identifier with
  | some text => ⟨.ok text, store, .event (.foundInMemory identifier)⟩
  | none =>
      let production := produce ()
      let activity := .event (.notInMemory identifier) ++ production.activity
      match production.result with
      | .ok text => ⟨.ok text, ⟨store.texts.insert identifier text⟩, activity⟩
      | .error error => ⟨.error error, store, activity⟩

end MemoryStore

/-- A store on disk: its directory, and the texts that it has seen. -/
structure FileStore where
  directory : Path
  seen : Table String := .empty
deriving Inhabited

namespace FileStore

/-- The name of the directory of a store that is given none. -/
def defaultDirectory : String := "rulekit"

/-- Where the unit of an identifier stands. -/
def pathOf (store : FileStore) (identifier : String) : Path :=
  store.directory.join (Path.ofString (identifier ++ ".unit"))

/-- Where a unit is written before it takes its place. The name ends in six characters chosen at random, for which any
will do here, and an extension. -/
def draftOf (store : FileStore) (identifier : String) : Path :=
  store.directory.join (Path.ofString ("." ++ identifier ++ ".000000.tmp"))

/-- The text that the file of an identifier holds. -/
def get? (store : FileStore) (disk : Disk) (identifier : String) : Option String :=
  match disk.read (store.pathOf identifier) with
  | .error _ => none
  | .ok bytes => (UnitFile.decode bytes identifier).toOption

/-- What the file of an identifier holds, with what there is to report. -/
def lookUp (store : FileStore) (disk : Disk) (identifier : String) : Option String × Activity :=
  match disk.read (store.pathOf identifier) with
  | .error .notFound => (none, {})
  | .error error => (none, .event (.unreadableFile identifier error.message))
  | .ok bytes =>
      match UnitFile.decode bytes identifier with
      | .ok text => (some text, .event (.foundOnDisk identifier (store.pathOf identifier).toString))
      | .error reason => (none, .event (.unusableFile identifier reason.message))

/-- Makes the directory of the store and writes the file of an identifier, for which there must also be a way to its
draft. The error names the directory if there is none, and the file otherwise. The directory stays even if the file
cannot be written. -/
def save (store : FileStore) (disk : Disk) (identifier text : String) : Except WriteError Unit × Disk :=
  let disk := disk.makeDirectories store.directory
  let written : Except DiskError Disk := do
    let _ ← disk.locate (store.draftOf identifier)
    disk.write (store.pathOf identifier) (UnitFile.encode identifier text)
  let saved := do
    (disk.checkDirectory store.directory).mapError (WriteError.mk store.directory)
    written.mapError (WriteError.mk (store.pathOf identifier))
  match saved with
  | .ok disk => (.ok (), disk)
  | .error error => (.error error, disk)

/-- The store after it has seen a text. -/
def see (store : FileStore) (identifier text : String) : FileStore :=
  { store with seen := store.seen.insert identifier text }

/-- Answers from memory or from the file, or produces a text and writes its file. -/
def evaluate : Evaluator (FileStore × Disk) := fun (store, disk) identifier produce =>
  match store.seen.find? identifier with
  | some text => ⟨.ok text, (store, disk), {}⟩
  | none =>
      match store.lookUp disk identifier with
      | (some text, activity) => ⟨.ok text, (store.see identifier text, disk), activity⟩
      | (none, activity) =>
          let production := produce ()
          let activity := activity ++ .event (.notOnDisk identifier) ++ production.activity
          match production.result with
          | .error error => ⟨.error error, (store, disk), activity⟩
          | .ok text =>
              match store.save disk identifier text with
              | (.error error, disk) => ⟨.error (.unwritable error), (store, disk), activity⟩
              | (.ok (), disk) => ⟨.ok text, (store.see identifier text, disk), activity⟩

end FileStore

/-- A store of any kind. -/
inductive Store where
  | memory (store : MemoryStore)
  | file (store : FileStore)
  /-- Answers every call with one text. -/
  | fixed (text : String)
deriving Inhabited

namespace Store

/-- Answers as the kind of the store says. -/
def evaluate : Evaluator (Store × Disk) := fun (store, disk) identifier produce =>
  match store with
  | .memory store =>
      let answer := store.evaluate identifier produce
      ⟨answer.result, (.memory answer.state, disk), answer.activity⟩
  | .file store =>
      let answer := FileStore.evaluate (store, disk) identifier produce
      ⟨answer.result, (.file answer.state.1, answer.state.2), answer.activity⟩
  | .fixed text => ⟨.ok text, (.fixed text, disk), {}⟩

end Store

end CompiledRules
