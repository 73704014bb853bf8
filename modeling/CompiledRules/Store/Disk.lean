import CompiledRules.Bytes.Basic
import CompiledRules.Store.Path

/-!
# A disk

Files and directories, each at a place. A path leads through directories only, so that one that goes down into a
directory and up again is of no use unless that directory is there.
-/

namespace CompiledRules

/-- Why a path cannot be read or written. -/
inductive DiskError where
  | notFound
  /-- A file stands where a directory should be made. -/
  | fileExists
  | notDirectory
  | isDirectory
  | nameTooLong
  /-- The path holds the character with number zero. -/
  | zeroCharacter
deriving DecidableEq

/-- The error in words. -/
def DiskError.message : DiskError → String
  | .notFound => "No such file or directory (os error 2)"
  | .fileExists => "File exists (os error 17)"
  | .notDirectory => "Not a directory (os error 20)"
  | .isDirectory => "Is a directory (os error 21)"
  | .nameTooLong => "File name too long (os error 36)"
  | .zeroCharacter => "file name contained an unexpected NUL byte"

/-- A path that could not be made or written, and the cause. -/
structure WriteError where
  path : Path
  cause : DiskError
deriving DecidableEq

/-- The error in words. -/
def WriteError.message (error : WriteError) : String :=
  "cache I/O error at " ++ error.path.toString ++ ": " ++ error.cause.message

/-- The most bytes that a name may have. -/
def nameLimit : Nat := 255

/-- The most bytes that a path may have. -/
def pathLimit : Nat := 4095

/-- What makes a path unusable on every disk. -/
def Path.defect? (path : Path) : Option DiskError :=
  if path.any fun segment => segment.toList.contains '\x00' then some .zeroCharacter
  else if path.toString.utf8ByteSize > pathLimit then some .nameTooLong
  else none

/-- What stands at a place. -/
inductive DiskEntry where
  | file (bytes : Bytes)
  | directory
deriving DecidableEq

/-- The files and directories, apart from the directories that are always there. -/
structure Disk where
  entries : List (Place × DiskEntry) := []
deriving Inhabited

namespace Disk

/-- What stands at a place. -/
def entry? (disk : Disk) (place : Place) : Option DiskEntry :=
  if place.isGiven then some .directory else disk.entries.lookup place

/-- Removes what stands at a place, and all below it. -/
def erase (disk : Disk) (place : Place) : Disk := ⟨disk.entries.filter fun (p, _) => !place.isPrefixOf p⟩

/-- Puts an entry at a place, instead of what stood there. -/
def put (disk : Disk) (place : Place) (entry : DiskEntry) : Disk :=
  ⟨(place, entry) :: disk.entries.filter fun (p, _) => p ≠ place⟩

/-- The place that the segments lead to from the given one. All places on the way must be directories. -/
def walk (disk : Disk) : Place → Path → Except DiskError Place
  | place, [] => .ok place
  | place, segment :: rest =>
      match disk.entry? place with
      | none => .error .notFound
      | some (.file _) => .error .notDirectory
      | some .directory =>
          if segment.utf8ByteSize > nameLimit then .error .nameTooLong
          else disk.walk (place.enter segment) rest

/-- The place that a path leads to, where there may be nothing. -/
def locate (disk : Disk) (path : Path) : Except DiskError Place :=
  match path.defect? with
  | some defect => .error defect
  | none => disk.walk (.start path) path

/-- The bytes of the file that a path leads to. -/
def read (disk : Disk) (path : Path) : Except DiskError Bytes := do
  let place ← disk.locate path
  match disk.entry? place with
  | none => .error .notFound
  | some .directory => .error .isDirectory
  | some (.file bytes) => .ok bytes

/-- Writes a file into a directory that exists. -/
def write (disk : Disk) (path : Path) (bytes : Bytes) : Except DiskError Disk := do
  let place ← disk.locate path
  match disk.entry? place with
  | some .directory => .error .isDirectory
  | _ => .ok (disk.put place (.file bytes))

/-- Removes what a path leads to, if there is something. -/
def remove (disk : Disk) (path : Path) : Disk :=
  match disk.locate path with
  | .ok place => disk.erase place
  | .error _ => disk

/-- Makes a directory where a path leads to nothing. -/
def makeMissing (disk : Disk) (path : Path) : Disk :=
  match disk.locate path with
  | .error _ => disk
  | .ok place => if (disk.entry? place).isSome then disk else disk.put place .directory

/-- Makes a directory and those that lead to it, as far as possible. -/
def makeDirectories (disk : Disk) (path : Path) : Disk :=
  match path.defect? with
  | some _ => disk
  | none => path.stages.foldl makeMissing disk

/-- Succeeds if a path leads to a directory. The error is the one that came of making it. -/
def checkDirectory (disk : Disk) (path : Path) : Except DiskError Unit := do
  let place ← disk.locate path.withoutTrailingSlash
  match disk.entry? place with
  | some .directory => .ok ()
  | some (.file _) => .error .fileExists
  | none => .error .notFound

/-- The names in a directory, in order. -/
def list? (disk : Disk) (path : Path) : Option (List String) :=
  match disk.locate path with
  | .error _ => none
  | .ok place =>
      match disk.entry? place with
      | some .directory =>
          let names := disk.entries.filterMap fun (p, _) =>
            if p ≠ [] && p.dropLast = place then p.getLast? else none
          some (names.mergeSort fun a b => decide (a ≤ b))
      | _ => none

end Disk

end CompiledRules
