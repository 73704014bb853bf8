import CompiledRules.Text.Segments

/-!
# Paths and places

A path is kept as it is written; the place that it leads to does not depend on how it is written. Relative paths begin at
a base directory.
-/

namespace CompiledRules

/-- A path as it is written: the segments between its slashes. -/
abbrev Path := List String

namespace Path

/-- The path that a text with slashes denotes. -/
def ofString (text : String) : Path := (Text.splitAt '/' text.toList).map String.ofList

/-- The path with slashes between its segments. -/
def toString (path : Path) : String := "/".intercalate path

/-- Whether a segment leads nowhere else. -/
def isIdle (segment : String) : Bool := segment = "" || segment = "."

/-- Whether a path begins at the top instead of at the base. -/
def isAbsolute : Path → Bool
  | "" :: _ :: _ => true
  | _ => false

/-- The path without the slashes at its end. -/
def withoutTrailingSlash (path : Path) : Path := (path.reverse.dropWhile (· = "")).reverse

/-- The path without the segments at its end that lead nowhere else. -/
def trimmedRight (path : Path) : Path := (path.reverse.dropWhile isIdle).reverse

/-- A relative path without the segments at both ends that lead nowhere else. -/
def trimmed (path : Path) : Path := if path.isAbsolute then path else trimmedRight (path.dropWhile isIdle)

/-- A path and then another. An absolute path stands for itself, wherever it is read. -/
def join (directory path : Path) : Path :=
  if path.isAbsolute then path
  else if directory.getLast? = some "" then directory.dropLast ++ path
  else directory ++ path

/-- The path of the directory that holds what a path leads to. -/
def parent (path : Path) : Path := trimmedRight path.trimmedRight.dropLast

/-- The paths of the directories that a path leads through one after another, and last the path itself. -/
def stages (path : Path) : List Path :=
  let start := if path.isAbsolute then [""] else []
  let names := path.filter fun segment => !isIdle segment
  (List.range names.length).map (fun n => start ++ names.take n) ++ [path.withoutTrailingSlash]

end Path

/-- Where something may stand: the names that lead to it from the base. A place above the base begins with `..`, once for
each level, and a place that is reached from the top begins with `/`. -/
abbrev Place := List String

namespace Place

/-- Whether a place is the base, above it, or the top. There are directories at these places. -/
def isGiven (place : Place) : Bool := place.all (· = "..") || place = ["/"]

/-- The place of the directory that holds a place. The top holds itself. -/
def parent (place : Place) : Place :=
  match place.getLast? with
  | none => [".."]
  | some ".." => place ++ [".."]
  | some "/" => place
  | some _ => place.dropLast

/-- The place that a segment leads to. -/
def enter (place : Place) (segment : String) : Place :=
  if Path.isIdle segment then place
  else if segment = ".." then place.parent
  else place ++ [segment]

/-- Where a path begins. -/
def start (path : Path) : Place := if path.isAbsolute then ["/"] else []

end Place

end CompiledRules
