namespace IsaUsage

/-!
# Paths

A path is a text whose slashes separate the steps of a walk through the tree of
files. Paths are joined and shown as they are written; only `Path.anchored`
leaves out steps that lead nowhere.
-/

/-- An absolute place in the tree of files: the names from the root down. -/
abbrev Location := List String

/-- A path as it is written. -/
structure Path where
  text : String
  deriving DecidableEq

namespace Path

/-- The parts of a text between its slashes; empty parts are kept. -/
def splitAtSlashes : List Char → List (List Char)
  | [] => [[]]
  | c :: rest =>
      if c = '/' then
        [] :: splitAtSlashes rest
      else
        match splitAtSlashes rest with
        | [] => [[c]]
        | part :: parts => (c :: part) :: parts

/-- The parts of a path between its slashes; empty parts are kept. -/
def parts (path : Path) : List String :=
  (splitAtSlashes path.text.toList).map String.ofList

/-- The steps of a path: its parts without the empty ones. -/
def steps (path : Path) : List String :=
  path.parts.filter (· ≠ "")

/-- Whether a path starts at the root. -/
def isAbsolute (path : Path) : Bool :=
  path.text.toList.head? == some '/'

/-- Whether a path ends in a slash. -/
def endsInSlash (path : Path) : Bool :=
  path.text.toList.getLast? == some '/'

/-- Whether a path holds the character that no file name can hold. -/
def holdsNul (path : Path) : Bool :=
  path.text.toList.contains '\x00'

/-- A path within a directory; an absolute path stands for itself. -/
def join (directory part : Path) : Path :=
  if part.isAbsolute then part
  else if directory.text = "" || directory.endsInSlash then
    ⟨directory.text ++ part.text⟩
  else
    ⟨directory.text ++ "/" ++ part.text⟩

/-- The steps of a path that leave the current directory. -/
def movingSteps (path : Path) : List String :=
  path.steps.filter (· ≠ ".")

/-- Whether a relative path starts with an explicit current directory. -/
def startsHere (path : Path) : Bool :=
  path.parts.head? == some "."

/--
How many components a path has: its root or its explicit start, and every
moving step.
-/
def componentCount (path : Path) : Nat :=
  (if path.isAbsolute || path.startsHere then 1 else 0) +
    path.movingSteps.length

/-- The path of a location. -/
def ofLocation (location : Location) : Path :=
  ⟨"/" ++ "/".intercalate location⟩

/--
A relative path made absolute: its moving steps below a directory. Upward steps
and a slash at the end stay.
-/
def anchored (directory : Location) (path : Path) : Path :=
  let whole := ofLocation (directory ++ path.movingSteps)
  if path.endsInSlash then ⟨whole.text ++ "/"⟩ else whole

/--
The path under which a tool is started. A relative path with several
components is anchored, so that it means the same file from every directory; a
path with a single component is a name to look up.
-/
def ofTool (directory : Location) (path : Path) : Path :=
  if path.componentCount > 1 && !path.isAbsolute then
    path.anchored directory
  else
    path

/-- An absolute part replaces the directory it is joined to. -/
theorem join_of_isAbsolute
    {directory part : Path}
    (absolute : part.isAbsolute = true) :
    directory.join part = part := by
  simp [join, absolute]

/-- An absolute path is started as it is. -/
theorem ofTool_of_isAbsolute
    {directory : Location}
    {path : Path}
    (absolute : path.isAbsolute = true) :
    path.ofTool directory = path := by
  simp [ofTool, absolute]

end Path
end IsaUsage
