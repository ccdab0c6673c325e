import IsaUsage.File.Failure
import IsaUsage.File.Path
import IsaUsage.Text.Utf8
import Std.Data.ExtTreeMap

namespace IsaUsage

/-!
# The tree of files

A file system says for every location what is there: nothing, a directory, or
a file. Two file systems are equal when they say the same everywhere
(`FileSystem.ext_find?`). There are no links, so what is at one location is at no
other one, and the only permission is the one to start a file: every directory
can be searched and changed, and every file can be read and written.

A path is followed step by step from a starting location. Every step needs a
directory to step from; what the last step leads to need not exist. Operations
on a path first follow it and then look at, or change, one single location.
-/

/-- What can be at a location. A file may be a program that can be started. -/
inductive Node where
  | directory
  | file (contents : ByteArray) (isProgram : Bool)

/-- Whether a node is a program that can be started. -/
def Node.isProgram : Node → Bool
  | .directory => false
  | .file _ isProgram => isProgram

/-- What is at each location. -/
structure FileSystem where
  nodes : Std.ExtTreeMap Location Node compare

namespace FileSystem

/-- The longest name that a file can have, in bytes. -/
def longestName : Nat := 255

/-- The longest path that the system can be asked about, in bytes. -/
def longestPath : Nat := 4095

/-- A file system with a root and nothing else. -/
def empty : FileSystem where
  nodes := (∅ : Std.ExtTreeMap Location Node compare).insert [] .directory

/-- What is at a location. -/
def find? (files : FileSystem) (location : Location) : Option Node :=
  files.nodes[location]?

/-- The file system with something put at a location. -/
def put (files : FileSystem) (location : Location) (node : Node) :
    FileSystem where
  nodes := files.nodes.insert location node

/-- The file system with nothing at a location. -/
def erase (files : FileSystem) (location : Location) : FileSystem where
  nodes := files.nodes.erase location

/-- File systems that say the same everywhere are equal. -/
theorem ext_find?
    {left right : FileSystem}
    (same : ∀ location, left.find? location = right.find? location) :
    left = right := by
  cases left
  cases right
  exact congrArg FileSystem.mk (Std.ExtTreeMap.ext_getElem? same)

/-- Putting something changes one location. -/
@[simp] theorem find?_put
    (files : FileSystem)
    (location other : Location)
    (node : Node) :
    (files.put location node).find? other =
      if location = other then some node else files.find? other := by
  simp [find?, put, Std.ExtTreeMap.getElem?_insert]

/-- Erasing changes one location. -/
@[simp] theorem find?_erase
    (files : FileSystem)
    (location other : Location) :
    (files.erase location).find? other =
      if location = other then none else files.find? other := by
  simp [find?, erase, Std.ExtTreeMap.getElem?_erase]

/-- Follow one step; only a directory can be stepped from. -/
def step (files : FileSystem) (here : Location) (name : String) :
    Except Failure Location :=
  match files.find? here with
  | none => .error (.system .notFound)
  | some (.file _ _) => .error (.system .notADirectory)
  | some .directory =>
      if name = "." then .ok here
      else if name = ".." then .ok here.dropLast
      else if name.utf8ByteSize > longestName then
        .error (.system .nameTooLong)
      else .ok (here ++ [name])

/-- Follow steps one after the other. -/
def walk (files : FileSystem) : Location → List String → Except Failure Location
  | here, [] => .ok here
  | here, name :: names => do
      let next ← files.step here name
      files.walk next names

/-- Where the walk of a path starts. -/
def start (base : Location) (path : Path) : Location :=
  if path.isAbsolute then [] else base

/-- Reject paths that the system cannot be asked about. -/
def checkPath (path : Path) : Except Failure Unit :=
  if path.holdsNul then .error .nulInPath
  else if path.text = "" then .error (.system .notFound)
  else if path.text.utf8ByteSize > longestPath then
    .error (.system .nameTooLong)
  else .ok ()

/-- The location a path leads to. Something need not be there. -/
def locate (files : FileSystem) (base : Location) (path : Path) :
    Except Failure Location := do
  checkPath path
  files.walk (start base path) path.steps

/-- What a path leads to. Only a directory can be named with a slash behind. -/
def nodeAt (files : FileSystem) (base : Location) (path : Path) :
    Except Failure Node := do
  let location ← files.locate base path
  match files.find? location with
  | none => .error (.system .notFound)
  | some .directory => .ok .directory
  | some (.file contents isProgram) =>
      if path.endsInSlash then .error (.system .notADirectory)
      else .ok (.file contents isProgram)

/-- The location of a directory. -/
def directoryAt (files : FileSystem) (base : Location) (path : Path) :
    Except Failure Location := do
  let location ← files.locate base path
  match files.find? location with
  | none => .error (.system .notFound)
  | some (.file _ _) => .error (.system .notADirectory)
  | some .directory => .ok location

/-- Whether a path leads to a file. -/
def isFile (files : FileSystem) (base : Location) (path : Path) : Bool :=
  match files.nodeAt base path with
  | .ok (.file _ _) => true
  | _ => false

/-- The bytes of a file. -/
def readFile (files : FileSystem) (base : Location) (path : Path) :
    Except Failure ByteArray := do
  match ← files.nodeAt base path with
  | .directory => .error (.system .isADirectory)
  | .file contents _ => .ok contents

/-- The text of a file. -/
def readText (files : FileSystem) (base : Location) (path : Path) :
    Except Failure String := do
  let contents ← files.readFile base path
  match Text.decode? contents with
  | some text => .ok text
  | none => .error .notUtf8

/-- Where a path ends: the directory of its last step, and that step. -/
structure Target where
  directory : Location
  last : Option String

/--
The end of a path, if all steps before the last can be followed. A path whose
last step is the current or the parent directory, or which is the root, has no
name of its own there.
-/
def target (files : FileSystem) (base : Location) (path : Path) :
    Except Failure Target := do
  checkPath path
  let here ← files.walk (start base path) path.steps.dropLast
  match path.steps.getLast? with
  | none => .ok ⟨here, none⟩
  | some name => do
      let _ ← files.step here "."
      .ok ⟨here, if name = "." || name = ".." then none else some name⟩

/-- The location of a name in a directory; names can be too long. -/
def entry (directory : Location) (name : String) : Except Failure Location :=
  if name.utf8ByteSize > longestName then .error (.system .nameTooLong)
  else .ok (directory ++ [name])

/--
Write a file: a new one, which is plain, or new contents for an old one, which
stays a program if it is one.
-/
def createFile
    (files : FileSystem)
    (base : Location)
    (path : Path)
    (contents : ByteArray) :
    Except Failure FileSystem := do
  let target ← files.target base path
  match target.last with
  | none => .error (.system .isADirectory)
  | some name =>
      if path.endsInSlash then .error (.system .isADirectory)
      else do
        let location ← entry target.directory name
        match files.find? location with
        | some .directory => .error (.system .isADirectory)
        | old => .ok (files.put location (.file contents (old.any Node.isProgram)))

/-- Remove a file. -/
def removeFile (files : FileSystem) (base : Location) (path : Path) :
    Except Failure FileSystem := do
  let target ← files.target base path
  match target.last with
  | none => .error (.system .isADirectory)
  | some name => do
      let location ← entry target.directory name
      match files.find? location with
      | none => .error (.system .notFound)
      | some .directory => .error (.system .isADirectory)
      | some (.file _ _) =>
          if path.endsInSlash then .error (.system .notADirectory)
          else .ok (files.erase location)

/--
Move a file to another name, in place of any file there. Directories are
neither moved nor replaced.
-/
def renameFile
    (files : FileSystem)
    (base : Location)
    (source destination : Path) :
    Except Failure FileSystem := do
  let old ← files.target base source
  let new ← files.target base destination
  match old.last, new.last with
  | some oldName, some newName => do
      let oldLocation ← entry old.directory oldName
      match files.find? oldLocation with
      | none => .error (.system .notFound)
      | some .directory => .error (.system .isADirectory)
      | some node => do
          let newLocation ← entry new.directory newName
          if source.endsInSlash || destination.endsInSlash then
            .error (.system .notADirectory)
          else
            match files.find? newLocation with
            | some .directory => .error (.system .isADirectory)
            | _ => .ok ((files.erase oldLocation).put newLocation node)
  | _, _ => .error (.system .busy)

/-- Make the directories along a walk that are not there yet. -/
def makeAlong (files : FileSystem) : Location → List String → FileSystem
  | _, [] => files
  | here, name :: names =>
      match files.step here name with
      | .error _ => files
      | .ok next =>
          match files.find? next with
          | none => (files.put next .directory).makeAlong next names
          | some _ => files.makeAlong next names

/-- Make a directory and those above it, as far as they are not there yet. -/
def makeDirectories (files : FileSystem) (base : Location) (path : Path) :
    FileSystem :=
  files.makeAlong (start base path) path.steps

/-- What is below a directory, by the names that lead there from it. -/
def below (files : FileSystem) (directory : Location) :
    List (Location × Node) :=
  files.nodes.toList.filterMap fun (place, node) =>
    if directory.isPrefixOf place && place.length > directory.length then
      some (place.drop directory.length, node)
    else
      none

end FileSystem
end IsaUsage
