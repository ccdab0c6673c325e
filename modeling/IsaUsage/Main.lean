import IsaUsage.CommandLine.Execution

/-!
# The command line

The first argument names one of the three programs, and the others are its
arguments. Before the run, the places that it can look at are read from the
disk; after it, those that it changed are written back. Tools are not started
from here: every tool counts as not installed.
-/

namespace IsaUsage

/-- The places that a walk passes, from its start to its end. -/
def placesAlong : Location → List String → List Location
  | here, [] => [here]
  | here, name :: names =>
      let next :=
        if name = "." then here
        else if name = ".." then here.dropLast
        else here ++ [name]
      here :: placesAlong next names

/-- The places that a path passes, from the root on. -/
def placesOf (base : Location) (path : Path) : List Location :=
  placesAlong [] base ++ placesAlong (FileSystem.start base path) path.steps

/-- The number by which the system says that a place is a directory. -/
def directoryErrorNumber : UInt32 := 21

/-- What is at a place on the disk. -/
def nodeOnDisk? (place : Location) : IO (Option Node) := do
  try
    let contents ← IO.FS.readBinFile (Path.ofLocation place).text
    return some (.file contents false)
  catch
    | .inappropriateType _ number _ =>
        return if number = directoryErrorNumber then some .directory else none
    | .noFileOrDirectory _ _ _ => return none
    | error => throw error

/-- The file system with what is on the disk where some paths lead. -/
def readPlaces (base : Location) (paths : List Path) (files : FileSystem) :
    IO FileSystem := do
  let places := (paths.flatMap (placesOf base)).eraseDups
  places.foldlM
    (fun files place => do
      match ← nodeOnDisk? place with
      | some node => return files.put place node
      | none => return files)
    files

namespace CommandLine

/-- The part of the disk that a program can look at. -/
def filesFor
    (program : Program)
    (environment : Environment)
    (base : Location)
    (arguments : List String) :
    IO FileSystem := do
  let .ok given := readArguments program .none arguments
    | return .empty
  let .ok source := requiredFile given
    | return .empty
  let files ← readPlaces base [source] .empty
  let .splitter := program
    | return files
  let .ok request := splitRequest environment given
    | return files
  let .ok text := files.readText base source
    | return files
  let generated :=
    generatedPaths (request.config base) request.outputDirectory text
  readPlaces base generated files

end CommandLine

/-- Whether nothing has to be written to turn one node into another. -/
def Node.same : Node → Node → Bool
  | .directory, .directory => true
  | .file left _, .file right _ => left == right
  | _, _ => false

/-- Write to the disk what differs between two file systems. -/
def writeChanges (before after : FileSystem) : IO Unit := do
  for (place, node) in after.below [] do
    let unchanged := (before.find? place).any node.same
    unless unchanged do
      let name := (Path.ofLocation place).text
      match node with
      | .directory => IO.FS.createDir name
      | .file contents _ => IO.FS.writeBinFile name contents
  for (place, _) in before.below [] do
    if (after.find? place).isNone then
      IO.FS.removeFile (Path.ofLocation place).text

/-- A machine without tools. -/
def machineWithoutTools (base : Location) (environment : Environment) :
    Machine Memory where
  workingDirectory := base
  searchPath := []
  environment := environment
  behaveIn _ _ world := (⟨.exited 127, .empty, .empty⟩, world)

/-- Run a program on the files of the disk. -/
def runOnDisk (program : CommandLine.Program) (arguments : List String) :
    IO UInt32 := do
  let environment ← Environment.ofVariables fun name =>
    IO.getEnv name
  let directory : Path := ⟨toString (← IO.currentDir)⟩
  let base := directory.steps
  let before ← CommandLine.filesFor program environment base arguments
  let execution := CommandLine.execute program
    (machineWithoutTools base environment) arguments ⟨before, ()⟩
  writeChanges before execution.world.files
  IO.print execution.stdout
  IO.eprint execution.stderr
  return UInt32.ofNat execution.exitCode

end IsaUsage

open IsaUsage in
/-- Run the program that the first argument names. -/
def main (arguments : List String) : IO UInt32 := do
  let program? := arguments.head?.bind CommandLine.Program.ofName?
  match program? with
  | some program => runOnDisk program arguments.tail
  | none =>
      let names := CommandLine.Program.all.map CommandLine.Program.name
      IO.eprintln ("Usage: isa-usage <" ++ "|".intercalate names ++ "> [ARGS]")
      return UInt32.ofNat CommandLine.misuseExitCode
