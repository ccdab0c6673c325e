import IsaUsage.Run.Action
import IsaUsage.Tool.Environment

namespace IsaUsage

/-!
# Starting tools

A machine is where tools run. It knows the directory that relative paths start
from, the directories in which tools are looked up by name, the environment that
tools inherit, and what each tool does in an environment: any change of the world
at all, followed by an exit status and two outputs. Nothing else is assumed of a
tool.
-/

/--
One start of a tool: which program, with what, and where. The environment is the
same for all starts on a machine.
-/
structure Invocation where
  program : Location
  arguments : List String
  directory : Location
  deriving DecidableEq

/-- What a tool leaves when it ends, apart from its changes to the world. -/
structure ToolExit where
  status : ExitStatus
  stdout : ByteArray
  stderr : ByteArray

/-- Where tools run, what they inherit, and what they do. -/
structure Machine (Memory : Type) where
  workingDirectory : Location
  searchPath : List Path
  environment : Environment
  behaveIn : Environment → Invocation → World Memory → ToolExit × World Memory

/-- The program a path names, seen from a directory. -/
def FileSystem.programAt
    (files : FileSystem)
    (directory : Location)
    (path : Path) :
    Except Failure Location := do
  match ← files.nodeAt directory path with
  | .directory => .error (.system .permissionDenied)
  | .file _ false => .error (.system .permissionDenied)
  | .file _ true => files.locate directory path

/--
The program of a given name in the directories of a search path. Directories
without it are passed over, and one that forbids it is remembered in case no
other directory has it.
-/
def FileSystem.lookUpProgram
    (files : FileSystem)
    (directory : Location)
    (name : Path)
    (otherwise : Failure) :
    List Path → Except Failure Location
  | [] => .error otherwise
  | place :: places =>
      match files.programAt directory (place.join name) with
      | .ok program => .ok program
      | .error (.system .permissionDenied) =>
          files.lookUpProgram directory name (.system .permissionDenied) places
      | .error (.system .notFound) =>
          files.lookUpProgram directory name otherwise places
      | .error (.system .notADirectory) =>
          files.lookUpProgram directory name otherwise places
      | .error failure => .error failure

namespace Machine

/-- The machine with another environment. -/
def inEnvironment (machine : Machine Memory) (environment : Environment) :
    Machine Memory :=
  { machine with environment := environment }

/-- What a tool does that inherits the environment. -/
def behave
    (machine : Machine Memory)
    (invocation : Invocation)
    (world : World Memory) :
    ToolExit × World Memory :=
  machine.behaveIn machine.environment invocation world

/--
The program that a tool path stands for. A path with a slash is followed from
the directory the tool is to run in; a bare name is looked up.
-/
def program
    (machine : Machine Memory)
    (files : FileSystem)
    (directory : Location)
    (tool : Path) :
    Except Failure Location :=
  if tool.text = "" then .error (.system .notFound)
  else if tool.parts.length > 1 then files.programAt directory tool
  else
    files.lookUpProgram directory tool (.system .notFound) machine.searchPath

/--
How a tool would be started. The directory it is to run in comes first: without
it no program is looked for.
-/
def invocation
    (machine : Machine Memory)
    (files : FileSystem)
    (tool : Path)
    (arguments : List String)
    (directory : Path) :
    Except Failure Invocation := do
  if tool.holdsNul || directory.holdsNul ||
      arguments.any (fun argument => Path.holdsNul ⟨argument⟩) then
    .error .nulInArgument
  else do
    let directory ← files.directoryAt machine.workingDirectory directory
    let program ← machine.program files directory tool
    .ok ⟨program, arguments, directory⟩

/-- Start a tool and wait for it to end. -/
def run
    (machine : Machine Memory)
    (tool : Path)
    (arguments : List String)
    (directory : Path) :
    Action Memory ToolExit :=
  fun world =>
    match machine.invocation world.files tool arguments directory with
    | .error failure => ⟨.error (.notStarted tool.text failure), world, []⟩
    | .ok invocation =>
        let (exit, world) := machine.behave invocation world
        ⟨.ok exit, world, []⟩

end Machine
end IsaUsage
