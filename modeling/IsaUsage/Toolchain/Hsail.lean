import IsaUsage.Toolchain.Basic
import IsaUsage.Toolchain.Config
import IsaUsage.Tool.Machine

namespace IsaUsage

/-!
# The HSAIL toolchain

A kernel is built in two steps: the compiler turns its source into a binary,
and the finalizer turns the binary into a report that always has the same name,
which is then renamed after the kernel. Whatever could be mistaken for the
output of a tool is removed before the tool starts, and the output has to be
there when the tool has ended.
-/

/-- The compiler and the finalizer, and the machine they run on. -/
structure HsailToolchain (Memory : Type) where
  config : ToolchainConfig
  machine : Machine Memory

namespace HsailToolchain

/-- Where relative paths start. -/
def base (toolchain : HsailToolchain Memory) : Location :=
  toolchain.machine.workingDirectory

/-- Note what a tool printed, unless it is blank. -/
def notePrinted (tool : Path) (kernel : String) (exit : ToolExit) :
    Action Memory Unit :=
  let output := (Text.decodeLossy exit.stdout).toList
  if Text.isBlankText output then pure ()
  else
    Action.log
      (.toolPrinted tool.text kernel (String.ofList (Text.trimEnd output)))

/-- Insist that a tool has ended well. -/
def requireSuccess (tool : Path) (kernel : String) (exit : ToolExit) :
    Action Memory Unit :=
  if exit.status.isSuccess then pure ()
  else
    Action.fail
      (.toolFailed tool.text kernel exit.status (Text.decodeLossy exit.stderr))

/-- Run a tool for a kernel; it has to end well. -/
def runTool
    (toolchain : HsailToolchain Memory)
    (tool : Path)
    (arguments : List String)
    (kernel : String)
    (directory : Path) :
    Action Memory Unit := do
  Action.log (.toolStarting tool.text arguments kernel)
  let exit ← toolchain.machine.run tool arguments directory
  notePrinted tool kernel exit
  requireSuccess tool kernel exit

/-- Remove an output of an earlier run, if there is one. -/
def clearStale (toolchain : HsailToolchain Memory) (path : Path) :
    Action Memory Unit :=
  fun world =>
    match world.files.removeFile toolchain.base path with
    | .ok files =>
        ⟨.ok (), { world with files := files }, [.logged (.staleRemoved path)]⟩
    | .error (.system .notFound) => ⟨.ok (), world, []⟩
    | .error failure => ⟨.error (.unwritable path failure), world, []⟩

/-- Insist that a tool has left its output. -/
def requireOutput
    (toolchain : HsailToolchain Memory)
    (path : Path)
    (kernel : String) :
    Action Memory Unit :=
  fun world =>
    if world.files.isFile toolchain.base path then
      ⟨.ok (), world, []⟩
    else
      ⟨.error (.missingOutput kernel path), world, []⟩

/-- Run a tool for one output: it is not there before, and has to be after. -/
def produce
    (toolchain : HsailToolchain Memory)
    (output : Path)
    (tool : Path)
    (arguments : List String)
    (kernel : String)
    (directory : Path) :
    Action Memory Unit := do
  toolchain.clearStale output
  toolchain.runTool tool arguments kernel directory
  toolchain.requireOutput output kernel

/-- Compile a kernel's source into its binary. -/
def compile
    (toolchain : HsailToolchain Memory)
    (kernel : String)
    (directory : Path) :
    Action Memory Unit :=
  toolchain.produce (toolchain.config.binaryPath directory kernel)
    toolchain.config.compiler (toolchain.config.compilerArguments kernel)
    kernel directory

/-- Finalize a kernel's binary into the report of fixed name. -/
def finalize
    (toolchain : HsailToolchain Memory)
    (kernel : String)
    (directory : Path) :
    Action Memory Unit :=
  toolchain.produce (toolchain.config.dumpPath directory)
    toolchain.config.finalizer (toolchain.config.finalizerArguments kernel)
    kernel directory

/-- Rename the report of fixed name after its kernel. -/
def keepReport
    (toolchain : HsailToolchain Memory)
    (kernel : String)
    (directory : Path) :
    Action Memory Path := do
  let report := toolchain.config.reportPath directory kernel
  Action.change
    (fun files =>
      files.renameFile toolchain.base (toolchain.config.dumpPath directory)
        report)
    (.unwritable report)
  Action.log
    (.reportReady kernel (toolchain.config.binaryPath directory kernel) report)
  return report

/-- Build a kernel in a directory that holds its source. -/
def isaReport
    (toolchain : HsailToolchain Memory)
    (kernel : String)
    (directory : Path) :
    Action Memory Path := do
  toolchain.compile kernel directory
  toolchain.finalize kernel directory
  toolchain.keepReport kernel directory

/-- The two tools as a toolchain. -/
def toToolchain (toolchain : HsailToolchain Memory) : Toolchain Memory where
  commandLine := fun kernel => pure (toolchain.config.compileCommand kernel)
  sourcePath := fun directory kernel =>
    pure (toolchain.config.sourcePath directory kernel)
  isaReport := toolchain.isaReport

end HsailToolchain
end IsaUsage
