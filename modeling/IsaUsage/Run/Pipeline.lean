import IsaUsage.Kernel.Division
import IsaUsage.Report.File
import IsaUsage.Toolchain.Basic

namespace IsaUsage

/-!
# From a document to a summary

The kernels of a document are built one after the other: each one's text is
written to its file, the toolchain builds it, and its report is analyzed. The
caller hears of every kernel as soon as its usage is known. The first failure
ends the run.
-/

/-- A toolchain, and where it puts what it builds. -/
structure Pipeline (Memory : Type) where
  toolchain : Toolchain Memory
  outputDirectory : Path
  workingDirectory : Location

namespace Pipeline

/-- Write the stand-alone text of a kernel. -/
def writeArtifact
    (pipeline : Pipeline Memory)
    (name artifact : String) :
    Action Memory Unit := do
  let path ← pipeline.toolchain.sourcePath pipeline.outputDirectory name
  Action.change
    (fun files =>
      files.createFile pipeline.workingDirectory path artifact.toUTF8)
    (.unwritable path)
  Action.log (.artifactWritten name path)

/-- Build one kernel and find out its usage. -/
def process
    (pipeline : Pipeline Memory)
    (name artifact : String) :
    Action Memory KernelUsage := do
  let command ← pipeline.toolchain.commandLine name
  pipeline.writeArtifact name artifact
  let report ← pipeline.toolchain.isaReport name pipeline.outputDirectory
  let usage ← analyzeReport pipeline.workingDirectory report
  return {
    kernel := name
    command := command
    usage := usage
  }

/-- Build one kernel, tell the caller, and add it to a summary. -/
def advance
    (pipeline : Pipeline Memory)
    (onKernel : KernelUsage → Action Memory Unit)
    (summary : Summary)
    (artifact : String × String) :
    Action Memory Summary := do
  let kernel ← pipeline.process artifact.1 artifact.2
  onKernel kernel
  return summary.push kernel

/-- Build kernels in order, adding them to a summary. -/
def runArtifacts
    (pipeline : Pipeline Memory)
    (onKernel : KernelUsage → Action Memory Unit)
    (summary : Summary)
    (artifacts : List (String × String)) :
    Action Memory Summary :=
  artifacts.foldlM (pipeline.advance onKernel) summary

/-- Build the kernels of a document. -/
def runDocument
    (pipeline : Pipeline Memory)
    (onKernel : KernelUsage → Action Memory Unit)
    (document : Document) :
    Action Memory Summary := do
  let summary ← pipeline.runArtifacts onKernel .empty document.artifacts
  Action.log (.documentDone summary.kernels.length summary.totals)
  return summary

/-- Divide a text, noting what is found, and build its kernels. -/
def runText
    (pipeline : Pipeline Memory)
    (onKernel : KernelUsage → Action Memory Unit)
    (text : String) :
    Action Memory Summary := do
  let division := Division.ofText text
  Action.logAll division.log
  pipeline.runDocument onKernel division.closed

/-- Build the kernels of a document on disk. -/
def runFile
    (pipeline : Pipeline Memory)
    (onKernel : KernelUsage → Action Memory Unit)
    (source : Path) :
    Action Memory Summary := do
  let text ← Action.inspect
    (fun files => files.readText pipeline.workingDirectory source)
    (.unreadable source)
  Action.log (.sourceRead source text.utf8ByteSize)
  pipeline.runText onKernel text

end Pipeline
end IsaUsage
