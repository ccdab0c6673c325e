import IsaUsage.Proofs.Run.Recording
import IsaUsage.Toolchain.Hsail

namespace IsaUsage

/-!
# Watching the tools

A machine can be made to record in its memory which tools it ran, on which files
they ran, and what came of it. The record changes nothing else: apart from it, a
toolchain on the recording machine does what it does on the machine itself
(`HsailToolchain.records_isaReport`). So the record of a run tells what the tools
of the plain run met and left.
-/

/-- One run of a tool, with the files as it met them and as it left them. -/
structure ToolRun where
  invocation : Invocation
  before : FileSystem
  exit : ToolExit
  after : FileSystem

/-- The machine that adds every run of a tool to a record. -/
def Machine.recorded (machine : Machine Memory) :
    Machine (Memory × List ToolRun) where
  workingDirectory := machine.workingDirectory
  searchPath := machine.searchPath
  environment := machine.environment
  behaveIn environment invocation world :=
    let (exit, after) := machine.behaveIn environment invocation world.forget
    let run : ToolRun := ⟨invocation, world.files, exit, after.files⟩
    (exit, ⟨after.files, (after.memory, world.memory.2 ++ [run])⟩)

/-- The same tools on the machine that records their runs. -/
def HsailToolchain.recorded (toolchain : HsailToolchain Memory) :
    HsailToolchain (Memory × List ToolRun) where
  config := toolchain.config
  machine := toolchain.machine.recorded

/-- The tool runs of building one kernel, in order. -/
def HsailToolchain.reportRuns
    (toolchain : HsailToolchain Memory)
    (kernel : String)
    (directory : Path)
    (world : World Memory) :
    List ToolRun :=
  (toolchain.recorded.isaReport kernel directory world.recording).world.memory.2

namespace HsailToolchain

variable (toolchain : HsailToolchain Memory)

/-- Clearing an output does the same where runs are recorded. -/
theorem records_clearStale (path : Path) :
    Action.Records (toolchain.recorded.clearStale path)
      (toolchain.clearStale path) := by
  intro world
  have sameBase : toolchain.recorded.base = toolchain.base := rfl
  have sameFiles : world.forget.files = world.files := rfl
  unfold clearStale
  rw [sameBase, sameFiles]
  generalize world.files.removeFile toolchain.base path = removed
  split <;> rfl

theorem records_requireOutput (path : Path) (kernel : String) :
    Action.Records (toolchain.recorded.requireOutput path kernel)
      (toolchain.requireOutput path kernel) := by
  intro world
  have sameBase : toolchain.recorded.base = toolchain.base := rfl
  cases isFile : world.files.isFile toolchain.base path <;>
    simp [requireOutput, sameBase, Effect.forget, World.forget, isFile]

/-- A tool does the same where its runs are recorded. -/
theorem records_run
    (tool : Path)
    (arguments : List String)
    (directory : Path) :
    Action.Records (toolchain.recorded.machine.run tool arguments directory)
      (toolchain.machine.run tool arguments directory) := by
  intro world
  have sameInvocation :
      toolchain.recorded.machine.invocation world.files tool arguments
          directory =
        toolchain.machine.invocation world.files tool arguments directory :=
    rfl
  have sameFiles : world.forget.files = world.files := rfl
  unfold Machine.run
  rw [sameInvocation, sameFiles]
  generalize toolchain.machine.invocation world.files tool arguments directory =
    invoked
  cases invoked <;> rfl

/-- Running a tool for a kernel does the same where runs are recorded. -/
theorem records_runTool
    (tool : Path)
    (arguments : List String)
    (kernel : String)
    (directory : Path) :
    Action.Records
      (toolchain.recorded.runTool tool arguments kernel directory)
      (toolchain.runTool tool arguments kernel directory) := by
  unfold runTool
  apply Action.Records.bind (Action.Records.log _)
  intro _
  apply Action.Records.bind (toolchain.records_run tool arguments directory)
  intro exit
  apply Action.Records.bind
  · exact Action.Records.ite (Action.Records.pure _) (Action.Records.log _)
  · intro _
    exact Action.Records.ite (Action.Records.pure _) (Action.Records.fail _)

/-- Producing an output does the same where runs are recorded. -/
theorem records_produce
    (output tool : Path)
    (arguments : List String)
    (kernel : String)
    (directory : Path) :
    Action.Records
      (toolchain.recorded.produce output tool arguments kernel directory)
      (toolchain.produce output tool arguments kernel directory) := by
  unfold produce
  apply Action.Records.bind (toolchain.records_clearStale output)
  intro _
  apply Action.Records.bind
    (toolchain.records_runTool tool arguments kernel directory)
  intro _
  exact toolchain.records_requireOutput output kernel

/-- Recording the tools does not change what becomes of a kernel. -/
theorem records_isaReport (kernel : String) (directory : Path) :
    Action.Records (toolchain.recorded.isaReport kernel directory)
      (toolchain.isaReport kernel directory) := by
  unfold isaReport
  apply Action.Records.bind (toolchain.records_produce _ _ _ _ _)
  intro _
  apply Action.Records.bind (toolchain.records_produce _ _ _ _ _)
  intro _
  unfold keepReport
  apply Action.Records.bind (Action.Records.change _ _)
  intro _
  apply Action.Records.bind (Action.Records.log _)
  intro _
  exact Action.Records.pure _

end HsailToolchain
end IsaUsage
