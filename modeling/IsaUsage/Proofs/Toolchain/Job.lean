import IsaUsage.Proofs.Tool.Recording
import IsaUsage.Proofs.Toolchain.Hsail

namespace IsaUsage

/-!
# Jobs of a build

A build has two jobs, each of which is to make one output by one run of one tool.
A job is done, or it fails in one of four ways. Which of them it was shows in the
error, in the recorded runs and in the files that are left
(`HsailToolchain.jobFails_of_recorded_perform`).
-/

/-- An output that is to be made, and the tool that is started for it. -/
structure Job where
  output : Path
  tool : Path
  arguments : List String

namespace ToolchainConfig

/-- To make the binary of a kernel. -/
def compiling
    (config : ToolchainConfig)
    (kernel : String)
    (directory : Path) :
    Job where
  output := config.binaryPath directory kernel
  tool := config.compiler
  arguments := config.compilerArguments kernel

/-- To make the report of fixed name for a kernel. -/
def finalizing
    (config : ToolchainConfig)
    (kernel : String)
    (directory : Path) :
    Job where
  output := config.dumpPath directory
  tool := config.finalizer
  arguments := config.finalizerArguments kernel

end ToolchainConfig

/-- A run is one that a machine makes of a tool. -/
structure Machine.Runs
    (machine : Machine Memory)
    (tool : Path)
    (arguments : List String)
    (directory : Path)
    (run : ToolRun) :
    Prop where
  invoked :
    machine.invocation run.before tool arguments directory =
      .ok run.invocation
  behaved :
    ∃ before after,
      machine.behave run.invocation ⟨run.before, before⟩ =
        (run.exit, ⟨run.after, after⟩)

theorem Machine.Runs.arguments_eq
    {machine : Machine Memory}
    {tool directory : Path}
    {arguments : List String}
    {run : ToolRun}
    (runs : machine.Runs tool arguments directory run) :
    run.invocation.arguments = arguments := by
  obtain ⟨_, _, -, -, shape⟩ := Machine.invocation_eq_ok runs.invoked
  exact congrArg Invocation.arguments shape

namespace HsailToolchain

variable {toolchain : HsailToolchain Memory} {job : Job} {kernel : String}
  {directory : Path} {before after : FileSystem} {run : ToolRun}

/-- Do a job for a kernel. -/
def perform
    (toolchain : HsailToolchain Memory)
    (job : Job)
    (kernel : String)
    (directory : Path) :
    Action Memory Unit :=
  toolchain.produce job.output job.tool job.arguments kernel directory

/-- To build a kernel is to do both jobs and to keep the report. -/
theorem recorded_isaReport_eq
    (toolchain : HsailToolchain Memory)
    (kernel : String)
    (directory : Path) :
    toolchain.recorded.isaReport kernel directory = (do
      toolchain.recorded.perform (toolchain.config.compiling kernel directory)
        kernel directory
      toolchain.recorded.perform (toolchain.config.finalizing kernel directory)
        kernel directory
      toolchain.recorded.keepReport kernel directory) :=
  rfl

/-- The tool of a job runs where its output has been cleared away. -/
structure Starts
    (toolchain : HsailToolchain Memory)
    (job : Job)
    (directory : Path)
    (before : FileSystem)
    (run : ToolRun) :
    Prop where
  cleared : toolchain.Cleared job.output before run.before
  runs : toolchain.machine.Runs job.tool job.arguments directory run

/-- A job is done by a run that ends well and leaves the output. -/
structure Finishes
    (toolchain : HsailToolchain Memory)
    (job : Job)
    (directory : Path)
    (before : FileSystem)
    (run : ToolRun) :
    Prop
    extends toolchain.Starts job directory before run where
  success : run.exit.status.isSuccess = true
  present : run.after.isFile toolchain.base job.output = true

/-- A job fails with an error, after some runs, and leaves some files. -/
inductive JobFails
    (toolchain : HsailToolchain Memory)
    (job : Job)
    (kernel : String)
    (directory : Path)
    (before : FileSystem) :
    RunError → List ToolRun → FileSystem → Prop where
  /-- The output of an earlier run could not be cleared away. -/
  | blocked {failure : Failure} :
      before.removeFile toolchain.base job.output = .error failure →
        JobFails toolchain job kernel directory before
          (.unwritable job.output failure) [] before
  | notStarted {failure : Failure} {started : FileSystem} :
      toolchain.Cleared job.output before started →
        toolchain.machine.invocation started job.tool job.arguments directory =
            .error failure →
          JobFails toolchain job kernel directory before
            (.notStarted job.tool.text failure) [] started
  | failed {run : ToolRun} :
      toolchain.Starts job directory before run →
        run.exit.status.isSuccess = false →
          JobFails toolchain job kernel directory before
            (toolError job.tool kernel run.exit) [run] run.after
  /-- The tool ended well, but without its output. -/
  | missing {run : ToolRun} :
      toolchain.Starts job directory before run →
        run.exit.status.isSuccess = true →
          run.after.isFile toolchain.base job.output = false →
            JobFails toolchain job kernel directory before
              (.missingOutput kernel job.output) [run] run.after

section Recorded

variable {world : World (Memory × List ToolRun)} {error : RunError}

/-- A tool is not started, or its run is recorded with all that it did. -/
theorem recorded_runTool
    (toolchain : HsailToolchain Memory)
    (tool : Path)
    (arguments : List String)
    (kernel : String)
    (directory : Path)
    (world : World (Memory × List ToolRun)) :
    let effect := toolchain.recorded.runTool tool arguments kernel directory
      world
    (∃ failure,
        toolchain.machine.invocation world.files tool arguments directory =
            .error failure ∧
          effect.outcome = .error (.notStarted tool.text failure) ∧
          effect.world = world) ∨
      ∃ run : ToolRun,
        run.before = world.files ∧
          toolchain.machine.Runs tool arguments directory run ∧
          effect.outcome =
            (if run.exit.status.isSuccess then .ok ()
            else .error (toolError tool kernel run.exit)) ∧
          effect.world.memory.2 = world.memory.2 ++ [run] ∧
          effect.world.files = run.after := by
  intro effect
  cases invoked : toolchain.machine.invocation world.files tool arguments
      directory with
  | error failure =>
      exact Or.inl ⟨failure, rfl,
        @runTool_of_error _ toolchain.recorded _ _ _ _ _ _ invoked⟩
  | ok invocation =>
      obtain ⟨outcome, after⟩ :=
        @runTool_of_ok _ toolchain.recorded _ _ kernel _ world _ invoked
      let behaved := toolchain.machine.behave invocation world.forget
      refine Or.inr ⟨⟨invocation, world.files, behaved.1, behaved.2.files⟩, rfl,
        ⟨invoked, world.memory.1, behaved.2.memory, rfl⟩, outcome, ?_, ?_⟩
      · exact congrArg (fun left => left.memory.2) after
      · exact congrArg World.files after

/-- The run of a tool that ends well, on the files without its output. -/
theorem starts_of_recorded_runTool
    (cleared : (toolchain.recorded.clearStale job.output world).outcome =
      .ok ())
    (ran : (toolchain.recorded.runTool job.tool job.arguments kernel directory
      (toolchain.recorded.clearStale job.output world).world).outcome =
        .ok ()) :
    let effect := toolchain.recorded.runTool job.tool job.arguments kernel
      directory (toolchain.recorded.clearStale job.output world).world
    ∃ run,
      toolchain.Starts job directory world.files run ∧
        run.exit.status.isSuccess = true ∧
        effect.world.memory.2 = world.memory.2 ++ [run] ∧
        effect.world.files = run.after := by
  intro effect
  rcases recorded_runTool toolchain job.tool job.arguments kernel directory
      (toolchain.recorded.clearStale job.output world).world with
    ⟨failure, -, notStarted, -⟩ | ⟨run, started, runs, outcome, noted, left⟩
  · rw [notStarted] at ran
    contradiction
  · rw [outcome] at ran
    split at ran
    · rename_i success
      refine ⟨run, ⟨?_, runs⟩, success, ?_, left⟩
      · rw [started]
        exact (@clearStale_eq_ok _ toolchain.recorded _ _ cleared).2
      · rw [noted, (clearStale_eq_ok cleared).1]
    · contradiction

/-- What is recorded of a tool that does not end well, or is not started. -/
theorem jobFails_of_recorded_runTool
    (cleared : (toolchain.recorded.clearStale job.output world).outcome =
      .ok ())
    (failed : (toolchain.recorded.runTool job.tool job.arguments kernel
      directory
      (toolchain.recorded.clearStale job.output world).world).outcome =
        .error error) :
    let effect := toolchain.recorded.runTool job.tool job.arguments kernel
      directory (toolchain.recorded.clearStale job.output world).world
    ∃ runs,
      toolchain.JobFails job kernel directory world.files error runs
          effect.world.files ∧
        effect.world.memory.2 = world.memory.2 ++ runs := by
  intro effect
  have clearedFiles : toolchain.Cleared job.output world.files
      (toolchain.recorded.clearStale job.output world).world.files :=
    (@clearStale_eq_ok _ toolchain.recorded _ _ cleared).2
  rcases recorded_runTool toolchain job.tool job.arguments kernel directory
      (toolchain.recorded.clearStale job.output world).world with
    ⟨failure, invoked, notStarted, unchanged⟩ |
      ⟨run, started, runs, outcome, noted, left⟩
  · cases notStarted.symm.trans failed
    refine ⟨[], ?_, ?_⟩
    · rw [unchanged]
      exact .notStarted clearedFiles invoked
    · rw [unchanged, (clearStale_eq_ok cleared).1, List.append_nil]
  · rw [outcome] at failed
    split at failed
    · contradiction
    · rename_i unsuccessful
      cases failed
      refine ⟨[run], ?_, ?_⟩
      · rw [left]
        rw [← started] at clearedFiles
        exact .failed ⟨clearedFiles, runs⟩ (Bool.eq_false_iff.mpr unsuccessful)
      · rw [noted, (clearStale_eq_ok cleared).1]

/-- A job that is done adds one run to the record. -/
theorem finishes_of_recorded_perform
    (performed : (toolchain.recorded.perform job kernel directory
      world).outcome = .ok ()) :
    let effect := toolchain.recorded.perform job kernel directory world
    ∃ run,
      toolchain.Finishes job directory world.files run ∧
        effect.world.memory.2 = world.memory.2 ++ [run] ∧
        effect.world.files = run.after := by
  intro effect
  obtain ⟨_, cleared, ranAndThere, clearedWorld⟩ := Action.bind_eq_ok performed
  obtain ⟨_, ran, required, ranWorld⟩ := Action.bind_eq_ok ranAndThere
  obtain ⟨run, starts, success, noted, left⟩ :=
    starts_of_recorded_runTool cleared ran
  have present := requireOutput_eq_ok required
  have sameWorld := clearedWorld.trans (ranWorld.trans (world_requireOutput ..))
  rw [left] at present
  exact ⟨run, ⟨starts, success, present⟩, sameWorld ▸ noted, sameWorld ▸ left⟩

/-- A job that fails shows in the record how far it came. -/
theorem jobFails_of_recorded_perform
    (failed : (toolchain.recorded.perform job kernel directory
      world).outcome = .error error) :
    let effect := toolchain.recorded.perform job kernel directory world
    ∃ runs,
      toolchain.JobFails job kernel directory world.files error runs
          effect.world.files ∧
        effect.world.memory.2 = world.memory.2 ++ runs := by
  intro effect
  rcases Action.bind_eq_error failed with
    ⟨blocked, same⟩ | ⟨_, cleared, unfinished, clearedWorld⟩
  · obtain ⟨⟨failure, refused, rfl⟩, unchanged⟩ := clearStale_eq_error blocked
    have sameWorld : effect.world = world := same.trans unchanged
    rw [sameWorld]
    exact ⟨[], .blocked refused, (List.append_nil _).symm⟩
  · rcases Action.bind_eq_error unfinished with
      ⟨toolFailed, ranWorld⟩ | ⟨_, ran, unmade, ranWorld⟩
    · have sameWorld := clearedWorld.trans ranWorld
      exact sameWorld ▸ jobFails_of_recorded_runTool cleared toolFailed
    · obtain ⟨run, starts, success, noted, left⟩ :=
        starts_of_recorded_runTool cleared ran
      obtain ⟨rfl, missing⟩ := requireOutput_eq_error unmade
      have sameWorld :=
        clearedWorld.trans (ranWorld.trans (world_requireOutput ..))
      rw [left] at missing
      refine ⟨[run], ?_, sameWorld ▸ noted⟩
      rw [show effect.world.files = run.after from sameWorld ▸ left]
      exact .missing starts success missing

end Recorded

end HsailToolchain
end IsaUsage
