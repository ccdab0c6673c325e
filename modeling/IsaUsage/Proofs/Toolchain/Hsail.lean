import IsaUsage.Proofs.File.Operation
import IsaUsage.Proofs.Run.Action
import IsaUsage.Toolchain.Hsail

namespace IsaUsage

/-!
# What the stages of a build establish

Every stage that ends well says in which state its tool was started and what the
tool left (`HsailToolchain.produce_eq_ok`).
-/

/-- A tool is started in the directory it is to run in, if it is found. -/
theorem Machine.invocation_eq_ok
    {machine : Machine Memory}
    {files : FileSystem}
    {tool directory : Path}
    {arguments : List String}
    {invocation : Invocation}
    (invoked : machine.invocation files tool arguments directory =
      .ok invocation) :
    ∃ place program,
      files.directoryAt machine.workingDirectory directory = .ok place ∧
        machine.program files place tool = .ok program ∧
        invocation = ⟨program, arguments, place⟩ := by
  unfold Machine.invocation at invoked
  split at invoked
  · contradiction
  · obtain ⟨place, resolved, invoked⟩ := bind_eq_ok_iff.mp invoked
    obtain ⟨program, found, invoked⟩ := bind_eq_ok_iff.mp invoked
    cases invoked
    exact ⟨place, program, resolved, found, rfl⟩

namespace HsailToolchain

variable {toolchain : HsailToolchain Memory}

/-- An output is removed from the files, or it was not there. -/
def Cleared
    (toolchain : HsailToolchain Memory)
    (output : Path)
    (before after : FileSystem) :
    Prop :=
  before.removeFile toolchain.base output = .ok after ∨
    before.removeFile toolchain.base output = .error (.system .notFound) ∧
      after = before

/-- Where an output was cleared there is nothing. -/
theorem Cleared.nothingAt
    {before after : FileSystem}
    {output : Path}
    (cleared : toolchain.Cleared output before after) :
    after.NothingAt toolchain.base output := by
  rcases cleared with removed | ⟨missing, rfl⟩
  · exact FileSystem.nothingAt_removeFile removed
  · exact FileSystem.nothingAt_of_removeFile missing

section Clearing

variable {path : Path} {world : World Memory}

/-- A leftover that can be removed is removed. -/
theorem clearStale_of_ok
    {files : FileSystem}
    (removed : world.files.removeFile toolchain.base path = .ok files) :
    (toolchain.clearStale path world).outcome = .ok () ∧
      (toolchain.clearStale path world).world =
        { world with files := files } := by
  simp [clearStale, removed]

/-- Without a leftover there is nothing to do. -/
theorem clearStale_of_notFound
    (removed : world.files.removeFile toolchain.base path =
      .error (.system .notFound)) :
    (toolchain.clearStale path world).outcome = .ok () ∧
      (toolchain.clearStale path world).world = world := by
  simp [clearStale, removed]

/-- A leftover that cannot be removed is reported as not writable. -/
theorem clearStale_of_error
    {failure : Failure}
    (removed : world.files.removeFile toolchain.base path = .error failure)
    (notMissing : failure ≠ .system .notFound) :
    (toolchain.clearStale path world).outcome =
        .error (.unwritable path failure) ∧
      (toolchain.clearStale path world).world = world := by
  unfold clearStale
  rw [removed]
  split
  · contradiction
  · rename_i same
    cases same
    exact (notMissing rfl).elim
  · rename_i same
    cases same
    exact ⟨rfl, rfl⟩

/--
Once clearing has succeeded, the output is cleared and nothing is remembered.
-/
theorem clearStale_eq_ok
    (cleared : (toolchain.clearStale path world).outcome = .ok ()) :
    (toolchain.clearStale path world).world.memory = world.memory ∧
      toolchain.Cleared path world.files
        (toolchain.clearStale path world).world.files := by
  unfold clearStale at cleared ⊢
  unfold Cleared
  generalize world.files.removeFile toolchain.base path = removed at cleared ⊢
  split at cleared
  · exact ⟨rfl, Or.inl rfl⟩
  · exact ⟨rfl, Or.inr ⟨rfl, rfl⟩⟩
  · contradiction

/-- What cannot be cleared away is an error, and stays. -/
theorem clearStale_eq_error
    {error : RunError}
    (failed : (toolchain.clearStale path world).outcome = .error error) :
    (∃ failure,
        world.files.removeFile toolchain.base path = .error failure ∧
          error = .unwritable path failure) ∧
      (toolchain.clearStale path world).world = world := by
  unfold clearStale at failed ⊢
  generalize world.files.removeFile toolchain.base path = removed at failed ⊢
  split at failed
  · contradiction
  · contradiction
  · rename_i failure _
    cases failed
    exact ⟨⟨failure, rfl, rfl⟩, rfl⟩

end Clearing

@[simp] theorem world_requireOutput
    (path : Path)
    (kernel : String)
    (world : World Memory) :
    (toolchain.requireOutput path kernel world).world = world := by
  unfold requireOutput
  split <;> rfl

/-- A required output is a file. -/
theorem requireOutput_eq_ok
    {path : Path}
    {kernel : String}
    {world : World Memory}
    (required : (toolchain.requireOutput path kernel world).outcome = .ok ()) :
    world.files.isFile toolchain.base path = true := by
  unfold requireOutput at required
  split at required
  · assumption
  · contradiction

/-- A missing output is reported as such. -/
theorem requireOutput_eq_error
    {path : Path}
    {kernel : String}
    {world : World Memory}
    {error : RunError}
    (failed : (toolchain.requireOutput path kernel world).outcome =
      .error error) :
    error = .missingOutput kernel path ∧
      world.files.isFile toolchain.base path = false := by
  unfold requireOutput at failed
  split at failed
  · contradiction
  · rename_i missing
    cases failed
    exact ⟨rfl, Bool.eq_false_iff.mpr missing⟩

@[simp] theorem outcome_notePrinted
    (tool : Path)
    (kernel : String)
    (exit : ToolExit)
    (world : World Memory) :
    (notePrinted tool kernel exit world).outcome = .ok () := by
  unfold notePrinted
  cases Text.isBlankText (Text.decodeLossy exit.stdout).toList <;> rfl

@[simp] theorem world_notePrinted
    (tool : Path)
    (kernel : String)
    (exit : ToolExit)
    (world : World Memory) :
    (notePrinted tool kernel exit world).world = world := by
  unfold notePrinted
  cases Text.isBlankText (Text.decodeLossy exit.stdout).toList <;> rfl

/-- What a tool that did not end well makes of a run. -/
def toolError (tool : Path) (kernel : String) (exit : ToolExit) : RunError :=
  .toolFailed tool.text kernel exit.status (Text.decodeLossy exit.stderr)

/-- An exit that is no success becomes the error of its tool. -/
@[simp] theorem outcome_requireSuccess
    (tool : Path)
    (kernel : String)
    (exit : ToolExit)
    (world : World Memory) :
    (requireSuccess tool kernel exit world).outcome =
      if exit.status.isSuccess then .ok ()
      else .error (toolError tool kernel exit) := by
  unfold requireSuccess
  cases exit.status.isSuccess <;> rfl

@[simp] theorem world_requireSuccess
    (tool : Path)
    (kernel : String)
    (exit : ToolExit)
    (world : World Memory) :
    (requireSuccess tool kernel exit world).world = world := by
  unfold requireSuccess
  cases exit.status.isSuccess <;> rfl

section Running

variable {tool : Path} {arguments : List String} {kernel : String}
  {directory : Path} {world : World Memory}

/-- A tool that cannot be started leaves the world as it is. -/
theorem runTool_of_error
    {failure : Failure}
    (invoked : toolchain.machine.invocation world.files tool arguments
      directory = .error failure) :
    (toolchain.runTool tool arguments kernel directory world).outcome =
        .error (.notStarted tool.text failure) ∧
      (toolchain.runTool tool arguments kernel directory world).world =
        world := by
  have run : toolchain.machine.run tool arguments directory world =
      ⟨.error (.notStarted tool.text failure), world, []⟩ := by
    simp [Machine.run, invoked]
  constructor <;> simp [runTool, Action.bind_apply, Action.log, run]

/-- A tool that is started changes the world as it likes, and then ends. -/
theorem runTool_of_ok
    {invocation : Invocation}
    (invoked : toolchain.machine.invocation world.files tool arguments
      directory = .ok invocation) :
    (toolchain.runTool tool arguments kernel directory world).outcome =
        (if (toolchain.machine.behave invocation world).1.status.isSuccess then
          .ok ()
        else
          .error (toolError tool kernel
            (toolchain.machine.behave invocation world).1)) ∧
      (toolchain.runTool tool arguments kernel directory world).world =
        (toolchain.machine.behave invocation world).2 := by
  have run : toolchain.machine.run tool arguments directory world =
      ⟨.ok (toolchain.machine.behave invocation world).1,
        (toolchain.machine.behave invocation world).2, []⟩ := by
    simp [Machine.run, invoked]
  constructor <;> simp [runTool, Action.bind_apply, Action.log, run]

/-- A tool that succeeded was started, and the world is the one it left. -/
theorem runTool_eq_ok
    (ran : (toolchain.runTool tool arguments kernel directory world).outcome =
      .ok ()) :
    ∃ invocation,
      toolchain.machine.invocation world.files tool arguments directory =
          .ok invocation ∧
        (toolchain.machine.behave invocation world).1.status.isSuccess =
          true ∧
        (toolchain.runTool tool arguments kernel directory world).world =
          (toolchain.machine.behave invocation world).2 := by
  cases invoked : toolchain.machine.invocation world.files tool arguments
      directory with
  | error failure =>
      rw [(runTool_of_error invoked).1] at ran
      contradiction
  | ok invocation =>
      obtain ⟨outcome, after⟩ := @runTool_of_ok _ _ _ _ kernel _ _ _ invoked
      rw [outcome] at ran
      split at ran
      · rename_i success
        exact ⟨invocation, rfl, success, after⟩
      · contradiction

/--
An output that was produced was not there when its tool was started, and was
there when the tool had ended well.
-/
theorem produce_eq_ok
    {output : Path}
    (produced :
      (toolchain.produce output tool arguments kernel directory world).outcome =
        .ok ()) :
    ∃ started invocation,
      started.memory = world.memory ∧
        started.files.NothingAt toolchain.base output ∧
        toolchain.machine.invocation started.files tool arguments directory =
          .ok invocation ∧
        (toolchain.machine.behave invocation started).1.status.isSuccess =
          true ∧
        (toolchain.machine.behave invocation started).2.files.isFile
          toolchain.base output = true ∧
        (toolchain.produce output tool arguments kernel directory world).world =
          (toolchain.machine.behave invocation started).2 := by
  obtain ⟨_, cleared, ranAndThere, clearedWorld⟩ :=
    Action.bind_eq_ok produced
  obtain ⟨_, ran, required, ranWorld⟩ := Action.bind_eq_ok ranAndThere
  obtain ⟨sameMemory, clearedFiles⟩ := clearStale_eq_ok cleared
  obtain ⟨invocation, invoked, success, after⟩ := runTool_eq_ok ran
  have isFile := requireOutput_eq_ok required
  refine ⟨_, invocation, sameMemory, clearedFiles.nothingAt, invoked, success,
    ?_, ?_⟩
  · rw [← after]
    exact isFile
  · rw [produce, clearedWorld, ranWorld, world_requireOutput, after]

end Running

section Keeping

variable {kernel : String} {directory : Path} {world : World Memory}

/-- A dump that cannot be moved is reported as not writable. -/
theorem keepReport_of_error
    {failure : Failure}
    (renamed : world.files.renameFile toolchain.base
      (toolchain.config.dumpPath directory)
      (toolchain.config.reportPath directory kernel) = .error failure) :
    toolchain.keepReport kernel directory world =
      ⟨.error (.unwritable (toolchain.config.reportPath directory kernel)
        failure), world, []⟩ := by
  rw [keepReport, Action.bind_apply, Action.change_of_error renamed]

/-- A dump that can be moved is kept as the report. -/
theorem keepReport_of_ok
    {files : FileSystem}
    (renamed : world.files.renameFile toolchain.base
      (toolchain.config.dumpPath directory)
      (toolchain.config.reportPath directory kernel) = .ok files) :
    (toolchain.keepReport kernel directory world).outcome =
        .ok (toolchain.config.reportPath directory kernel) ∧
      (toolchain.keepReport kernel directory world).world =
        { world with files := files } := by
  rw [keepReport, Action.bind_apply, Action.change_of_ok renamed]
  exact ⟨rfl, rfl⟩

/-- A report that is not kept leaves everything as the finalizer left it. -/
theorem keepReport_eq_error
    {error : RunError}
    (failed : (toolchain.keepReport kernel directory world).outcome =
      .error error) :
    (∃ failure,
        world.files.renameFile toolchain.base
            (toolchain.config.dumpPath directory)
            (toolchain.config.reportPath directory kernel) = .error failure ∧
          error =
            .unwritable (toolchain.config.reportPath directory kernel)
              failure) ∧
      (toolchain.keepReport kernel directory world).world = world := by
  cases renamed : world.files.renameFile toolchain.base
      (toolchain.config.dumpPath directory)
      (toolchain.config.reportPath directory kernel) with
  | error failure =>
      rw [keepReport_of_error renamed] at failed ⊢
      cases failed
      exact ⟨⟨failure, rfl, rfl⟩, rfl⟩
  | ok files =>
      rw [(keepReport_of_ok renamed).1] at failed
      contradiction

/-- A kept report is the dump of the finalizer under another name. -/
theorem keepReport_eq_ok
    {report : Path}
    (kept : (toolchain.keepReport kernel directory world).outcome =
      .ok report) :
    report = toolchain.config.reportPath directory kernel ∧
      (toolchain.keepReport kernel directory world).world.memory =
        world.memory ∧
      world.files.renameFile toolchain.base
          (toolchain.config.dumpPath directory) report =
        .ok (toolchain.keepReport kernel directory world).world.files := by
  cases renamed : world.files.renameFile toolchain.base
      (toolchain.config.dumpPath directory)
      (toolchain.config.reportPath directory kernel) with
  | error failure =>
      rw [keepReport_of_error renamed] at kept
      contradiction
  | ok files =>
      obtain ⟨outcome, after⟩ := keepReport_of_ok renamed
      rw [outcome, Except.ok.injEq] at kept
      subst report
      rw [after]
      exact ⟨rfl, rfl, renamed⟩

end Keeping

/-- A build that returns a report went through all its stages. -/
theorem isaReport_eq_ok
    {kernel : String}
    {directory report : Path}
    {world : World Memory}
    (built : (toolchain.isaReport kernel directory world).outcome =
      .ok report) :
    ∃ compiled finalized,
      (toolchain.compile kernel directory world).outcome = .ok () ∧
        (toolchain.compile kernel directory world).world = compiled ∧
        (toolchain.finalize kernel directory compiled).outcome = .ok () ∧
        (toolchain.finalize kernel directory compiled).world = finalized ∧
        (toolchain.keepReport kernel directory finalized).outcome =
          .ok report ∧
        (toolchain.isaReport kernel directory world).world =
          (toolchain.keepReport kernel directory finalized).world := by
  obtain ⟨_, compiled, rest, compiledWorld⟩ := Action.bind_eq_ok built
  obtain ⟨_, finalized, kept, finalizedWorld⟩ := Action.bind_eq_ok rest
  exact ⟨_, _, compiled, rfl, finalized, rfl, kept,
    compiledWorld.trans finalizedWorld⟩

end HsailToolchain
end IsaUsage
