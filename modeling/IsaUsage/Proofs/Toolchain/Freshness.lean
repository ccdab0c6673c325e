import IsaUsage.Proofs.Tool.Translation
import IsaUsage.Proofs.Toolchain.Job

namespace IsaUsage.HsailToolchain

/-!
# Fresh reports

A report that a build returns is what the finalizer of this very build wrote.
The tools are watched through a recording machine, so that the statement is about
the states in which they were started and ended, whatever they do and whatever
was there before.
-/

/--
A report is fresh: two tools ran, neither met an output that it could have been
credited with, and what the second one left is what the report holds.
-/
structure IsFresh
    (toolchain : HsailToolchain Memory)
    (kernel : String)
    (directory report : Path)
    (compiler finalizer : ToolRun)
    (files : FileSystem) :
    Prop where
  report_eq : report = toolchain.config.reportPath directory kernel
  compiler_arguments :
    compiler.invocation.arguments = toolchain.config.compilerArguments kernel
  finalizer_arguments :
    finalizer.invocation.arguments = toolchain.config.finalizerArguments kernel
  binary_absent :
    compiler.before.NothingAt toolchain.base
      (toolchain.config.binaryPath directory kernel)
  dump_absent :
    finalizer.before.NothingAt toolchain.base
      (toolchain.config.dumpPath directory)
  compiler_success : compiler.exit.status.isSuccess = true
  finalizer_success : finalizer.exit.status.isSuccess = true
  binary_present :
    compiler.after.isFile toolchain.base
      (toolchain.config.binaryPath directory kernel) = true
  /-- The report holds the bytes that the finalizer left. -/
  report_bytes :
    ∃ bytes,
      finalizer.after.readFile toolchain.base
          (toolchain.config.dumpPath directory) = .ok bytes ∧
        files.readFile toolchain.base report = .ok bytes
  /-- The dump is gone, unless it and the report are one file. -/
  dump_gone :
    files.NothingAt toolchain.base (toolchain.config.dumpPath directory) ∨
      ∃ location,
        finalizer.after.locate toolchain.base
            (toolchain.config.dumpPath directory) = .ok location ∧
          finalizer.after.locate toolchain.base report = .ok location

/-- The bytes of a file that was moved are found under its new name. -/
theorem readFile_renameFile
    {before after : FileSystem}
    {base : Location}
    {source destination : Path}
    (isFile : before.isFile base source = true)
    (renamed : before.renameFile base source destination = .ok after) :
    (∃ bytes,
      before.readFile base source = .ok bytes ∧
        after.readFile base destination = .ok bytes) ∧
      (after.NothingAt base source ∨
        ∃ location,
          before.locate base source = .ok location ∧
            before.locate base destination = .ok location) := by
  have moved := FileSystem.sameDirectories_renameFile renamed
  obtain ⟨oldLocation, newLocation, contents, isProgram, oldNames, newNames,
    found, -, noSlash, rfl⟩ := FileSystem.renameFile_eq_ok renamed
  constructor
  · obtain ⟨location, _, _, located, _, oldNoSlash⟩ :=
      FileSystem.isFile_iff.mp isFile
    refine ⟨contents, ?_, ?_⟩
    · rw [FileSystem.readFile_eq_ok_iff]
      exact ⟨oldLocation, isProgram, oldNames.locate, found, oldNoSlash⟩
    · rw [FileSystem.readFile_eq_ok_iff]
      exact ⟨newLocation, isProgram, moved.locate newNames.locate, by simp,
        noSlash⟩
  · by_cases same : newLocation = oldLocation
    · subst newLocation
      exact Or.inr ⟨oldLocation, oldNames.locate, newNames.locate⟩
    · refine Or.inl (FileSystem.nothingAt_of_locate
        (moved.locate oldNames.locate) ?_)
      simp [same]

/-- One stage of a build adds one run, which made the output of the stage. -/
theorem run_of_recorded_produce
    {toolchain : HsailToolchain Memory}
    {output tool : Path}
    {arguments : List String}
    {kernel : String}
    {directory : Path}
    {world after : World (Memory × List ToolRun)}
    (produced : (toolchain.recorded.produce output tool arguments kernel
      directory world).outcome = .ok ())
    (ended : (toolchain.recorded.produce output tool arguments kernel
      directory world).world = after) :
    ∃ run : ToolRun,
      after.memory.2 = world.memory.2 ++ [run] ∧
        after.files = run.after ∧
        run.invocation.arguments = arguments ∧
        run.before.NothingAt toolchain.base output ∧
        run.exit.status.isSuccess = true ∧
        run.after.isFile toolchain.base output = true := by
  obtain ⟨run, finishes, noted, left⟩ :=
    @finishes_of_recorded_perform _ toolchain ⟨output, tool, arguments⟩ _ _ _
      produced
  subst ended
  exact ⟨run, noted, left, finishes.runs.arguments_eq,
    finishes.cleared.nothingAt, finishes.success, finishes.present⟩

/--
A build that returns a report started both tools where their outputs were
missing, and returns what the finalizer wrote.
-/
theorem isaReport_isFresh
    {toolchain : HsailToolchain Memory}
    {kernel : String}
    {directory report : Path}
    {world : World Memory}
    (built : (toolchain.isaReport kernel directory world).outcome =
      .ok report) :
    ∃ compiler finalizer,
      toolchain.reportRuns kernel directory world = [compiler, finalizer] ∧
        toolchain.IsFresh kernel directory report compiler finalizer
          (toolchain.isaReport kernel directory world).world.files := by
  have recorded :=
    toolchain.records_isaReport kernel directory world.recording
  have sameOutcome : (toolchain.recorded.isaReport kernel directory
      world.recording).outcome = .ok report :=
    (congrArg Effect.outcome recorded).trans built
  have sameFiles : (toolchain.recorded.isaReport kernel directory
      world.recording).world.files =
        (toolchain.isaReport kernel directory world).world.files :=
    congrArg (fun effect => effect.world.files) recorded
  rw [← sameFiles, reportRuns]
  obtain ⟨compiledWorld, finalizedWorld, compiled, compiledEnd, finalized,
    finalizedEnd, kept, keptEnd⟩ := isaReport_eq_ok sameOutcome
  obtain ⟨compiler, compilerNoted, -, compilerArguments, binaryAbsent,
    compilerSuccess, binaryPresent⟩ :=
      run_of_recorded_produce compiled compiledEnd
  obtain ⟨finalizer, finalizerNoted, finalizerLeft, finalizerArguments,
    dumpAbsent, finalizerSuccess, dumpPresent⟩ :=
      run_of_recorded_produce finalized finalizedEnd
  obtain ⟨reportShape, keptMemory, renamed⟩ := keepReport_eq_ok kept
  rw [finalizerLeft] at renamed
  obtain ⟨bytes, gone⟩ := readFile_renameFile dumpPresent renamed
  rw [keptEnd]
  refine ⟨compiler, finalizer, ?_, reportShape, compilerArguments,
    finalizerArguments, binaryAbsent, dumpAbsent, compilerSuccess,
    finalizerSuccess, binaryPresent, bytes, gone⟩
  rw [keptMemory, finalizerNoted, compilerNoted]
  rfl

/-- A workshop in which a binary and a report of earlier runs were left. -/
def staleWorkshop : World Unit where
  files :=
    ((FileSystem.workshop.put ["w", "k.cl"] (.file "new".toUTF8 false)).put
      ["w", "k.brig"] (.file "old".toUTF8 false)).put
      ["w", "isa.txt"] (.file "old".toUTF8 false)
  memory := ()

theorem isaReport_isFresh_staleWorkshop :
    (copying.isaReport "k" ⟨"w"⟩ staleWorkshop).outcome =
        .ok ⟨"w/k.isa"⟩ ∧
      ∃ compiler finalizer,
        copying.reportRuns "k" ⟨"w"⟩ staleWorkshop = [compiler, finalizer] ∧
          @IsFresh Unit copying "k" ⟨"w"⟩ ⟨"w/k.isa"⟩ compiler finalizer
            (copying.isaReport "k" ⟨"w"⟩ staleWorkshop).world.files := by
  have built : (copying.isaReport "k" ⟨"w"⟩ staleWorkshop).outcome =
      .ok ⟨"w/k.isa"⟩ :=
    eq_ok_of_toOption (by decide +kernel)
  exact ⟨built, isaReport_isFresh built⟩

end IsaUsage.HsailToolchain
