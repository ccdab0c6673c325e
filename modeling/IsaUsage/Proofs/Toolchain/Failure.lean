import IsaUsage.Proofs.File.Confinement
import IsaUsage.Proofs.Tool.Translation
import IsaUsage.Proofs.Toolchain.Job
import IsaUsage.Proofs.Toolchain.Naming
import Mathlib.Control.Monad.Basic

namespace IsaUsage.HsailToolchain

/-!
# Builds that fail

A build that fails has stopped at its first failing stage (`isaReport_fails`). From
the stage follows what each error says about the tools and the files, and that the
build has left the report of an earlier one alone (`isaReport_failsCleanly`).
-/

open FileSystem

/-- A build fails with an error, after some tool runs, and leaves some files. -/
inductive BuildFails
    (toolchain : HsailToolchain Memory)
    (kernel : String)
    (directory : Path)
    (before : FileSystem) :
    RunError → List ToolRun → FileSystem → Prop where
  | compiling {error : RunError} {runs : List ToolRun} {after : FileSystem} :
      toolchain.JobFails (toolchain.config.compiling kernel directory) kernel
          directory before error runs after →
        BuildFails toolchain kernel directory before error runs after
  | finalizing
      {compiler : ToolRun}
      {error : RunError}
      {runs : List ToolRun}
      {after : FileSystem} :
      toolchain.Finishes (toolchain.config.compiling kernel directory) directory
          before compiler →
        toolchain.JobFails (toolchain.config.finalizing kernel directory) kernel
            directory compiler.after error runs after →
          BuildFails toolchain kernel directory before error (compiler :: runs)
            after
  /-- Both tools did their jobs, but the report could not be renamed. -/
  | keeping {compiler finalizer : ToolRun} {failure : Failure} :
      toolchain.Finishes (toolchain.config.compiling kernel directory) directory
          before compiler →
        toolchain.Finishes (toolchain.config.finalizing kernel directory)
            directory compiler.after finalizer →
          finalizer.after.renameFile toolchain.base
              (toolchain.config.dumpPath directory)
              (toolchain.config.reportPath directory kernel) =
                .error failure →
            BuildFails toolchain kernel directory before
              (.unwritable (toolchain.config.reportPath directory kernel)
                failure)
              [compiler, finalizer] finalizer.after

variable {toolchain : HsailToolchain Memory} {kernel : String}
  {directory : Path} {world : World Memory} {error : RunError}

/-- A build that fails has stopped at one of its stages. -/
theorem isaReport_fails
    (failed : (toolchain.isaReport kernel directory world).outcome =
      .error error) :
    toolchain.BuildFails kernel directory world.files error
      (toolchain.reportRuns kernel directory world)
      (toolchain.isaReport kernel directory world).world.files := by
  have records := toolchain.records_isaReport kernel directory
  rw [← records.outcome_eq, recorded_isaReport_eq] at failed
  rw [← records.files_eq, reportRuns, recorded_isaReport_eq]
  rcases Action.bind_eq_error failed with
    ⟨uncompiled, stopped⟩ | ⟨_, compiled, unfinished, compiledWorld⟩
  · obtain ⟨runs, fails, noted⟩ := jobFails_of_recorded_perform uncompiled
    rw [stopped, noted]
    exact .compiling fails
  · obtain ⟨compiler, compiles, compilerNoted, compilerLeft⟩ :=
      finishes_of_recorded_perform compiled
    rcases Action.bind_eq_error unfinished with
      ⟨unfinalized, stopped⟩ | ⟨_, finalized, unkept, finalizedWorld⟩
    · obtain ⟨runs, fails, noted⟩ := jobFails_of_recorded_perform unfinalized
      rw [compilerLeft] at fails
      rw [compiledWorld, stopped, noted, compilerNoted]
      exact .finalizing compiles fails
    · obtain ⟨finalizer, finalizes, finalizerNoted, finalizerLeft⟩ :=
        finishes_of_recorded_perform finalized
      obtain ⟨⟨failure, refused, rfl⟩, unchanged⟩ := keepReport_eq_error unkept
      rw [compilerLeft] at finalizes
      rw [finalizerLeft] at refused
      rw [compiledWorld, finalizedWorld, unchanged, finalizerNoted,
        compilerNoted, finalizerLeft]
      exact .keeping compiles finalizes refused

/-- A compiler that does not do its job ends the build. -/
theorem jobFails_of_compile
    (failed : (toolchain.compile kernel directory world).outcome =
      .error error) :
    toolchain.JobFails (toolchain.config.compiling kernel directory) kernel
      directory world.files error (toolchain.reportRuns kernel directory world)
      (toolchain.isaReport kernel directory world).world.files := by
  have compileRecords :
      Action.Records (toolchain.recorded.compile kernel directory)
        (toolchain.compile kernel directory) :=
    toolchain.records_produce _ _ _ _ _
  have records := toolchain.records_isaReport kernel directory
  rw [← compileRecords.outcome_eq] at failed
  rw [← records.files_eq, reportRuns, isaReport,
    (Action.bind_of_error failed).2]
  obtain ⟨runs, fails, noted⟩ :=
    @jobFails_of_recorded_perform _ toolchain
      (toolchain.config.compiling kernel directory) _ _ _ _ failed
  have onlyRuns : (toolchain.recorded.compile kernel directory
      world.recording).world.memory.2 = runs :=
    noted
  rw [onlyRuns]
  exact fails

section Keeping

variable {job : Job} {before after : FileSystem} {run : ToolRun}
  {runs : List ToolRun} {path : Path} {below : Location}

/-- Clearing an output leaves the directories the same. -/
theorem Cleared.sameDirectories
    {output : Path}
    (cleared : toolchain.Cleared output before after) :
    SameDirectories before after := by
  rcases cleared with removed | ⟨-, rfl⟩
  · exact (changedOnlyAt_removeFile removed).2
  · exact fun _ => Iff.rfl

/-- Clearing an output leaves alone what is out of its reach. -/
theorem Cleared.findBelow_eq
    {output : Path}
    (cleared : toolchain.Cleared output before after)
    (outOfReach : OutOfReach toolchain.base [output] path below) :
    after.findBelow toolchain.base path below =
      before.findBelow toolchain.base path below := by
  rcases cleared with removed | ⟨-, rfl⟩
  · obtain ⟨changed, same⟩ := changedOnlyAt_removeFile removed
    exact changed.findBelow_eq same outOfReach
  · rfl

/-- What neither the clearing nor the tool reaches is there after a run. -/
theorem Starts.findBelow_eq
    (starts : toolchain.Starts job directory before run)
    (untouched : run.after.findBelow toolchain.base path below =
      run.before.findBelow toolchain.base path below)
    (outOfReach : OutOfReach toolchain.base [job.output] path below) :
    run.after.findBelow toolchain.base path below =
      before.findBelow toolchain.base path below :=
  untouched.trans (starts.cleared.findBelow_eq outOfReach)

/--
A job that fails leaves alone what its tool does, out of reach of its output.
-/
theorem JobFails.findBelow_eq
    (fails : toolchain.JobFails job kernel directory before error runs after)
    (untouched : ∀ run ∈ runs,
      run.after.findBelow toolchain.base path below =
        run.before.findBelow toolchain.base path below)
    (outOfReach : OutOfReach toolchain.base [job.output] path below) :
    after.findBelow toolchain.base path below =
      before.findBelow toolchain.base path below := by
  cases fails with
  | blocked _ =>
      rfl
  | notStarted cleared _ =>
      exact cleared.findBelow_eq outOfReach
  | failed starts _ =>
      exact starts.findBelow_eq (untouched _ List.mem_cons_self) outOfReach
  | missing starts _ _ =>
      exact starts.findBelow_eq (untouched _ List.mem_cons_self) outOfReach

/-- What neither the build nor its tools reach is there after the build. -/
theorem BuildFails.findBelow_eq
    (fails : toolchain.BuildFails kernel directory before error runs after)
    (untouched : ∀ run ∈ runs,
      run.after.findBelow toolchain.base path below =
        run.before.findBelow toolchain.base path below)
    (outOfReach : OutOfReach toolchain.base
      [toolchain.config.binaryPath directory kernel,
        toolchain.config.dumpPath directory]
      path below) :
    after.findBelow toolchain.base path below =
      before.findBelow toolchain.base path below := by
  have ofBinary : OutOfReach toolchain.base
      [(toolchain.config.compiling kernel directory).output] path below :=
    outOfReach.of_mem List.mem_cons_self
  have ofDump : OutOfReach toolchain.base
      [(toolchain.config.finalizing kernel directory).output] path below :=
    outOfReach.of_mem (List.mem_cons_of_mem _ List.mem_cons_self)
  cases fails with
  | compiling fails =>
      exact fails.findBelow_eq untouched ofBinary
  | finalizing compiles fails =>
      obtain ⟨compiler, others⟩ := List.forall_mem_cons.mp untouched
      exact (fails.findBelow_eq others ofDump).trans
        (compiles.findBelow_eq compiler ofBinary)
  | keeping compiles finalizes _ =>
      obtain ⟨compiler, others⟩ := List.forall_mem_cons.mp untouched
      exact (finalizes.findBelow_eq (others _ List.mem_cons_self) ofDump).trans
        (compiles.findBelow_eq compiler ofBinary)

end Keeping

/-- Nothing was done but to try a job: its output was cleared away, if anything. -/
def OnlyTries
    (toolchain : HsailToolchain Memory)
    (job : Job)
    (directory : Path)
    (before : FileSystem)
    (runs : List ToolRun)
    (after : FileSystem) :
    Prop :=
  ∃ started,
    (started = before ∨
      before.removeFile toolchain.base job.output = .ok started) ∧
    (runs = [] ∧ after = started ∨
      ∃ run,
        runs = [run] ∧
          toolchain.machine.Runs job.tool job.arguments directory run ∧
          run.before = started ∧ run.after = after)

/-- A job that fails starts its tool at most once. -/
theorem JobFails.onlyTries
    {job : Job}
    {before after : FileSystem}
    {runs : List ToolRun}
    (fails : toolchain.JobFails job kernel directory before error runs after) :
    toolchain.OnlyTries job directory before runs after := by
  have atMost : ∀ {started : FileSystem},
      toolchain.Cleared job.output before started →
        started = before ∨
          before.removeFile toolchain.base job.output = .ok started :=
    fun cleared => cleared.symm.imp And.right id
  cases fails with
  | blocked _ =>
      exact ⟨before, Or.inl rfl, Or.inl ⟨rfl, rfl⟩⟩
  | notStarted cleared _ =>
      exact ⟨after, atMost cleared, Or.inl ⟨rfl, rfl⟩⟩
  | @failed run starts _ =>
      exact ⟨run.before, atMost starts.cleared,
        Or.inr ⟨run, rfl, starts.runs, rfl, rfl⟩⟩
  | @missing run starts _ _ =>
      exact ⟨run.before, atMost starts.cleared,
        Or.inr ⟨run, rfl, starts.runs, rfl, rfl⟩⟩

/-- A report is out of reach if the files of its kernel have names of their own. -/
theorem report_outOfReach
    {config : ToolchainConfig}
    {base : Location}
    (keepsApart : config.KeepsApart [kernel])
    (isName : Declaration.IsName kernel.toList)
    (dumpOrdinary : IsOrdinary config.reportName)
    (directory : Path)
    (below : Location) :
    OutOfReach base
      [config.binaryPath directory kernel, config.dumpPath directory]
      (config.reportPath directory kernel) below := by
  have binaryKept : config.binaryName kernel ≠ config.keptName kernel :=
    ToolchainConfig.fileName_ne keepsApart.binary_ne_report kernel
  have dumpKept : config.reportName ≠ config.keptName kernel :=
    (keepsApart.dump_ne kernel List.mem_cons_self).2.2
  have changed : ∀ name ∈ [config.binaryName kernel, config.reportName],
      IsOrdinary name ∧ config.keptName kernel ≠ name := by
    intro name member
    simp only [List.mem_cons, List.not_mem_nil, or_false] at member
    rcases member with rfl | rfl
    · exact ⟨ToolchainConfig.isOrdinary_fileName isName keepsApart.binary_single,
        binaryKept.symm⟩
    · exact ⟨dumpOrdinary, dumpKept.symm⟩
  exact @outOfReach_join base directory
    [config.binaryName kernel, config.reportName] (config.keptName kernel)
    (fun name member => (changed name member).1)
    (ToolchainConfig.isOrdinary_fileName isName keepsApart.report_single)
    (fun member => (changed _ member).2 rfl) below

section Errors

variable {job : Job} {before after : FileSystem} {runs : List ToolRun}
  {path : Path} {failure : Failure} {name : String}

/-- If an output is not writable, its tool was not started. -/
theorem JobFails.of_unwritable
    (fails : toolchain.JobFails job kernel directory before
      (.unwritable path failure) runs after) :
    path = job.output ∧ runs = [] ∧ after = before := by
  cases fails with
  | blocked _ =>
      exact ⟨rfl, rfl, rfl⟩

/-- If an output is missing, its tool had succeeded. -/
theorem JobFails.of_missingOutput
    (fails : toolchain.JobFails job kernel directory before
      (.missingOutput name path) runs after) :
    name = kernel ∧ path = job.output ∧
      ∃ run,
        runs = [run] ∧
          toolchain.machine.Runs job.tool job.arguments directory run ∧
          run.exit.status.isSuccess = true ∧
          after.isFile toolchain.base job.output = false := by
  cases fails with
  | @missing run starts success absent =>
      exact ⟨rfl, rfl, run, rfl, starts.runs, success, absent⟩

/-- There are three paths that a build can find unwritable, one after the other. -/
theorem BuildFails.of_unwritable
    (fails : toolchain.BuildFails kernel directory before
      (.unwritable path failure) runs after) :
    path = toolchain.config.binaryPath directory kernel ∧
        runs = [] ∧ after = before ∨
      path = toolchain.config.dumpPath directory ∧
        (∃ compiler,
          runs = [compiler] ∧ after = compiler.after ∧
            toolchain.Finishes (toolchain.config.compiling kernel directory)
              directory before compiler) ∨
      path = toolchain.config.reportPath directory kernel ∧
        ∃ compiler finalizer,
          runs = [compiler, finalizer] ∧ after = finalizer.after ∧
            toolchain.Finishes (toolchain.config.finalizing kernel directory)
              directory compiler.after finalizer := by
  cases fails with
  | compiling fails =>
      exact Or.inl fails.of_unwritable
  | @finalizing compiler _ _ _ compiles fails =>
      obtain ⟨isDump, rfl, rfl⟩ := fails.of_unwritable
      exact Or.inr (Or.inl ⟨isDump, compiler, rfl, rfl, compiles⟩)
  | @keeping compiler finalizer _ _ finalizes _ =>
      exact Or.inr (Or.inr ⟨rfl, compiler, finalizer, rfl, rfl, finalizes⟩)

/-- An output that is missing is that of the tool that ran last. -/
theorem BuildFails.of_missingOutput
    (fails : toolchain.BuildFails kernel directory before
      (.missingOutput name path) runs after) :
    name = kernel ∧
      ∃ job run,
        (job = toolchain.config.compiling kernel directory ∧ runs = [run] ∨
          job = toolchain.config.finalizing kernel directory ∧
            ∃ compiler, runs = [compiler, run]) ∧
        path = job.output ∧
          toolchain.machine.Runs job.tool job.arguments directory run ∧
          run.exit.status.isSuccess = true ∧
          after.isFile toolchain.base path = false := by
  cases fails with
  | compiling fails =>
      obtain ⟨rfl, rfl, run, rfl, ran, success, absent⟩ :=
        fails.of_missingOutput
      exact ⟨rfl, _, run, Or.inl ⟨rfl, rfl⟩, rfl, ran, success, absent⟩
  | @finalizing compiler _ _ _ _ fails =>
      obtain ⟨rfl, rfl, run, rfl, ran, success, absent⟩ :=
        fails.of_missingOutput
      exact ⟨rfl, _, run, Or.inr ⟨rfl, compiler, rfl⟩, rfl, ran, success,
        absent⟩

end Errors

/-- What the error of a failed build says, and what the build has left alone. -/
structure FailsCleanly
    (toolchain : HsailToolchain Memory)
    (kernel : String)
    (directory : Path)
    (world : World Memory)
    (error : RunError)
    (runs : List ToolRun)
    (after : FileSystem) :
    Prop where
  /--
  What is at the path of the report, or below it, stays if the tools leave it alone
  and if the paths of the binary and of the dump never lead there.
  -/
  report_kept :
    ∀ below,
      (∀ run ∈ runs,
        run.after.findBelow toolchain.base
            (toolchain.config.reportPath directory kernel) below =
          run.before.findBelow toolchain.base
            (toolchain.config.reportPath directory kernel) below) →
        OutOfReach toolchain.base
            [toolchain.config.binaryPath directory kernel,
              toolchain.config.dumpPath directory]
            (toolchain.config.reportPath directory kernel) below →
          after.findBelow toolchain.base
              (toolchain.config.reportPath directory kernel) below =
            world.files.findBelow toolchain.base
              (toolchain.config.reportPath directory kernel) below
  binary_blocked :
    ∀ failure,
      error =
          .unwritable (toolchain.config.binaryPath directory kernel) failure →
        runs = [] ∧ after = world.files
  /-- The finalizer is not started for a binary that could not be compiled. -/
  compiler_stopped :
    ((toolchain.compile kernel directory world).outcome = .error error ∨
        ∃ name, error =
          .missingOutput name (toolchain.config.binaryPath directory kernel)) →
      toolchain.OnlyTries (toolchain.config.compiling kernel directory) directory
        world.files runs after
  output_missing :
    ∀ name path,
      error = .missingOutput name path →
        name = kernel ∧
          ∃ job run,
            (job = toolchain.config.compiling kernel directory ∧ runs = [run] ∨
              job = toolchain.config.finalizing kernel directory ∧
                ∃ compiler, runs = [compiler, run]) ∧
            path = job.output ∧
              toolchain.machine.Runs job.tool job.arguments directory run ∧
              run.exit.status.isSuccess = true ∧
              after.isFile toolchain.base path = false
  dump_blocked :
    ∀ failure,
      error = .unwritable (toolchain.config.dumpPath directory) failure →
        ∃ compiler,
          runs = [compiler] ∧
            toolchain.machine.Runs toolchain.config.compiler
              (toolchain.config.compilerArguments kernel) directory compiler ∧
            compiler.exit.status.isSuccess = true ∧
            after.isFile toolchain.base
              (toolchain.config.binaryPath directory kernel) = true
  /-- The dump is still there, as the finalizer has left it. -/
  report_blocked :
    ∀ failure,
      error =
          .unwritable (toolchain.config.reportPath directory kernel) failure →
        ∃ compiler finalizer bytes,
          runs = [compiler, finalizer] ∧
            toolchain.machine.Runs toolchain.config.finalizer
              (toolchain.config.finalizerArguments kernel) directory
              finalizer ∧
            finalizer.after.readFile toolchain.base
                (toolchain.config.dumpPath directory) = .ok bytes ∧
            after.readFile toolchain.base
                (toolchain.config.dumpPath directory) = .ok bytes

/--
A build that fails stops at its first failing stage. If the paths of the binary, of
the dump and of the report differ, the error tells which stage it was.
-/
theorem isaReport_failsCleanly
    (dumpNotBinary : toolchain.config.dumpPath directory ≠
      toolchain.config.binaryPath directory kernel)
    (reportNotBinary : toolchain.config.reportPath directory kernel ≠
      toolchain.config.binaryPath directory kernel)
    (reportNotDump : toolchain.config.reportPath directory kernel ≠
      toolchain.config.dumpPath directory)
    (failed : (toolchain.isaReport kernel directory world).outcome =
      .error error) :
    toolchain.FailsCleanly kernel directory world error
      (toolchain.reportRuns kernel directory world)
      (toolchain.isaReport kernel directory world).world.files := by
  have fails := isaReport_fails failed
  have ofCompile := @jobFails_of_compile _ toolchain kernel directory world error
  generalize toolchain.reportRuns kernel directory world = runs
    at fails ofCompile ⊢
  generalize (toolchain.isaReport kernel directory world).world.files = after
    at fails ofCompile ⊢
  constructor
  case report_kept =>
    intro below untouched outOfReach
    exact fails.findBelow_eq untouched outOfReach
  case binary_blocked =>
    rintro failure rfl
    rcases fails.of_unwritable with
      ⟨-, nothing⟩ | ⟨isDump, -⟩ | ⟨isReport, -⟩
    · exact nothing
    · exact (dumpNotBinary isDump.symm).elim
    · exact (reportNotBinary isReport.symm).elim
  case compiler_stopped =>
    rintro (uncompiled | ⟨name, rfl⟩)
    · exact (ofCompile uncompiled).onlyTries
    · cases fails with
      | compiling fails =>
          exact fails.onlyTries
      | finalizing _ fails =>
          exact (dumpNotBinary fails.of_missingOutput.2.1.symm).elim
  case output_missing =>
    rintro name path rfl
    exact fails.of_missingOutput
  case dump_blocked =>
    rintro failure rfl
    rcases fails.of_unwritable with
      ⟨isBinary, -⟩ | ⟨-, compiler, onlyRun, rfl, compiles⟩ | ⟨isReport, -⟩
    · exact (dumpNotBinary isBinary).elim
    · exact ⟨compiler, onlyRun, compiles.runs, compiles.success,
        compiles.present⟩
    · exact (reportNotDump isReport.symm).elim
  case report_blocked =>
    rintro failure rfl
    rcases fails.of_unwritable with
      ⟨isBinary, -⟩ | ⟨isDump, -⟩ |
        ⟨-, compiler, finalizer, bothRuns, rfl, finalizes⟩
    · exact (reportNotBinary isBinary).elim
    · exact (reportNotDump isDump).elim
    · obtain ⟨bytes, _, found⟩ := exists_nodeAt_of_isFile finalizes.present
      have read := readFile_of_nodeAt found
      exact ⟨compiler, finalizer, bytes, bothRuns, finalizes.runs, read, read⟩

/-- A workshop with a source to build and with a report of an earlier build. -/
def reportedWorkshop : World Unit where
  files :=
    (FileSystem.workshop.put ["w", "k.cl"] (.file "new".toUTF8 false)).put
      ["w", "k.isa"] (.file "old".toUTF8 false)
  memory := ()

/-- A report of an earlier build, and a finalizer that is missing. -/
theorem isaReport_failsCleanly_reportedWorkshop :
    let toolchain : HsailToolchain Unit := copyingTools ⟨"cloc.sh"⟩ ⟨"missing"⟩
    let effect := toolchain.isaReport "k" ⟨"w"⟩ reportedWorkshop
    let error : RunError := .notStarted "missing" (.system .notFound)
    let report := toolchain.config.reportPath ⟨"w"⟩ "k"
    toolchain.config.dumpPath ⟨"w"⟩ ≠ toolchain.config.binaryPath ⟨"w"⟩ "k" ∧
      report ≠ toolchain.config.binaryPath ⟨"w"⟩ "k" ∧
      report ≠ toolchain.config.dumpPath ⟨"w"⟩ ∧
      effect.outcome = .error error ∧
      toolchain.FailsCleanly "k" ⟨"w"⟩ reportedWorkshop error
        (toolchain.reportRuns "k" ⟨"w"⟩ reportedWorkshop) effect.world.files ∧
      effect.world.files.findBelow [] report [] =
        some (.file "old".toUTF8 false) := by
  intro toolchain effect error report
  have apart : toolchain.config.dumpPath ⟨"w"⟩ ≠
        toolchain.config.binaryPath ⟨"w"⟩ "k" ∧
      report ≠ toolchain.config.binaryPath ⟨"w"⟩ "k" ∧
      report ≠ toolchain.config.dumpPath ⟨"w"⟩ := by
    decide
  obtain ⟨dumpNotBinary, reportNotBinary, reportNotDump⟩ := apart
  have failed : effect.outcome = .error error := by
    decide +kernel
  have clean := isaReport_failsCleanly dumpNotBinary reportNotBinary
    reportNotDump failed
  have untouched : ∀ run ∈ toolchain.reportRuns "k" ⟨"w"⟩ reportedWorkshop,
      run.after.findBelow [] report [] = run.before.findBelow [] report [] := by
    decide +kernel
  have outOfReach : OutOfReach [] [toolchain.config.binaryPath ⟨"w"⟩ "k",
      toolchain.config.dumpPath ⟨"w"⟩] report [] :=
    report_outOfReach (by decide)
      ⟨by decide, List.all_eq_true.mp (by decide)⟩
      ⟨by decide, by decide, by decide, by decide⟩ ⟨"w"⟩ []
  have old : reportedWorkshop.files.findBelow [] report [] =
      some (.file "old".toUTF8 false) := by
    decide +kernel
  exact ⟨dumpNotBinary, reportNotBinary, reportNotDump, failed, clean,
    (clean.report_kept [] untouched outOfReach).trans old⟩

/-- Two ways to name one file: what is cleared away as the dump is the report. -/
theorem isaReport_loses_report :
    let toolchain : HsailToolchain Unit :=
      ⟨{ finalizer := ⟨"missing"⟩, reportName := "../w/k.isa" },
        .copying [⟨"/bin"⟩]⟩
    let effect := toolchain.isaReport "k" ⟨"w"⟩ reportedWorkshop
    let report := toolchain.config.reportPath ⟨"w"⟩ "k"
    toolchain.config.dumpPath ⟨"w"⟩ ≠ toolchain.config.binaryPath ⟨"w"⟩ "k" ∧
      report ≠ toolchain.config.binaryPath ⟨"w"⟩ "k" ∧
      report ≠ toolchain.config.dumpPath ⟨"w"⟩ ∧
      effect.outcome = .error (.notStarted "missing" (.system .notFound)) ∧
      (∀ run ∈ toolchain.reportRuns "k" ⟨"w"⟩ reportedWorkshop,
        run.after.findBelow [] report [] = run.before.findBelow [] report []) ∧
      reportedWorkshop.files.findBelow [] report [] =
        some (.file "old".toUTF8 false) ∧
      effect.world.files.findBelow [] report [] = none := by
  decide +kernel

end IsaUsage.HsailToolchain
