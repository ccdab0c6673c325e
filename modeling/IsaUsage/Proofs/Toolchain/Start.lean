import IsaUsage.Proofs.Toolchain.Failure

namespace IsaUsage

/-!
# What a build starts

However a build ends, it has started at most the compiler and then the finalizer
(`HsailToolchain.isaReport_starts`). Each tool is handed one file, by a name that is
meant in the directory where the tool runs. There the name leads to the very location
to which the path of that file leads (`Machine.Runs.isHanded`).
-/

open FileSystem

/--
A run is handed a file by a name. The path of the file leads to one location, before
and when the tool is started, and so does the name in the directory of the run.
-/
structure IsHanded
    (base : Location)
    (files : FileSystem)
    (path : Path)
    (run : ToolRun)
    (name : String)
    (location : Location) :
    Prop where
  listed : run.invocation.arguments.getLast? = some name
  earlier : files.locate base path = .ok location
  met : run.before.locate base path = .ok location
  named : run.before.locate run.invocation.directory ⟨name⟩ = .ok location

/-- A name in the directory of a run leads to where its path leads from anywhere. -/
theorem Machine.Runs.locate_name
    {machine : Machine Memory}
    {tool directory : Path}
    {arguments : List String}
    {run : ToolRun}
    {name : String}
    {location : Location}
    (runs : machine.Runs tool arguments directory run)
    (nonempty : name ≠ "")
    (located : run.before.locate machine.workingDirectory
      (directory.join ⟨name⟩) = .ok location) :
    run.before.locate run.invocation.directory ⟨name⟩ = .ok location := by
  obtain ⟨place, _, resolved, -, shape⟩ :=
    Machine.invocation_eq_ok runs.invoked
  obtain ⟨_, fine, -⟩ := bind_eq_ok_iff.mp located
  rw [shape, ← (reaches_of_directoryAt resolved).locate_join_eq nonempty fine]
  exact located

theorem Machine.Runs.isHanded
    {machine : Machine Memory}
    {files : FileSystem}
    {tool directory : Path}
    {arguments : List String}
    {run : ToolRun}
    {name : String}
    {location : Location}
    (runs : machine.Runs tool arguments directory run)
    (same : SameDirectories files run.before)
    (last : arguments.getLast? = some name)
    (nonempty : name ≠ "")
    (located : files.locate machine.workingDirectory (directory.join ⟨name⟩) =
      .ok location) :
    IsHanded machine.workingDirectory files (directory.join ⟨name⟩) run name
      location where
  listed := (congrArg List.getLast? runs.arguments_eq).trans last
  earlier := located
  met := same.locate located
  named := runs.locate_name nonempty (same.locate located)

theorem ToolchainConfig.fileName_ne_empty (kernel extension : String) :
    fileName kernel extension ≠ "" := by
  intro empty
  have text := congrArg String.toList empty
  simp [toList_fileName] at text

namespace HsailToolchain

/-- The tools that a build has started, each with the files that it met. -/
inductive BuildStarts
    (toolchain : HsailToolchain Memory)
    (kernel : String)
    (directory : Path)
    (before : FileSystem) :
    List ToolRun → Prop where
  | neither : BuildStarts toolchain kernel directory before []
  | compiler {compiler : ToolRun} :
      toolchain.Starts (toolchain.config.compiling kernel directory) directory
          before compiler →
        BuildStarts toolchain kernel directory before [compiler]
  | both {compiler finalizer : ToolRun} :
      toolchain.Finishes (toolchain.config.compiling kernel directory) directory
          before compiler →
        toolchain.Starts (toolchain.config.finalizing kernel directory)
            directory compiler.after finalizer →
          BuildStarts toolchain kernel directory before [compiler, finalizer]

variable {toolchain : HsailToolchain Memory} {job : Job} {kernel : String}
  {directory : Path} {before after : FileSystem} {error : RunError}
  {runs : List ToolRun} {world : World Memory}

theorem JobFails.starts
    (fails : toolchain.JobFails job kernel directory before error runs after) :
    runs = [] ∨
      ∃ run, runs = [run] ∧ toolchain.Starts job directory before run := by
  cases fails with
  | blocked _ =>
      exact Or.inl rfl
  | notStarted _ _ =>
      exact Or.inl rfl
  | failed starts _ =>
      exact Or.inr ⟨_, rfl, starts⟩
  | missing starts _ _ =>
      exact Or.inr ⟨_, rfl, starts⟩

theorem BuildFails.starts
    (fails : toolchain.BuildFails kernel directory before error runs after) :
    toolchain.BuildStarts kernel directory before runs := by
  cases fails with
  | compiling fails =>
      rcases fails.starts with rfl | ⟨compiler, rfl, starts⟩
      · exact .neither
      · exact .compiler starts
  | finalizing compiles fails =>
      rcases fails.starts with rfl | ⟨finalizer, rfl, starts⟩
      · exact .compiler compiles.toStarts
      · exact .both compiles starts
  | keeping compiles finalizes _ =>
      exact .both compiles finalizes.toStarts

/-- A build that returns a report has done both jobs. -/
theorem isaReport_finishes
    {report : Path}
    (built : (toolchain.isaReport kernel directory world).outcome =
      .ok report) :
    ∃ compiler finalizer,
      toolchain.reportRuns kernel directory world = [compiler, finalizer] ∧
        toolchain.Finishes (toolchain.config.compiling kernel directory)
          directory world.files compiler ∧
        toolchain.Finishes (toolchain.config.finalizing kernel directory)
          directory compiler.after finalizer := by
  rw [← (toolchain.records_isaReport kernel directory).outcome_eq,
    recorded_isaReport_eq] at built
  rw [reportRuns, recorded_isaReport_eq]
  obtain ⟨_, compiled, unfinished, compiledWorld⟩ := Action.bind_eq_ok built
  obtain ⟨_, finalized, kept, finalizedWorld⟩ := Action.bind_eq_ok unfinished
  obtain ⟨compiler, compiles, compilerNoted, compilerLeft⟩ :=
    finishes_of_recorded_perform compiled
  obtain ⟨finalizer, finalizes, finalizerNoted, -⟩ :=
    finishes_of_recorded_perform finalized
  obtain ⟨-, keptMemory, -⟩ := keepReport_eq_ok kept
  rw [compilerLeft] at finalizes
  refine ⟨compiler, finalizer, ?_, compiles, finalizes⟩
  rw [compiledWorld, finalizedWorld, keptMemory, finalizerNoted, compilerNoted]
  rfl

/-- A build starts the compiler, and the finalizer only once this has done its job. -/
theorem isaReport_starts
    (toolchain : HsailToolchain Memory)
    (kernel : String)
    (directory : Path)
    (world : World Memory) :
    toolchain.BuildStarts kernel directory world.files
      (toolchain.reportRuns kernel directory world) := by
  cases outcome : (toolchain.isaReport kernel directory world).outcome with
  | error error =>
      exact (isaReport_fails outcome).starts
  | ok report =>
      obtain ⟨compiler, finalizer, recorded, compiles, finalizes⟩ :=
        isaReport_finishes outcome
      rw [recorded]
      exact .both compiles finalizes.toStarts

/-- The finalizer is handed the binary that the compiler has left. -/
theorem isHanded_of_compiled
    {compiler finalizer : ToolRun}
    (compiles : toolchain.Finishes
      (toolchain.config.compiling kernel directory) directory before compiler)
    (starts : toolchain.Starts
      (toolchain.config.finalizing kernel directory) directory compiler.after
      finalizer) :
    ∃ location,
      (∀ other,
        compiler.before.locate toolchain.base
            (toolchain.config.binaryPath directory kernel) = .ok other →
          other = location ∧ compiler.before.find? location = none) ∧
        (∃ contents isProgram,
          compiler.after.find? location = some (.file contents isProgram)) ∧
        IsHanded toolchain.base compiler.after
          (toolchain.config.binaryPath directory kernel) finalizer
          (toolchain.config.binaryName kernel) location := by
  obtain ⟨location, contents, isProgram, located, found, noSlash⟩ :=
    isFile_iff.mp compiles.present
  refine ⟨location, ?_, ⟨contents, isProgram, found⟩, ?_⟩
  · intro other locatedBefore
    have same := locate_eq_of_ok located locatedBefore
    subst other
    exact ⟨rfl,
      find?_of_nothingAt compiles.cleared.nothingAt locatedBefore noSlash⟩
  · exact starts.runs.isHanded starts.cleared.sameDirectories rfl
      (ToolchainConfig.fileName_ne_empty _ _) located

end HsailToolchain
end IsaUsage
