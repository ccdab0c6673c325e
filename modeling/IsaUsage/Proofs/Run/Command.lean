import IsaUsage.Proofs.Run.Build
import IsaUsage.Proofs.Run.Call
import IsaUsage.Proofs.Toolchain.Start

namespace IsaUsage

/-!
# The command that is shown

The command that is shown with a kernel is the one by which the compiler was started
for it, and the tools work on the files that a run writes, clears and requires
(`HsailToolchain.process_showsItsRuns`). That holds for any kernel and any
configuration, also for names that lead out of the output directory.
-/

open FileSystem HsailToolchain IsaUsage.Action

namespace HsailToolchain

variable {toolchain : HsailToolchain Memory} {directory : Path}
  {kernel artifact : String} {world : World Memory} {written : FileSystem}
  {compiler finalizer : ToolRun} {error : RunError}

/-- The compiler is started by the shown command, on the source that was written. -/
structure CompilesSource
    (toolchain : HsailToolchain Memory)
    (directory : Path)
    (kernel artifact : String)
    (written : FileSystem)
    (compiler : ToolRun) :
    Prop where
  runs :
    toolchain.machine.Runs toolchain.config.compiler
      (toolchain.config.compilerArguments kernel) directory compiler
  shown :
    toolchain.config.compileCommand kernel =
      toolchain.config.compiler.text ++ " " ++
        " ".intercalate compiler.invocation.arguments
  source_written :
    written.readFile toolchain.base
        (toolchain.config.sourcePath directory kernel) =
      .ok artifact.toUTF8
  source_handed :
    ∃ location,
      IsHanded toolchain.base written
        (toolchain.config.sourcePath directory kernel) compiler
        (toolchain.config.sourceName kernel) location
  binary_cleared :
    compiler.before.NothingAt toolchain.base
      (toolchain.config.binaryPath directory kernel)

/-- The finalizer is started on the binary that was cleared and then required. -/
structure FinalizesBinary
    (toolchain : HsailToolchain Memory)
    (directory : Path)
    (kernel : String)
    (compiler finalizer : ToolRun) :
    Prop where
  runs :
    toolchain.machine.Runs toolchain.config.finalizer
      (toolchain.config.finalizerArguments kernel) directory finalizer
  binary_required :
    compiler.after.isFile toolchain.base
      (toolchain.config.binaryPath directory kernel) = true
  /-- The binary is at one location, where nothing was after the clearing. -/
  binary_handed :
    ∃ location,
      (∀ other,
        compiler.before.locate toolchain.base
            (toolchain.config.binaryPath directory kernel) = .ok other →
          other = location ∧ compiler.before.find? location = none) ∧
        (∃ contents isProgram,
          compiler.after.find? location = some (.file contents isProgram)) ∧
        IsHanded toolchain.base compiler.after
          (toolchain.config.binaryPath directory kernel) finalizer
          (toolchain.config.binaryName kernel) location

/-- The runs of tools for one kernel are on the files of the kernel. -/
inductive RunsOnFiles
    (toolchain : HsailToolchain Memory)
    (directory : Path)
    (kernel artifact : String)
    (written : FileSystem) :
    List ToolRun → Prop where
  | neither : RunsOnFiles toolchain directory kernel artifact written []
  | compiler {compiler : ToolRun} :
      toolchain.CompilesSource directory kernel artifact written compiler →
        RunsOnFiles toolchain directory kernel artifact written [compiler]
  | both {compiler finalizer : ToolRun} :
      toolchain.CompilesSource directory kernel artifact written compiler →
        toolchain.FinalizesBinary directory kernel compiler finalizer →
          RunsOnFiles toolchain directory kernel artifact written
            [compiler, finalizer]

/-- What is shown with a kernel is what was run for it. -/
structure ShowsItsRuns
    (toolchain : HsailToolchain Memory)
    (directory : Path)
    (kernel artifact : String)
    (world : World Memory)
    (runs : List ToolRun) :
    Prop where
  /-- However it ends, the tools that were started worked on the kernel's files. -/
  on_files :
    toolchain.RunsOnFiles directory kernel artifact
      ((toolchain.pipeline directory).writeArtifact kernel artifact
        world).world.files
      runs
  /-- If it ends well, both were started, and the shown command is the first start. -/
  shown :
    ∀ usage,
      ((toolchain.pipeline directory).process kernel artifact world).outcome =
          .ok usage →
        ∃ compiler finalizer,
          runs = [compiler, finalizer] ∧
            usage.command =
              toolchain.config.compiler.text ++ " " ++
                " ".intercalate compiler.invocation.arguments

/-! ## What is recorded of a kernel -/

/-- Writing an artifact starts no tools. -/
theorem notes_writeArtifact
    (toolchain : HsailToolchain Memory)
    (directory : Path)
    (kernel artifact : String) :
    Notes
      ((toolchain.recorded.pipeline directory).writeArtifact kernel artifact)
      ((toolchain.pipeline directory).writeArtifact kernel artifact) := by
  rw [writeArtifact_eq, writeArtifact_eq]
  exact (Notes.change _ _).bind fun _ => Notes.isCongruence.log _

/-- Writing a source starts no tool. -/
theorem recorded_writeArtifact
    (toolchain : HsailToolchain Memory)
    (directory : Path)
    (kernel artifact : String)
    (world : World Memory) :
    (toolchain.recorded.pipeline directory).writeArtifact kernel artifact
        world.recording =
      ((toolchain.pipeline directory).writeArtifact kernel artifact
        world).withRecord [] := by
  have silent : ((toolchain.recorded.pipeline directory).writeArtifact kernel
      artifact).entries world = [] := by
    rw [writeArtifact_eq]
    refine (Notes.entries_bind (Notes.change _ _)
      (fun _ => Notes.isCongruence.log _) world).trans ?_
    split <;> simp
  have noted := toolchain.notes_writeArtifact directory kernel artifact world []
  rw [silent] at noted
  exact noted

/-- No tool is started for a kernel whose source was not written. -/
theorem entries_process_of_unwritten
    (failed : ((toolchain.pipeline directory).writeArtifact kernel artifact
      world).outcome = .error error) :
    ((toolchain.recorded.pipeline directory).process kernel artifact).entries
      world = [] := by
  have noted :=
    toolchain.recorded_writeArtifact directory kernel artifact world
  have unwritten : ((toolchain.recorded.pipeline directory).writeArtifact kernel
      artifact world.recording).outcome = .error error := by
    rw [noted]
    exact failed
  rw [entries, process_eq, (bind_of_error unwritten).2, noted]
  rfl

/-- The tools that are started for a kernel are those that build it. -/
theorem entries_process_of_written
    (done : ((toolchain.pipeline directory).writeArtifact kernel artifact
      world).outcome = .ok ()) :
    ((toolchain.recorded.pipeline directory).process kernel artifact).entries
        world =
      toolchain.reportRuns kernel directory
        ((toolchain.pipeline directory).writeArtifact kernel artifact
          world).world := by
  have noted :=
    toolchain.recorded_writeArtifact directory kernel artifact world
  have written : ((toolchain.recorded.pipeline directory).writeArtifact kernel
      artifact world.recording).outcome = .ok () := by
    rw [noted]
    exact done
  rw [entries, process_eq, (bind_of_ok written).2, noted, world_bind_of_still]
  · rfl
  · intro report reported
    exact (world_bind_of_still (fun _ _ => rfl) reported).trans
      (world_analyzeReport _ _ reported)

/-! ## Tools on the files of a kernel -/

/-- A command is the compiler and its arguments with blanks in between. -/
theorem compileCommand_eq (config : ToolchainConfig) (kernel : String) :
    config.compileCommand kernel =
      config.compiler.text ++ " " ++
        " ".intercalate (config.compilerArguments kernel) := by
  simp only [ToolchainConfig.compileCommand, ToolchainConfig.compilerArguments,
    String.intercalate_cons_cons, String.intercalate_singleton,
    String.append_assoc]

/--
A compiler that is started after the artifact was written is handed the
artifact.
-/
theorem compilesSource_of_starts
    (done : ((toolchain.pipeline directory).writeArtifact kernel artifact
      world).outcome = .ok ())
    (starts : toolchain.Starts (toolchain.config.compiling kernel directory)
      directory
      ((toolchain.pipeline directory).writeArtifact kernel artifact
        world).world.files
      compiler) :
    toolchain.CompilesSource directory kernel artifact
      ((toolchain.pipeline directory).writeArtifact kernel artifact
        world).world.files
      compiler := by
  have source := readFile_of_nodeAt (writeArtifact_leaves done rfl).2.2
  obtain ⟨location, _, located, -, -⟩ := readFile_eq_ok_iff.mp source
  refine ⟨starts.runs, ?_, source, ⟨location, ?_⟩, starts.cleared.nothingAt⟩
  · rw [starts.runs.arguments_eq]
    exact compileCommand_eq toolchain.config kernel
  · exact starts.runs.isHanded starts.cleared.sameDirectories rfl
      (ToolchainConfig.fileName_ne_empty _ _) located

/-- A finalizer that is started after the compiler is handed the binary. -/
theorem finalizesBinary_of_starts
    (compiles : toolchain.Finishes
      (toolchain.config.compiling kernel directory) directory written compiler)
    (starts : toolchain.Starts
      (toolchain.config.finalizing kernel directory) directory compiler.after
      finalizer) :
    toolchain.FinalizesBinary directory kernel compiler finalizer where
  runs := starts.runs
  binary_required := compiles.present
  binary_handed := isHanded_of_compiled compiles starts

/-- A build of a kernel whose source was written works on the kernel's files. -/
theorem runsOnFiles_of_written
    (done : ((toolchain.pipeline directory).writeArtifact kernel artifact
      world).outcome = .ok ()) :
    toolchain.RunsOnFiles directory kernel artifact
      ((toolchain.pipeline directory).writeArtifact kernel artifact
        world).world.files
      (toolchain.reportRuns kernel directory
        ((toolchain.pipeline directory).writeArtifact kernel artifact
          world).world) := by
  have started := toolchain.isaReport_starts kernel directory
    ((toolchain.pipeline directory).writeArtifact kernel artifact world).world
  generalize toolchain.reportRuns kernel directory
    ((toolchain.pipeline directory).writeArtifact kernel artifact
      world).world = runs at started ⊢
  cases started with
  | neither =>
      exact .neither
  | compiler starts =>
      exact .compiler (compilesSource_of_starts done starts)
  | both compiles starts =>
      exact .both (compilesSource_of_starts done compiles.toStarts)
        (finalizesBinary_of_starts compiles starts)

/-- The usage of a kernel shows its command. -/
theorem command_of_process
    {usage : KernelUsage}
    (processed : ((toolchain.pipeline directory).process kernel artifact
      world).outcome = .ok usage) :
    usage.command = toolchain.config.compileCommand kernel := by
  rw [process_eq] at processed
  obtain ⟨_, -, rest, -⟩ := Action.bind_eq_ok processed
  obtain ⟨_, -, rest, -⟩ := Action.bind_eq_ok rest
  obtain ⟨_, -, rest, -⟩ := Action.bind_eq_ok rest
  cases rest
  rfl

/--
The command that is shown with a kernel is the one that the compiler was started
with, on the source that was written, and the finalizer is started on the binary that
was required.
-/
theorem process_showsItsRuns
    (toolchain : HsailToolchain Memory)
    (directory : Path)
    (kernel artifact : String)
    (world : World Memory) :
    toolchain.ShowsItsRuns directory kernel artifact world
      (((toolchain.recorded.pipeline directory).process kernel
        artifact).entries world) := by
  constructor
  · cases outcome : ((toolchain.pipeline directory).writeArtifact kernel artifact
        world).outcome with
    | error error =>
        rw [entries_process_of_unwritten outcome]
        exact .neither
    | ok _ =>
        rw [entries_process_of_written outcome]
        exact runsOnFiles_of_written outcome
  · intro usage processed
    obtain ⟨_, report, done, rfl, built, -⟩ := process_eq_ok processed
    obtain ⟨compiler, finalizer, recorded, compiles, -⟩ :=
      isaReport_finishes built
    refine ⟨compiler, finalizer, ?_, ?_⟩
    · rw [entries_process_of_written done, recorded]
    · rw [command_of_process processed,
        (compilesSource_of_starts done compiles.toStarts).shown]

end HsailToolchain
end IsaUsage
