import IsaUsage.Proofs.Run.Outcome
import IsaUsage.Proofs.Toolchain.Failure

namespace IsaUsage

/-!
# What a run leaves when it fails

A run that fails at a kernel has changed nothing but the files of this kernel and of
those before it. No directory is gone, and a new one can only be what a tool of the
failing kernel has left in place of its output
(`HsailToolchain.runDocument_abortsWithin`).
-/

open FileSystem HsailToolchain IsaUsage.Action

/-- The two jobs of building a kernel. -/
def ToolchainConfig.jobs
    (config : ToolchainConfig)
    (kernel : String)
    (directory : Path) :
    List Job :=
  [config.compiling kernel directory, config.finalizing kernel directory]

namespace HsailToolchain

/-! ## Directories that tools leave -/

/-- A run of a job's tool left a directory where the output of the job belongs. -/
structure LeavesDirectory
    (toolchain : HsailToolchain Memory)
    (job : Job)
    (directory : Path)
    (before after : FileSystem)
    (location : Location)
    (run : ToolRun) :
    Prop where
  runs : toolchain.machine.Runs job.tool job.arguments directory run
  output : before.locate toolchain.base job.output = .ok location
  not_before : run.before.find? location ≠ some .directory
  left : run.after = after

/-- Every new directory was left by the tool of one of some jobs. -/
def MakesDirectoriesBy
    (toolchain : HsailToolchain Memory)
    (jobs : List Job)
    (directory : Path)
    (before after : FileSystem) :
    Prop :=
  ∀ location,
    after.find? location = some .directory →
      before.find? location = some .directory ∨
        ∃ job ∈ jobs, ∃ run,
          toolchain.LeavesDirectory job directory before after location run

variable {toolchain : HsailToolchain Memory} {job : Job} {jobs : List Job}
  {directory : Path} {kernel : String} {kernels : List String}
  {before middle after : FileSystem} {error : RunError} {runs : List ToolRun}
  {run : ToolRun}

namespace MakesDirectoriesBy

/-- Without new directories there is nothing to account for. -/
theorem of_same (same : SameDirectories before after) :
    toolchain.MakesDirectoriesBy jobs directory before after :=
  fun location isDirectory => Or.inl ((same location).mpr isDirectory)

/-- What was done before, without any directory, makes no difference. -/
theorem of_later
    (same : SameDirectories before middle)
    (later : toolchain.MakesDirectoriesBy jobs directory middle after) :
    toolchain.MakesDirectoriesBy jobs directory before after := by
  intro location isDirectory
  rcases later location isDirectory with
    wasDirectory | ⟨job, member, run, leaves⟩
  · exact Or.inl ((same location).mpr wasDirectory)
  · exact Or.inr ⟨job, member, run,
      { leaves with output := same.symm.locate leaves.output }⟩

/-- What some jobs account for, more jobs account for. -/
theorem mono
    {more : List Job}
    (made : toolchain.MakesDirectoriesBy jobs directory before after)
    (subset : ∀ job ∈ jobs, job ∈ more) :
    toolchain.MakesDirectoriesBy more directory before after := by
  intro location isDirectory
  rcases made location isDirectory with
    wasDirectory | ⟨job, member, run, leaves⟩
  · exact Or.inl wasDirectory
  · exact Or.inr ⟨job, subset job member, run, leaves⟩

end MakesDirectoriesBy

section Stages

/-- What no output leads to is the same before and after a run of a tool. -/
theorem OnlyMakes.find?_of_runs
    {output tool : Path}
    {arguments : List String}
    {location : Location}
    (onlyMakes : toolchain.OnlyMakes directory output tool arguments)
    (ran : toolchain.machine.Runs tool arguments directory run)
    (avoids : run.before.Avoids toolchain.base [output] location) :
    run.after.find? location = run.before.find? location := by
  obtain ⟨memory, memoryAfter, behaved⟩ := ran.behaved
  have untouched := onlyMakes ⟨run.before, memory⟩ run.invocation ran.invoked
    location avoids
  rw [behaved] at untouched
  exact untouched

/-- A tool that was started makes a directory of its output at most. -/
theorem Starts.makesDirectoriesBy
    (starts : toolchain.Starts job directory before run)
    (onlyMakes : toolchain.OnlyMakes directory job.output job.tool
      job.arguments) :
    toolchain.MakesDirectoriesBy [job] directory before run.after := by
  apply MakesDirectoriesBy.of_later starts.cleared.sameDirectories
  intro location isDirectory
  by_cases wasDirectory : run.before.find? location = some .directory
  · exact Or.inl wasDirectory
  · by_cases avoids : run.before.Avoids toolchain.base [job.output] location
    · rw [onlyMakes.find?_of_runs starts.runs avoids] at isDirectory
      exact (wasDirectory isDirectory).elim
    · simp only [Avoids, List.mem_singleton, forall_eq, not_not] at avoids
      exact Or.inr ⟨job, List.mem_cons_self, run,
        ⟨starts.runs, avoids, wasDirectory, rfl⟩⟩

/-- A tool that leaves a file as its output leaves no directory. -/
theorem Finishes.sameDirectories
    (finishes : toolchain.Finishes job directory before run)
    (onlyMakes : toolchain.OnlyMakes directory job.output job.tool
      job.arguments) :
    SameDirectories before run.after := by
  obtain ⟨memory, memoryAfter, behaved⟩ := finishes.runs.behaved
  have kept := @OnlyMakes.sameDirectories _ toolchain directory job.output
    job.tool job.arguments ⟨run.before, memory⟩ run.invocation onlyMakes
    finishes.cleared.nothingAt finishes.runs.invoked
    (by rw [behaved]; exact finishes.present)
  rw [behaved] at kept
  exact finishes.cleared.sameDirectories.trans kept

/-- So does a job that fails. -/
theorem JobFails.makesDirectoriesBy
    (fails : toolchain.JobFails job kernel directory before error runs after)
    (onlyMakes : toolchain.OnlyMakes directory job.output job.tool
      job.arguments) :
    toolchain.MakesDirectoriesBy [job] directory before after := by
  cases fails with
  | blocked _ =>
      exact .of_same fun _ => Iff.rfl
  | notStarted cleared _ =>
      exact .of_same cleared.sameDirectories
  | failed starts _ =>
      exact starts.makesDirectoriesBy onlyMakes
  | missing starts _ _ =>
      exact starts.makesDirectoriesBy onlyMakes

/-- Of a build that fails, only the last tool can have left a directory. -/
theorem BuildFails.makesDirectoriesBy
    (fails : toolchain.BuildFails kernel directory before error runs after)
    (keeps : toolchain.KeepsToOutputs directory kernels)
    (member : kernel ∈ kernels) :
    toolchain.MakesDirectoriesBy (toolchain.config.jobs kernel directory)
      directory before after := by
  cases fails with
  | compiling fails =>
      exact (fails.makesDirectoriesBy (keeps.compiler kernel member)).mono
        (by simp [ToolchainConfig.jobs])
  | finalizing compiles fails =>
      apply MakesDirectoriesBy.of_later
        (compiles.sameDirectories (keeps.compiler kernel member))
      exact (fails.makesDirectoriesBy (keeps.finalizer kernel member)).mono
        (by simp [ToolchainConfig.jobs])
  | keeping compiles finalizes _ =>
      exact .of_same
        ((compiles.sameDirectories (keeps.compiler kernel member)).trans
          (finalizes.sameDirectories (keeps.finalizer kernel member)))

end Stages

/-! ## Kernels that fail -/

section Kernels

variable {preamble : String} {block : KernelBlock} {world : World Memory}
  {onKernel : KernelUsage → Action Memory Unit} {artifact : String}

/-- A source that cannot be written leaves everything as it was. -/
theorem world_of_writeArtifact_eq_error
    (failed : ((toolchain.pipeline directory).writeArtifact kernel artifact
      world).outcome = .error error) :
    ((toolchain.pipeline directory).writeArtifact kernel artifact
      world).world = world := by
  rw [writeArtifact_eq] at failed ⊢
  rcases bind_eq_error failed with ⟨refused, unchanged⟩ | ⟨_, -, refused, -⟩
  · exact unchanged.trans (world_change_of_error refused)
  · contradiction

/-- So does a kernel that fails, for each of its jobs. -/
theorem process_makesDirectoriesBy
    (keeps : toolchain.KeepsToOutputs directory kernels)
    (member : kernel ∈ kernels)
    (failed : ((toolchain.pipeline directory).process kernel artifact
      world).outcome = .error error) :
    toolchain.MakesDirectoriesBy (toolchain.config.jobs kernel directory)
      directory world.files
      ((toolchain.pipeline directory).process kernel artifact
        world).world.files := by
  rw [process_eq] at failed ⊢
  rcases bind_eq_error failed with ⟨unwritten, same⟩ | ⟨_, written, rest, same⟩
  · rw [same, world_of_writeArtifact_eq_error unwritten]
    exact .of_same fun _ => Iff.rfl
  · rw [same]
    apply MakesDirectoriesBy.of_later
      ((confined_writeArtifact artifact world).same () written)
    rcases bind_eq_error rest with ⟨unbuilt, left⟩ | ⟨report, built, -, left⟩
    · rw [left]
      exact (isaReport_fails unbuilt).makesDirectoriesBy keeps member
    · rw [left, world_bind_of_still (fun _ _ => rfl), world_analyzeReport]
      exact .of_same ((confined_isaReport keeps member _).same report built)

/-- A kernel that ends a run leaves a directory only by one of its tools. -/
theorem single_makesDirectoriesBy
    (keeps : toolchain.KeepsToOutputs directory kernels)
    (member : block.name ∈ kernels)
    (still : ∀ usage world, (onKernel usage world).world.files = world.files)
    (failed : ((toolchain.pipeline directory).runDocument onKernel
      ⟨preamble, [block]⟩ world).outcome = .error error) :
    toolchain.MakesDirectoriesBy (toolchain.config.jobs block.name directory)
      directory world.files
      ((toolchain.pipeline directory).runDocument onKernel ⟨preamble, [block]⟩
        world).world.files := by
  obtain ⟨told, fails, -⟩ := Pipeline.exists_fails failed
  generalize ((toolchain.pipeline directory).runDocument onKernel
    ⟨preamble, [block]⟩ world).world = final at fails ⊢
  cases fails with
  | building unbuilt =>
      exact process_makesDirectoriesBy keeps member unbuilt
  | telling usage built refused =>
      rw [still]
      exact .of_same
        ((confined_process keeps member _ world).same usage built)

/-- Nothing is done in a directory that is not there. -/
theorem process_of_not_reaches
    (ordinary : IsOrdinary (toolchain.config.sourceName kernel))
    (nowhere : ∀ place,
      ¬ world.files.Reaches toolchain.base directory place) :
    ∃ error,
      ((toolchain.pipeline directory).process kernel artifact world).outcome =
          .error error ∧
        ((toolchain.pipeline directory).process kernel artifact world).world =
          world := by
  have refused : ∃ error,
      ((toolchain.pipeline directory).writeArtifact kernel artifact
        world).outcome = .error error := by
    cases outcome : ((toolchain.pipeline directory).writeArtifact kernel
        artifact world).outcome with
    | error error =>
        exact ⟨error, rfl⟩
    | ok _ =>
        rw [writeArtifact_eq] at outcome
        obtain ⟨_, changed, -⟩ := bind_eq_ok outcome
        obtain ⟨files, created⟩ := change_eq_ok changed
        obtain ⟨place, reaches⟩ := reaches_of_createFile ordinary created
        exact (nowhere place reaches).elim
  obtain ⟨error, unwritten⟩ := refused
  rw [process_eq]
  obtain ⟨outcome, after⟩ := bind_of_error unwritten
  exact ⟨error, outcome,
    after.trans (world_of_writeArtifact_eq_error unwritten)⟩

/-- A run that has no directory to write to stops at once. -/
theorem runDocument_of_not_reaches
    (ordinary : IsOrdinary (toolchain.config.sourceName block.name))
    (nowhere : ∀ place,
      ¬ world.files.Reaches toolchain.base directory place)
    (onKernel : KernelUsage → Action Memory Unit)
    (preamble : String) :
    ∃ error,
      ((toolchain.pipeline directory).runDocument onKernel ⟨preamble, [block]⟩
          world).outcome = .error error ∧
        ((toolchain.pipeline directory).runDocument onKernel
          ⟨preamble, [block]⟩ world).world = world := by
  obtain ⟨outcome, after⟩ := @Pipeline.runDocument_single _
    (toolchain.pipeline directory) onKernel preamble block world
  obtain ⟨error, unbuilt, unchanged⟩ := @process_of_not_reaches _ toolchain
    directory block.name world (block.artifact preamble) ordinary nowhere
  obtain ⟨failed, left⟩ := @Pipeline.advance_of_error _
    (toolchain.pipeline directory) onKernel .empty
    (block.name, block.artifact preamble) world error unbuilt
  exact ⟨error, outcome.trans failed, after.trans (left.trans unchanged)⟩

/-- A run changes nothing but the files of its kernels. -/
theorem confined_blocks
    {blocks : List KernelBlock}
    (preamble : String)
    (keeps : toolchain.KeepsToOutputs directory (blocks.map KernelBlock.name))
    (still : ∀ usage world, (onKernel usage world).world.files = world.files) :
    Confined toolchain.base
      ((blocks.map KernelBlock.name).flatMap
        (toolchain.config.ownPaths directory))
      ((toolchain.pipeline directory).runDocument onKernel
        ⟨preamble, blocks⟩) :=
  confined_runDocument keeps
    (fun kernel isKernel _ own =>
      List.mem_flatMap.mpr ⟨kernel, isKernel, own⟩)
    fun usage _ => .of_still (still usage _)

end Kernels

/-! ## Runs that fail -/

/-- What a run that failed at a kernel has changed, and what it has left alone. -/
structure AbortsWithin
    (toolchain : HsailToolchain Memory)
    (directory : Path)
    (earlier : List KernelBlock)
    (block : KernelBlock)
    (later : List KernelBlock)
    (initial final : FileSystem) :
    Prop where
  /-- Only files of the kernels so far have changed, and no directory is gone. -/
  changed :
    ChangedOnlyAt toolchain.base
      (((earlier ++ [block]).map KernelBlock.name).flatMap
        (toolchain.config.ownPaths directory))
      initial final
  directories_made :
    toolchain.MakesDirectoriesBy (toolchain.config.jobs block.name directory)
      directory initial final
  /-- Kernels of other names that the run never came to have what they had. -/
  later_untouched :
    toolchain.config.KeepsApart
        ((earlier ++ block :: later).map KernelBlock.name) →
      ∀ other ∈ later,
        other.name ∉ (earlier ++ [block]).map KernelBlock.name →
          ∀ path ∈ [toolchain.config.sourcePath directory other.name,
              toolchain.config.binaryPath directory other.name,
              toolchain.config.reportPath directory other.name],
            final.nodeAt toolchain.base path =
              initial.nodeAt toolchain.base path

section Runs

variable {preamble : String} {earlier later : List KernelBlock}
  {block : KernelBlock} {done : Summary} {world : World Memory}
  {onKernel : KernelUsage → Action Memory Unit}

variable
  (earlierDone : ((toolchain.pipeline directory).runDocument onKernel
    ⟨preamble, earlier⟩ world).outcome = .ok done)
  (blockFailed : ((toolchain.pipeline directory).runDocument onKernel
    ⟨preamble, [block]⟩
    ((toolchain.pipeline directory).runDocument onKernel ⟨preamble, earlier⟩
      world).world).outcome = .error error)

include earlierDone blockFailed

/-- Whatever follows, a run ends as the run of its first failing kernel. -/
theorem world_of_first_failure (later : List KernelBlock) :
    ((toolchain.pipeline directory).runDocument onKernel
        ⟨preamble, earlier ++ block :: later⟩ world).world =
      ((toolchain.pipeline directory).runDocument onKernel ⟨preamble, [block]⟩
        ((toolchain.pipeline directory).runDocument onKernel
          ⟨preamble, earlier⟩ world).world).world :=
  (Pipeline.runDocument_append_of_ok earlierDone (block :: later)).2.trans
    (Pipeline.runDocument_append_of_error blockFailed later).2

/-- A run that has no directory to write to leaves everything as it is. -/
theorem first_failure_of_not_reaches
    (ordinary : ∀ done ∈ earlier ++ [block],
      IsOrdinary (toolchain.config.sourceName done.name))
    (nowhere : ∀ place,
      ¬ world.files.Reaches toolchain.base directory place) :
    ((toolchain.pipeline directory).runDocument onKernel
      ⟨preamble, earlier ++ block :: later⟩ world).world = world := by
  rw [world_of_first_failure earlierDone blockFailed]
  cases earlier with
  | nil =>
      obtain ⟨_, -, unchanged⟩ := runDocument_of_not_reaches
        (ordinary block (by simp)) nowhere onKernel preamble
      exact unchanged
  | cons first rest =>
      have inTurn : ((toolchain.pipeline directory).runDocument onKernel
          ⟨preamble, [first] ++ rest⟩ world).outcome = .ok done :=
        earlierDone
      obtain ⟨_, _, firstDone, -⟩ :=
        Pipeline.exists_of_runDocument_append inTurn
      obtain ⟨_, firstFailed, -⟩ := runDocument_of_not_reaches
        (ordinary first (by simp)) nowhere onKernel preamble
      rw [firstDone] at firstFailed
      contradiction

/-- A run that ends at a kernel stays within the files of the kernels so far. -/
theorem abortsWithin_of_first_failure
    (names : ∀ kernel ∈ (earlier ++ block :: later).map KernelBlock.name,
      Declaration.IsName kernel.toList)
    (keeps : toolchain.KeepsToOutputs directory
      ((earlier ++ block :: later).map KernelBlock.name))
    (still : ∀ usage world, (onKernel usage world).world.files = world.files) :
    toolchain.AbortsWithin directory earlier block later world.files
      ((toolchain.pipeline directory).runDocument onKernel
        ⟨preamble, earlier ++ block :: later⟩ world).world.files := by
  have earlierListed : ∀ kernel ∈ earlier.map KernelBlock.name,
      kernel ∈ (earlier ++ block :: later).map KernelBlock.name := by
    simp +contextual
  have soFarListed : ∀ kernel ∈ (earlier ++ [block]).map KernelBlock.name,
      kernel ∈ (earlier ++ block :: later).map KernelBlock.name := by
    intro kernel isKernel
    rw [List.map_append, List.mem_append] at isKernel ⊢
    exact isKernel.imp_right fun isBlock => by simp_all
  have changed : ChangedOnlyAt toolchain.base
      (((earlier ++ [block]).map KernelBlock.name).flatMap
        (toolchain.config.ownPaths directory))
      world.files
      ((toolchain.pipeline directory).runDocument onKernel
        ⟨preamble, earlier ++ block :: later⟩ world).world.files := by
    rw [world_of_first_failure earlierDone blockFailed later,
      ← world_of_first_failure earlierDone blockFailed []]
    exact (confined_blocks preamble (keeps.mono soFarListed) still
      world).changed
  refine ⟨changed, ?_, ?_⟩
  · have earlierSame := (confined_blocks preamble (keeps.mono earlierListed)
      still world).same done earlierDone
    rw [world_of_first_failure earlierDone blockFailed later]
    exact .of_later earlierSame
      (single_makesDirectoriesBy keeps (by simp) still blockFailed)
  · intro keepsApart other isLater notSoFar path isPath
    by_cases reached : ∃ place,
        world.files.Reaches toolchain.base directory place
    · obtain ⟨place, reaches⟩ := reached
      have isListed : other.name ∈
          (earlier ++ block :: later).map KernelBlock.name :=
        List.mem_map_of_mem (by simp [isLater])
      have unchanged {extension : String} :=
        @nodeAt_fileName_of_changedOnlyAt _ toolchain directory place _ _ _ _ _
          extension keepsApart names isListed soFarListed notSoFar reaches
          changed
      simp only [List.mem_cons, List.not_mem_nil, or_false] at isPath
      rcases isPath with rfl | rfl | rfl
      · exact unchanged (by simp)
      · exact unchanged (by simp)
      · exact unchanged (by simp)
    · have ordinary : ∀ done ∈ earlier ++ [block],
          IsOrdinary (toolchain.config.sourceName done.name) :=
        fun done isDone => ToolchainConfig.isOrdinary_fileName
          (names _ (soFarListed _ (List.mem_map_of_mem isDone)))
          keepsApart.source_single
      rw [first_failure_of_not_reaches earlierDone blockFailed ordinary
        (not_exists.mp reached)]

end Runs

/--
A run of a document that fails does so at one kernel. It has changed nothing but the
files of this kernel and of those before it.
-/
theorem runDocument_abortsWithin
    {source : String}
    {world : World Memory}
    {onKernel : KernelUsage → Action Memory Unit}
    (keeps : toolchain.KeepsToOutputs directory (Document.split source).names)
    (still : ∀ usage world, (onKernel usage world).world.files = world.files)
    (failed : ((toolchain.pipeline directory).runDocument onKernel
      (Document.split source) world).outcome = .error error) :
    ∃ earlier block later done,
      (Document.split source).kernels = earlier ++ block :: later ∧
        ((toolchain.pipeline directory).runDocument onKernel
            ⟨(Document.split source).preamble, earlier⟩ world).outcome =
          .ok done ∧
        ((toolchain.pipeline directory).runDocument onKernel
            ⟨(Document.split source).preamble, [block]⟩
            ((toolchain.pipeline directory).runDocument onKernel
              ⟨(Document.split source).preamble, earlier⟩
              world).world).outcome =
          .error error ∧
        toolchain.AbortsWithin directory earlier block later world.files
          ((toolchain.pipeline directory).runDocument onKernel
            (Document.split source) world).world.files := by
  have names (kernel : String) :=
    @Document.isName_of_mem_names source kernel
  generalize Document.split source = document at keeps failed names ⊢
  obtain ⟨preamble, kernels⟩ := document
  obtain ⟨earlier, block, later, done, rfl, earlierDone, blockFailed⟩ :=
    Pipeline.exists_first_failure failed
  exact ⟨earlier, block, later, done, rfl, earlierDone, blockFailed,
    abortsWithin_of_first_failure earlierDone blockFailed names keeps still⟩

/-- A document that declares three kernels of different names. -/
def trio : String :=
  "__kernel void a\n__kernel void b\n__kernel void c\n"

theorem names_trio : (Document.split trio).names = ["a", "b", "c"] := by
  decide +kernel

/-- A workshop where a directory is in the way of the second kernel's binary. -/
def blockedWorkshop : World Unit where
  files :=
    (workshop.put ["w", "b.brig"] .directory).put ["w", "c.isa"]
      (.file "old".toUTF8 false)
  memory := ()

/-- A directory where the second of three kernels has its output. -/
theorem runDocument_abortsWithin_blockedWorkshop :
    let toolchain : HsailToolchain Unit := copying
    let pipeline := toolchain.pipeline ⟨"w"⟩
    let run := pipeline.runDocument (fun _ => pure ()) (Document.split trio)
      blockedWorkshop
    let error := RunError.unwritable ⟨"w/b.brig"⟩ (.system .isADirectory)
    toolchain.KeepsToOutputs ⟨"w"⟩ (Document.split trio).names ∧
      toolchain.config.KeepsApart (Document.split trio).names ∧
      run.outcome = .error error ∧
      ∃ earlier block later done,
        (Document.split trio).kernels = earlier ++ block :: later ∧
          (pipeline.runDocument (fun _ => pure ())
              ⟨(Document.split trio).preamble, earlier⟩
              blockedWorkshop).outcome =
            .ok done ∧
          (pipeline.runDocument (fun _ => pure ())
              ⟨(Document.split trio).preamble, [block]⟩
              (pipeline.runDocument (fun _ => pure ())
                ⟨(Document.split trio).preamble, earlier⟩
                blockedWorkshop).world).outcome =
            .error error ∧
          toolchain.AbortsWithin ⟨"w"⟩ earlier block later
            blockedWorkshop.files run.world.files := by
  intro toolchain pipeline run error
  have keeps : toolchain.KeepsToOutputs ⟨"w"⟩ (Document.split trio).names := by
    rw [names_trio]
    exact keepsToOutputs_copyingTools (by decide +kernel) (by decide +kernel)
  have keepsApart : toolchain.config.KeepsApart (Document.split trio).names := by
    rw [names_trio]
    decide
  have failed : run.outcome = .error error := by
    decide +kernel
  exact ⟨keeps, keepsApart, failed,
    runDocument_abortsWithin keeps (fun _ _ => rfl) failed⟩

/-- A machine whose tools make a directory where they should write a file. -/
def makingDirectories : Machine Memory where
  workingDirectory := []
  searchPath := [⟨"/bin"⟩]
  environment := .empty
  behaveIn _ invocation world :=
    (⟨.exited 0, ByteArray.empty, ByteArray.empty⟩,
      { world with
        files := world.files.put
          (invocation.directory ++ [Machine.copyName invocation]) .directory })

/-- A tool that makes a directory in place of its output leaves it behind. -/
theorem directory_left_behind :
    let toolchain : HsailToolchain Unit := ⟨{}, makingDirectories⟩
    let document := Document.split "__kernel void k\n"
    let run := (toolchain.pipeline ⟨"w"⟩).runDocument (fun _ => pure ()) document
      ⟨workshop, ()⟩
    toolchain.config.KeepsApart document.names ∧
      toolchain.KeepsToOutputs ⟨"w"⟩ document.names ∧
      run.outcome = .error (.missingOutput "k" ⟨"w/k.brig"⟩) ∧
      workshop.find? ["w", "k.brig"] = none ∧
      run.world.files.find? ["w", "k.brig"] = some .directory := by
  intro toolchain document run
  have names : document.names = ["k"] := by
    decide +kernel
  have keepsApart : toolchain.config.KeepsApart document.names := by
    rw [names]
    decide
  have keeps : toolchain.KeepsToOutputs ⟨"w"⟩ document.names := by
    rw [names]
    constructor
    · intro kernel member
      rw [List.mem_singleton.mp member]
      have stem : Script.stem (toolchain.config.sourceName "k") = "k" :=
        stem_fileName (by decide) "k"
      have usable : IsUsable ⟨"w"⟩ (toolchain.config.binaryName "k") := by
        decide +kernel
      refine onlyMakes_of_find?_eq usable ?_
      intro program place world location different
      rw [← stem] at different
      exact (find?_put _ _ _ _).trans (if_neg different.symm)
    · intro kernel member
      rw [List.mem_singleton.mp member]
      have usable : IsUsable ⟨"w"⟩ toolchain.config.reportName := by
        decide +kernel
      refine onlyMakes_of_find?_eq usable ?_
      intro program place world location different
      exact (find?_put _ _ _ _).trans (if_neg different.symm)
  exact ⟨keepsApart, keeps, by decide +kernel⟩

end HsailToolchain
end IsaUsage
