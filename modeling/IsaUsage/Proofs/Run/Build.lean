import IsaUsage.Proofs.Run.Confinement
import IsaUsage.Proofs.Toolchain.Freshness

namespace IsaUsage

/-!
# What building a kernel leaves

A kernel that was built has left three files: the text that was written for it, what
the compiler made of it, and what the finalizer made of that. The report of fixed
name is gone. The tools are watched through a recording machine, so that the files
can be compared with those that the tools have left.
-/

open FileSystem HsailToolchain IsaUsage.Action

/-- A kernel that was built, with the runs of the two tools. -/
structure Build where
  block : KernelBlock
  compiler : ToolRun
  finalizer : ToolRun

/-- The tool runs of a build in order. -/
def Build.runs (build : Build) : List ToolRun :=
  [build.compiler, build.finalizer]

namespace HsailToolchain

/-- The files of a kernel are those that a certain build of it made. -/
structure Leaves
    (toolchain : HsailToolchain Memory)
    (directory : Path)
    (preamble : String)
    (build : Build)
    (files : FileSystem) :
    Prop where
  compiler_arguments :
    build.compiler.invocation.arguments =
      toolchain.config.compilerArguments build.block.name
  finalizer_arguments :
    build.finalizer.invocation.arguments =
      toolchain.config.finalizerArguments build.block.name
  source :
    files.readFile toolchain.base
        (toolchain.config.sourcePath directory build.block.name) =
      .ok (build.block.artifact preamble).toUTF8
  /-- The binary is the file that the compiler has left. -/
  binary :
    ∃ contents isProgram,
      build.compiler.after.nodeAt toolchain.base
          (toolchain.config.binaryPath directory build.block.name) =
        .ok (.file contents isProgram) ∧
      files.nodeAt toolchain.base
          (toolchain.config.binaryPath directory build.block.name) =
        .ok (.file contents isProgram)
  /-- The report is the file that the finalizer has left. -/
  report :
    ∃ contents isProgram,
      build.finalizer.after.nodeAt toolchain.base
          (toolchain.config.dumpPath directory) =
        .ok (.file contents isProgram) ∧
      files.nodeAt toolchain.base
          (toolchain.config.reportPath directory build.block.name) =
        .ok (.file contents isProgram)

/-- Nothing is at the path of the finalizer's report, which could be there. -/
def DumpGone
    (toolchain : HsailToolchain Memory)
    (directory : Path)
    (files : FileSystem) :
    Prop :=
  files.nodeAt toolchain.base (toolchain.config.dumpPath directory) =
    .error (.system .notFound)

/-- A build of a kernel, from before its start to when it is done. -/
structure Built
    (toolchain : HsailToolchain Memory)
    (directory : Path)
    (preamble : String)
    (before after : World (Memory × List ToolRun))
    (build : Build) :
    Prop where
  noted : after.memory.2 = before.memory.2 ++ build.runs
  leaves : toolchain.Leaves directory preamble build after.files
  dump_gone : toolchain.DumpGone directory after.files
  dump_ordinary : IsOrdinary toolchain.config.reportName

/-- How a build comes to its report, stage by stage. -/
structure Staged
    (toolchain : HsailToolchain Memory)
    (directory : Path)
    (kernel : String)
    (before after : World (Memory × List ToolRun))
    (compiler finalizer : ToolRun) :
    Prop where
  noted : after.memory.2 = before.memory.2 ++ [compiler, finalizer]
  compiler_arguments :
    compiler.invocation.arguments = toolchain.config.compilerArguments kernel
  finalizer_arguments :
    finalizer.invocation.arguments = toolchain.config.finalizerArguments kernel
  binary :
    ∃ contents isProgram,
      compiler.after.nodeAt toolchain.base
          (toolchain.config.binaryPath directory kernel) =
        .ok (.file contents isProgram)
  dump :
    ∃ contents isProgram,
      finalizer.after.nodeAt toolchain.base
          (toolchain.config.dumpPath directory) =
        .ok (.file contents isProgram)
  compiler_same : SameDirectories before.files compiler.after
  finalizer_same : SameDirectories compiler.after finalizer.after
  finalizer_changed :
    ChangedOnlyAt toolchain.base [toolchain.config.dumpPath directory]
      compiler.after finalizer.after
  /-- What could be taken for the finalizer's report was cleared away. -/
  dump_cleared :
    ∃ world : World (Memory × List ToolRun),
      world.files = compiler.after ∧
        (toolchain.recorded.clearStale (toolchain.config.dumpPath directory)
          world).outcome = .ok ()
  renamed :
    finalizer.after.renameFile toolchain.base
        (toolchain.config.dumpPath directory)
        (toolchain.config.reportPath directory kernel) =
      .ok after.files

/-- The pipelines of a toolchain with and without the record do the same. -/
theorem recorded_matches (toolchain : HsailToolchain Memory) (directory : Path) :
    Pipeline.Matches (@Records Memory ToolRun)
      (toolchain.recorded.pipeline directory) (toolchain.pipeline directory) where
  outputDirectory_eq := rfl
  workingDirectory_eq := rfl
  commandLine := fun _ => Records.pure _
  sourcePath := fun _ _ => Records.pure _
  isaReport := toolchain.records_isaReport

variable {toolchain : HsailToolchain Memory} {directory : Path}
  {place : Location} {kernels : List String} {preamble : String}

section Stages

variable {kernel : String} {tool : Path} {arguments : List String}
  {world after : World (Memory × List ToolRun)}

theorem OnlyMakes.recorded
    {output : Path}
    (onlyMakes : toolchain.OnlyMakes directory output tool arguments) :
    toolchain.recorded.OnlyMakes directory output tool arguments :=
  fun world => onlyMakes world.forget

theorem KeepsToOutputs.mono
    {fewer : List String}
    (keeps : toolchain.KeepsToOutputs directory kernels)
    (subset : ∀ kernel ∈ fewer, kernel ∈ kernels) :
    toolchain.KeepsToOutputs directory fewer where
  compiler := fun kernel member => keeps.compiler kernel (subset kernel member)
  finalizer := fun kernel member => keeps.finalizer kernel (subset kernel member)

theorem KeepsToOutputs.recorded
    (keeps : toolchain.KeepsToOutputs directory kernels) :
    toolchain.recorded.KeepsToOutputs directory kernels where
  compiler := fun kernel member => (keeps.compiler kernel member).recorded
  finalizer := fun kernel member => (keeps.finalizer kernel member).recorded

/-- A stage of a build adds one run of a tool, and changes its output only. -/
theorem changedOnlyAt_of_recorded_produce
    {output : Path}
    (onlyMakes : toolchain.OnlyMakes directory output tool arguments)
    (produced : (toolchain.recorded.produce output tool arguments kernel
      directory world).outcome = .ok ())
    (ended : (toolchain.recorded.produce output tool arguments kernel
      directory world).world = after) :
    ∃ run : ToolRun,
      after.memory.2 = world.memory.2 ++ [run] ∧
        after.files = run.after ∧
        run.invocation.arguments = arguments ∧
        (∃ contents isProgram,
          run.after.nodeAt toolchain.base output =
            .ok (.file contents isProgram)) ∧
        ChangedOnlyAt toolchain.base [output] world.files run.after ∧
        SameDirectories world.files run.after := by
  obtain ⟨run, noted, left, sameArguments, -, -, isFile⟩ :=
    run_of_recorded_produce produced ended
  obtain ⟨changed, same⟩ :=
    @confined_produce _ toolchain.recorded directory output tool arguments
      kernel onlyMakes.recorded world
  have same := same () produced
  rw [ended, left] at changed same
  exact ⟨run, noted, left, sameArguments, exists_nodeAt_of_isFile isFile,
    changed, same⟩

/-- A build that returns a report went through its stages. -/
theorem isaReport_staged
    {report : Path}
    (keeps : toolchain.KeepsToOutputs directory kernels)
    (member : kernel ∈ kernels)
    (built : (toolchain.recorded.isaReport kernel directory world).outcome =
      .ok report)
    (ended : (toolchain.recorded.isaReport kernel directory world).world =
      after) :
    ∃ compiler finalizer,
      toolchain.Staged directory kernel world after compiler finalizer := by
  obtain ⟨compiledWorld, finalizedWorld, compiled, compiledEnd, finalized,
    finalizedEnd, kept, keptEnd⟩ := isaReport_eq_ok built
  obtain ⟨compiler, compilerNoted, compilerLeft, compilerArguments, binary, -,
    compilerSame⟩ :=
      changedOnlyAt_of_recorded_produce (keeps.compiler _ member) compiled
        compiledEnd
  obtain ⟨finalizer, finalizerNoted, finalizerLeft, finalizerArguments, dump,
    finalizerChanged, finalizerSame⟩ :=
      changedOnlyAt_of_recorded_produce (keeps.finalizer _ member) finalized
        finalizedEnd
  obtain ⟨rfl, keptMemory, renamed⟩ := keepReport_eq_ok kept
  obtain ⟨_, cleared, -, -⟩ := Action.bind_eq_ok finalized
  rw [← keptEnd, ended] at keptMemory renamed
  rw [compilerLeft] at finalizerChanged finalizerSame
  rw [finalizerLeft] at renamed
  refine ⟨compiler, finalizer, ?_, compilerArguments, finalizerArguments, binary,
    dump, compilerSame, finalizerSame, finalizerChanged,
    ⟨compiledWorld, compilerLeft, cleared⟩, renamed⟩
  rw [keptMemory, finalizerNoted, compilerNoted, List.append_assoc]
  rfl

/-- Once the binary is made, a build changes nothing but reports. -/
theorem Staged.changedOnlyAt
    {compiler finalizer : ToolRun}
    (staged : toolchain.Staged directory kernel world after compiler
      finalizer) :
    ChangedOnlyAt toolchain.base
      [toolchain.config.dumpPath directory,
        toolchain.config.reportPath directory kernel]
      compiler.after after.files :=
  (staged.finalizer_changed.widen (by simp)).trans staged.finalizer_same
    (changedOnlyAt_renameFile staged.renamed).1

end Stages

/-- Writing a source leaves it where the compiler is told to look for it. -/
theorem writeArtifact_leaves
    {world after : World Memory}
    {kernel artifact : String}
    (written : ((toolchain.pipeline directory).writeArtifact kernel artifact
      world).outcome = .ok ())
    (ended : ((toolchain.pipeline directory).writeArtifact kernel artifact
      world).world = after) :
    after.memory = world.memory ∧
      SameDirectories world.files after.files ∧
      after.files.nodeAt toolchain.base
          (toolchain.config.sourcePath directory kernel) =
        .ok (.file artifact.toUTF8
          (world.files.leadsToProgram toolchain.base
            (toolchain.config.sourcePath directory kernel))) := by
  have same := (confined_writeArtifact artifact world).same () written
  rw [ended] at same
  rw [writeArtifact_eq] at written ended
  obtain ⟨_, changed, -, writtenWorld⟩ := Action.bind_eq_ok written
  obtain ⟨files, created⟩ := Action.change_eq_ok changed
  rw [ended, change_of_ok created] at writtenWorld
  have afterShape : after = { world with files := files } := writtenWorld
  subst afterShape
  exact ⟨rfl, same, nodeAt_createFile created⟩

section Kernel

variable {block : KernelBlock} {world after : World (Memory × List ToolRun)}

variable (keepsApart : toolchain.config.KeepsApart kernels)
  (isName : Declaration.IsName block.name.toList)
  (member : block.name ∈ kernels)
  (keeps : toolchain.KeepsToOutputs directory kernels)

include keepsApart isName member keeps

/-- Building a kernel from its source leaves the files of this build. -/
theorem isaReport_leaves
    {report : Path}
    (reaches : world.files.Reaches toolchain.base directory place)
    (nonempty : directory.text ≠ "")
    (ready : world.files.readFile toolchain.base
        (toolchain.config.sourcePath directory block.name) =
      .ok (block.artifact preamble).toUTF8)
    (built : (toolchain.recorded.isaReport block.name directory
      world).outcome = .ok report)
    (ended : (toolchain.recorded.isaReport block.name directory world).world =
      after) :
    ∃ build,
      build.block = block ∧
        toolchain.Built directory preamble world after build := by
  obtain ⟨compiler, finalizer, staged⟩ := isaReport_staged keeps member built
    ended
  have compilerReaches := staged.compiler_same.reaches reaches
  -- A name like ".." can be no report's, as clearing it away would have failed.
  have dumpOrdinary : IsOrdinary toolchain.config.reportName := by
    obtain ⟨compiledWorld, compiledFiles, cleared⟩ := staged.dump_cleared
    exact isOrdinary_of_clearStale (compiledFiles ▸ compilerReaches) nonempty
      keepsApart.dump_single cleared
  have ordinary (name : String)
      (own : name ∈ toolchain.config.ownNames block.name) : IsOrdinary name :=
    keepsApart.isOrdinary_of_mem_ownNames isName dumpOrdinary own
  obtain ⟨sourceApart, rest⟩ :=
    List.nodup_cons.mp (keepsApart.nodup_ownNames member)
  obtain ⟨binaryApart, rest⟩ := List.nodup_cons.mp rest
  obtain ⟨dumpApart, -⟩ := List.nodup_cons.mp rest
  have changed : ChangedOnlyAt toolchain.base
      ([toolchain.config.binaryName block.name, toolchain.config.reportName,
        toolchain.config.keptName block.name].map
          fun name => directory.join ⟨name⟩)
      world.files after.files := by
    rw [← ended]
    exact (confined_isaReport keeps.recorded member world).changed
  have finished : ChangedOnlyAt toolchain.base
      ([toolchain.config.reportName, toolchain.config.keptName block.name].map
          fun name => directory.join ⟨name⟩)
      compiler.after after.files :=
    staged.changedOnlyAt
  obtain ⟨moved, gone⟩ :=
    (staged.finalizer_same.reaches compilerReaches).nodeAt_renameFile_join
      dumpOrdinary (ordinary _ (by simp [ToolchainConfig.ownNames]))
      (List.ne_of_not_mem_cons dumpApart) staged.renamed
  refine ⟨⟨block, compiler, finalizer⟩, rfl, staged.noted,
    ⟨staged.compiler_arguments, staged.finalizer_arguments, ?_, ?_, ?_⟩, gone,
    dumpOrdinary⟩
  · refine (readFile_congr (changed.nodeAt_join reaches ?_
      (ordinary _ List.mem_cons_self) sourceApart)).trans ready
    exact fun name listed =>
      (ordinary name (List.mem_cons_of_mem _ listed)).single
  · -- Neither the finalizer nor the renaming comes near the binary.
    obtain ⟨contents, isProgram, found⟩ := staged.binary
    refine ⟨contents, isProgram, found, ?_⟩
    refine (finished.nodeAt_join compilerReaches ?_
      (ordinary _ (by simp [ToolchainConfig.ownNames]))
      binaryApart).trans found
    exact fun name listed => (ordinary name
      (List.mem_cons_of_mem _ (List.mem_cons_of_mem _ listed))).single
  · obtain ⟨contents, isProgram, found⟩ := staged.dump
    exact ⟨contents, isProgram, found, moved.trans found⟩

/-- Building a kernel leaves its source and the files of this build. -/
theorem process_leaves
    {usage : KernelUsage}
    (processed : ((toolchain.recorded.pipeline directory).process block.name
      (block.artifact preamble) world).outcome = .ok usage)
    (ended : ((toolchain.recorded.pipeline directory).process block.name
      (block.artifact preamble) world).world = after) :
    ∃ build place,
      build.block = block ∧
        toolchain.Built directory preamble world after build ∧
        after.files.Reaches toolchain.base directory place := by
  have sourceOrdinary :
      IsOrdinary (toolchain.recorded.config.sourceName block.name) :=
    ToolchainConfig.isOrdinary_fileName isName keepsApart.source_single
  obtain ⟨place, resolved⟩ :=
    exists_directoryAt_of_process sourceOrdinary processed
  have reaches := reaches_of_directoryAt resolved
  have same := (confined_process keeps.recorded member
    (block.artifact preamble) world).same usage processed
  rw [ended] at same
  obtain ⟨_, report, written, writtenEnd, reported, reportEnd⟩ :=
    process_eq_ok processed
  obtain ⟨writtenMemory, writtenSame, ready⟩ :=
    writeArtifact_leaves written writtenEnd
  obtain ⟨build, isBlock, built⟩ :=
    isaReport_leaves keepsApart isName member keeps
      (writtenSame.reaches reaches)
      (text_ne_of_checkPath (checkPath_of_directoryAt resolved))
      (readFile_of_nodeAt ready) reported (reportEnd.symm.trans ended)
  have noted := built.noted
  rw [writtenMemory] at noted
  exact ⟨build, place, isBlock, { built with noted := noted },
    same.reaches reaches⟩

end Kernel

end HsailToolchain
end IsaUsage
