import IsaUsage.Proofs.Kernel.Division
import IsaUsage.Proofs.Run.Build
import IsaUsage.Proofs.Run.Composition
import Mathlib.Data.List.Nodup

namespace IsaUsage

/-!
# What a run leaves

A run that succeeds leaves three files for every name of a kernel: the source, the
binary and the report of the last kernel that is called so. The report of fixed
name is gone, and everything else is as it was before the run
(`HsailToolchain.runDocument_leaves`).
-/

open FileSystem HsailToolchain IsaUsage.Action

/-- Stand-alone texts of kernels in one: all but the first give up the preamble. -/
def Document.reassemble (preamble : String) : List String → String
  | [] => ""
  | first :: others =>
      first ++ String.join (others.map fun text =>
        String.ofList (text.toList.drop preamble.toList.length))

/-- The artifacts of a document make up its text again. -/
theorem Document.reassemble_artifacts
    {document : Document}
    (some : document.kernels ≠ []) :
    reassemble document.preamble
        (document.kernels.map (KernelBlock.artifact · document.preamble)) =
      document.text := by
  obtain ⟨block, rest, shape⟩ := List.exists_cons_of_ne_nil some
  simp [text, shape, reassemble, KernelBlock.artifact, Function.comp_def,
    String.append_assoc]

/-- Something holds of the last item of every name. -/
def HoldsOfLast
    (name : α → String)
    (holds : α → Prop)
    (items : List α) :
    Prop :=
  ∀ given ∈ items.map name,
    ∃ earlier item later,
      items = earlier ++ item :: later ∧
        name item = given ∧
        (∀ other ∈ later, name other ≠ given) ∧
        holds item

/-- An item in front counts if none of its name follows. -/
theorem HoldsOfLast.cons
    {name : α → String}
    {holds : α → Prop}
    {items : List α}
    {item : α}
    (last : HoldsOfLast name holds items)
    (here : name item ∉ items.map name → holds item) :
    HoldsOfLast name holds (item :: items) := by
  intro given isGiven
  by_cases again : given ∈ items.map name
  · obtain ⟨earlier, final, later, rfl, isFinal, none_later, holdsFinal⟩ :=
      last given again
    exact ⟨item :: earlier, final, later, rfl, isFinal, none_later, holdsFinal⟩
  · have isHere : name item = given := by
      simpa [again, eq_comm] using isGiven
    subst isHere
    refine ⟨[], item, items, rfl, rfl, ?_, here again⟩
    intro other isOther same
    exact again (List.mem_map.mpr ⟨other, isOther, same⟩)

namespace HsailToolchain

/-- The files of every kernel are those of the last build of that name. -/
def LeavesLast
    (toolchain : HsailToolchain Memory)
    (directory : Path)
    (preamble : String)
    (builds : List Build)
    (files : FileSystem) :
    Prop :=
  ∀ kernel ∈ builds.map (fun build => build.block.name),
    ∃ earlier build later,
      builds = earlier ++ build :: later ∧
        build.block.name = kernel ∧
        (∀ other ∈ later, other.block.name ≠ kernel) ∧
        toolchain.Leaves directory preamble build files

/-- The builds of a document are named like its kernels. -/
theorem map_name_builds
    {document : Document}
    {builds : List Build}
    (blocks : builds.map Build.block = document.kernels) :
    builds.map (fun build => build.block.name) = document.names := by
  rw [Document.names, ← blocks, List.map_map]
  rfl

variable {toolchain : HsailToolchain Memory} {directory : Path}
  {place : Location} {kernels : List String} {preamble : String}

section Frame

variable {build : Build} {builds : List Build} {before after : FileSystem}
  {others : List String}

/-- Building other kernels leaves the files of a kernel alone. -/
theorem nodeAt_fileName_of_changedOnlyAt
    {kernel extension : String}
    (keepsApart : toolchain.config.KeepsApart kernels)
    (names : ∀ kernel ∈ kernels, Declaration.IsName kernel.toList)
    (member : kernel ∈ kernels)
    (subset : ∀ other ∈ others, other ∈ kernels)
    (apart : kernel ∉ others)
    (reaches : before.Reaches toolchain.base directory place)
    (changed : ChangedOnlyAt toolchain.base
      (others.flatMap (toolchain.config.ownPaths directory)) before after)
    (isExtension : extension ∈
      [toolchain.config.sourceExtension, toolchain.config.binaryExtension,
        toolchain.config.reportExtension]) :
    after.nodeAt toolchain.base
        (directory.join ⟨ToolchainConfig.fileName kernel extension⟩) =
      before.nodeAt toolchain.base
        (directory.join ⟨ToolchainConfig.fileName kernel extension⟩) := by
  have isName := names _ member
  have changedNames : ChangedOnlyAt toolchain.base
      ((others.flatMap toolchain.config.ownNames).map
        fun name => directory.join ⟨name⟩) before after := by
    rw [List.map_flatMap]
    exact changed
  have single : ∀ name ∈ others.flatMap toolchain.config.ownNames,
      Path.IsSingle name := by
    intro name listed
    obtain ⟨other, isOther, own⟩ := List.mem_flatMap.mp listed
    exact keepsApart.isSingle_of_mem_ownNames
      (names other (subset other isOther)) own
  apply changedNames.nodeAt_join reaches single
    (ToolchainConfig.isOrdinary_fileName isName
      (keepsApart.isSingle_of_mem isExtension))
  intro listed
  obtain ⟨other, isOther, own⟩ := List.mem_flatMap.mp listed
  refine keepsApart.not_mem_ownNames member isName
    (names other (subset other isOther)) ?_ isExtension own
  rintro rfl
  exact apart isOther

/-- What a build leaves is kept by the builds of other names. -/
theorem Leaves.of_changedOnlyAt
    (leaves : toolchain.Leaves directory preamble build before)
    (keepsApart : toolchain.config.KeepsApart kernels)
    (names : ∀ kernel ∈ kernels, Declaration.IsName kernel.toList)
    (member : build.block.name ∈ kernels)
    (subset : ∀ other ∈ others, other ∈ kernels)
    (apart : build.block.name ∉ others)
    (reaches : before.Reaches toolchain.base directory place)
    (changed : ChangedOnlyAt toolchain.base
      (others.flatMap (toolchain.config.ownPaths directory)) before after) :
    toolchain.Leaves directory preamble build after := by
  have unchanged {extension : String} :=
    @nodeAt_fileName_of_changedOnlyAt _ _ _ _ _ _ _ _ _ extension keepsApart
      names member subset apart reaches changed
  have sourceSame := @unchanged toolchain.config.sourceExtension (by simp)
  have binarySame := @unchanged toolchain.config.binaryExtension (by simp)
  have reportSame := @unchanged toolchain.config.reportExtension (by simp)
  obtain ⟨binary, isProgram, compiled, binaryThere⟩ := leaves.binary
  obtain ⟨report, isReportProgram, finalized, reportThere⟩ := leaves.report
  exact {
    leaves with
    source := (readFile_congr sourceSame).trans leaves.source
    binary := ⟨binary, isProgram, compiled, binarySame.trans binaryThere⟩
    report := ⟨report, isReportProgram, finalized,
      reportSame.trans reportThere⟩
  }

end Frame

section Runs

variable {blocks : List KernelBlock} {summary : Summary}
  {hearing : KernelUsage → Action (Memory × List ToolRun) Unit}
  {world after : World (Memory × List ToolRun)}

variable (keepsApart : toolchain.config.KeepsApart kernels)
  (names : ∀ kernel ∈ kernels, Declaration.IsName kernel.toList)
  (keeps : toolchain.KeepsToOutputs directory kernels)
  (still : ∀ usage world,
    (hearing usage world).world.files = world.files ∧
      (hearing usage world).world.memory.2 = world.memory.2)

include keeps still

/-- A run changes nothing but the files of its own kernels. -/
theorem changedOnlyAt_runDocument
    (subset : ∀ block ∈ blocks, block.name ∈ kernels)
    (ended : ((toolchain.recorded.pipeline directory).runDocument hearing
      ⟨preamble, blocks⟩ world).world = after) :
    ChangedOnlyAt toolchain.base
      ((Document.names ⟨preamble, blocks⟩).flatMap
        (toolchain.config.ownPaths directory))
      world.files after.files := by
  rw [← ended]
  refine (confined_runDocument (keeps.recorded.mono ?_) ?_ ?_ world).changed
  · intro kernel isKernel
    obtain ⟨block, isBlock, rfl⟩ := List.mem_map.mp isKernel
    exact subset block isBlock
  · exact fun kernel isKernel path own =>
      List.mem_flatMap.mpr ⟨kernel, isKernel, own⟩
  · exact fun usage _ => .of_still (still usage _).1

include keepsApart names

/-- A run of one kernel builds it and tells of it. -/
theorem runDocument_single_leaves
    {block : KernelBlock}
    (member : block.name ∈ kernels)
    (done : ((toolchain.recorded.pipeline directory).runDocument hearing
      ⟨preamble, [block]⟩ world).outcome = .ok summary)
    (ended : ((toolchain.recorded.pipeline directory).runDocument hearing
      ⟨preamble, [block]⟩ world).world = after) :
    ∃ usage build place,
      ((toolchain.recorded.pipeline directory).process block.name
          (block.artifact preamble) world).outcome = .ok usage ∧
        summary.kernels = [usage] ∧
        after.files =
          ((toolchain.recorded.pipeline directory).process block.name
            (block.artifact preamble) world).world.files ∧
        build.block = block ∧
        toolchain.Built directory preamble world after build ∧
        after.files.Reaches toolchain.base directory place := by
  obtain ⟨outcome, sameWorld⟩ := @Pipeline.runDocument_single _
    (toolchain.recorded.pipeline directory) hearing preamble block world
  rw [outcome] at done
  obtain ⟨usage, processed, rfl, afterTelling⟩ := Pipeline.advance_eq_ok done
  rw [← sameWorld, ended] at afterTelling
  obtain ⟨build, place, isBlock, built, reaches⟩ :=
    process_leaves keepsApart (names _ member) member keeps processed rfl
  obtain ⟨sameFiles, sameRuns⟩ := still usage
    ((toolchain.recorded.pipeline directory).process block.name
      (block.artifact preamble) world).world
  rw [← afterTelling] at sameFiles sameRuns
  rw [← sameFiles] at reaches
  refine ⟨usage, build, place, processed, rfl, sameFiles, isBlock,
    ⟨?_, ?_, ?_, built.dump_ordinary⟩, reaches⟩
  · exact sameRuns.trans built.noted
  · exact sameFiles ▸ built.leaves
  · exact sameFiles ▸ built.dump_gone

/-- A run leaves the files of the last build of every name. -/
theorem runDocument_leavesLast
    (subset : ∀ block ∈ blocks, block.name ∈ kernels)
    (gone : blocks = [] → toolchain.DumpGone directory world.files)
    (done : ((toolchain.recorded.pipeline directory).runDocument hearing
      ⟨preamble, blocks⟩ world).outcome = .ok summary)
    (ended : ((toolchain.recorded.pipeline directory).runDocument hearing
      ⟨preamble, blocks⟩ world).world = after) :
    ∃ builds : List Build,
      builds.map Build.block = blocks ∧
        after.memory.2 = world.memory.2 ++ builds.flatMap Build.runs ∧
        toolchain.LeavesLast directory preamble builds after.files ∧
        toolchain.DumpGone directory after.files := by
  -- Every kernel is built on what those before it have left; only a later one
  -- of the same name comes near its files.
  induction blocks generalizing world summary with
  | nil =>
      subst ended
      exact ⟨[], rfl, (List.append_nil _).symm, by simp [LeavesLast], gone rfl⟩
  | cons block rest inductionHypothesis =>
      have member := subset block List.mem_cons_self
      have restSubset (other : KernelBlock) (isOther : other ∈ rest) :=
        subset other (List.mem_cons_of_mem block isOther)
      rw [← List.singleton_append] at done ended
      obtain ⟨_, _, here, there, -⟩ := Pipeline.exists_of_runDocument_append done
      rw [(Pipeline.runDocument_append_of_ok here rest).2] at ended
      obtain ⟨_, build, place, -, -, -, isBlock, built, reaches⟩ :=
        runDocument_single_leaves keepsApart names keeps still member here rfl
      generalize ((toolchain.recorded.pipeline directory).runDocument hearing
        ⟨preamble, [block]⟩ world).world = middle at there ended built reaches
      obtain ⟨builds, areBlocks, noted, last, finallyGone⟩ :=
        inductionHypothesis restSubset (fun _ => built.dump_gone) there ended
      have restChanged := changedOnlyAt_runDocument keeps still restSubset ended
      refine ⟨build :: builds, by simp [isBlock, areBlocks], ?_, ?_,
        finallyGone⟩
      · rw [noted, built.noted, List.append_assoc]
        rfl
      · apply HoldsOfLast.cons last
        rw [@map_name_builds ⟨preamble, rest⟩ builds areBlocks]
        intro notAgain
        exact built.leaves.of_changedOnlyAt keepsApart names
          (isBlock ▸ member) (List.forall_mem_map.mpr restSubset) notAgain
          reaches restChanged

end Runs

/-! ## Whole documents -/

/-- The tool runs of building the kernels of a document, in order. -/
def documentRuns
    (toolchain : HsailToolchain Memory)
    (directory : Path)
    (onKernel : KernelUsage → Action Memory Unit)
    (document : Document)
    (world : World Memory) :
    List ToolRun :=
  ((toolchain.recorded.pipeline directory).runDocument
    (fun usage => (onKernel usage).noting []) document).entries world

/-- What a run over a text has left, if it succeeded. -/
structure LeftBy
    (toolchain : HsailToolchain Memory)
    (directory : Path)
    (source : String)
    (builds : List Build)
    (initial final : FileSystem) :
    Prop where
  /-- Every block was built once, in order. -/
  blocks : builds.map Build.block = (Document.split source).kernels
  last_builds :
    toolchain.LeavesLast directory (Document.split source).preamble builds final
  dump_gone : toolchain.DumpGone directory final
  elsewhere :
    ∀ location,
      initial.Avoids toolchain.base
          (generatedPaths toolchain.config directory source) location →
        final.find? location = initial.find? location
  /-- Kernels of different names keep the text between them. -/
  reassembles :
    (Document.split source).names.Nodup →
      ∃ texts,
        (Document.split source).kernels.map (fun block =>
            final.readText toolchain.base
              (toolchain.config.sourcePath directory block.name)) =
          texts.map .ok ∧
        Document.reassemble (Document.split source).preamble texts = source

section Whole

variable {onKernel : KernelUsage → Action Memory Unit} {source : String}
  {world : World Memory}

/-- If every kernel has a name of its own, every source is that of its kernel. -/
theorem readText_sourcePath_of_nodup
    {document : Document}
    {builds : List Build}
    {files : FileSystem}
    (nodup : document.names.Nodup)
    (blocks : builds.map Build.block = document.kernels)
    (last : toolchain.LeavesLast directory document.preamble builds files)
    {block : KernelBlock}
    (member : block ∈ document.kernels) :
    files.readText toolchain.base
        (toolchain.config.sourcePath directory block.name) =
      .ok (block.artifact document.preamble) := by
  have built : block.name ∈ builds.map fun build => build.block.name := by
    rw [map_name_builds blocks]
    exact List.mem_map_of_mem member
  obtain ⟨earlier, build, later, shape, sameName, -, leaves⟩ :=
    last block.name built
  have isBlock : build.block ∈ document.kernels := by
    rw [← blocks, shape]
    simp
  have sameBlock : build.block = block :=
    List.inj_on_of_nodup_map nodup isBlock member sameName
  subst sameBlock
  exact readText_of_readFile leaves.source

/-- A run that is recorded does what the plain run does. -/
theorem forget_runDocument_recorded
    (toolchain : HsailToolchain Memory)
    (directory : Path)
    (onKernel : KernelUsage → Action Memory Unit)
    (document : Document)
    (world : World Memory) :
    ((toolchain.recorded.pipeline directory).runDocument
        (fun usage => (onKernel usage).noting []) document
        world.recording).forget =
      (toolchain.pipeline directory).runDocument onKernel document world :=
  Records.isCongruence.runDocument (toolchain.recorded_matches directory)
    (fun usage => Records.noting [] (onKernel usage)) document world.recording

/-- The record of a run tells how the files came about that the run has left. -/
theorem exists_builds
    {document : Document}
    {summary : Summary}
    (keepsApart : toolchain.config.KeepsApart document.names)
    (names : ∀ kernel ∈ document.names, Declaration.IsName kernel.toList)
    (keeps : toolchain.KeepsToOutputs directory document.names)
    (still : ∀ usage world, (onKernel usage world).world.files = world.files)
    (some : document.kernels ≠ [])
    (done : ((toolchain.pipeline directory).runDocument onKernel document
      world).outcome = .ok summary) :
    ∃ builds : List Build,
      toolchain.documentRuns directory onKernel document world =
          builds.flatMap Build.runs ∧
        builds.map Build.block = document.kernels ∧
        toolchain.LeavesLast directory document.preamble builds
          ((toolchain.pipeline directory).runDocument onKernel document
            world).world.files ∧
        toolchain.DumpGone directory
          ((toolchain.pipeline directory).runDocument onKernel document
            world).world.files := by
  have records :=
    toolchain.forget_runDocument_recorded directory onKernel document world
  have sameFiles := congrArg (fun effect => effect.world.files) records
  simp only [Effect.forget, World.forget] at sameFiles
  obtain ⟨builds, blocks, noted, last, gone⟩ :=
    runDocument_leavesLast keepsApart names keeps
      (fun usage world => ⟨still usage world.forget, List.append_nil _⟩)
      (fun block member => List.mem_map_of_mem member)
      (fun none => (some none).elim)
      ((congrArg Effect.outcome records).trans done) rfl
  rw [sameFiles] at last gone
  exact ⟨builds, noted, blocks, last, gone⟩

/--
A run of a document that succeeds leaves the files of the last kernel of every
name, made by its own source and tool runs, and nothing else has changed. The
summary names every kernel, also those whose files were written over. The files are
those of a tree without links, in which a path that was written leads to one file.
-/
theorem runDocument_leaves
    {summary : Summary}
    (keepsApart : toolchain.config.KeepsApart (Document.split source).names)
    (keeps : toolchain.KeepsToOutputs directory (Document.split source).names)
    (still : ∀ usage world, (onKernel usage world).world.files = world.files)
    (some : (Document.split source).kernels ≠ [])
    (done : ((toolchain.pipeline directory).runDocument onKernel
      (Document.split source) world).outcome = .ok summary) :
    ∃ builds : List Build,
      toolchain.documentRuns directory onKernel (Document.split source) world =
          builds.flatMap Build.runs ∧
        toolchain.LeftBy directory source builds world.files
          ((toolchain.pipeline directory).runDocument onKernel
            (Document.split source) world).world.files ∧
        summary.kernels.map KernelUsage.kernel =
          (Document.split source).names := by
  have names (kernel : String)
      (isKernel : kernel ∈ (Document.split source).names) :
      Declaration.IsName kernel.toList := by
    obtain ⟨block, member, rfl⟩ := List.mem_map.mp isKernel
    exact Document.isName_of_mem_split member
  obtain ⟨builds, runs, blocks, last, gone⟩ :=
    exists_builds keepsApart names keeps still some done
  refine ⟨builds, runs, ⟨blocks, last, gone, ?_, ?_⟩,
    (Pipeline.told_of_runDocument done).1⟩
  · have confined := confined_runDocument keeps
      (fun _ member _ own => mem_generatedPaths member own)
      (fun usage world => .of_still (still usage world)) world
    exact confined.changed.elsewhere
  · intro nodup
    refine ⟨_, ?_, (Document.reassemble_artifacts some).trans
      (Document.text_split source)⟩
    rw [List.map_map]
    apply List.map_congr_left
    intro block member
    exact readText_sourcePath_of_nodup nodup blocks last member

end Whole

end HsailToolchain

/-- A document with a preamble whose first kernel is declared once more. -/
def reprise : String :=
  "#define N 1\n__kernel void a\n__kernel void b\n__kernel void a;\n"

theorem names_reprise : (Document.split reprise).names = ["a", "b", "a"] := by
  decide +kernel

theorem keepsApart_reprise :
    (copying : HsailToolchain Unit).config.KeepsApart
      (Document.split reprise).names := by
  rw [names_reprise]
  decide

theorem keepsToOutputs_reprise :
    (copying : HsailToolchain Unit).KeepsToOutputs ⟨"w"⟩
      (Document.split reprise).names := by
  rw [names_reprise]
  exact keepsToOutputs_copyingTools (by decide +kernel) (by decide +kernel)

/-- Three kernels, the last of which has the name of the first. -/
theorem runDocument_leaves_reprise :
    (copying : HsailToolchain Unit).config.KeepsApart
        (Document.split reprise).names ∧
      (copying : HsailToolchain Unit).KeepsToOutputs ⟨"w"⟩
        (Document.split reprise).names ∧
      (Document.split reprise).kernels ≠ [] ∧
      ∃ summary builds,
        ((copying.pipeline ⟨"w"⟩).runDocument (fun _ => pure ())
            (Document.split reprise) ⟨workshop, ()⟩).outcome =
              .ok summary ∧
          copying.documentRuns ⟨"w"⟩ (fun _ => pure ())
              (Document.split reprise) ⟨workshop, ()⟩ =
            builds.flatMap Build.runs ∧
          (copying : HsailToolchain Unit).LeftBy ⟨"w"⟩ reprise builds workshop
            ((copying.pipeline ⟨"w"⟩).runDocument (fun _ => pure ())
              (Document.split reprise) ⟨workshop, ()⟩).world.files ∧
          summary.kernels.map KernelUsage.kernel =
            (Document.split reprise).names := by
  have some : (Document.split reprise).kernels ≠ [] := by
    decide +kernel
  have isOk : ((copying.pipeline ⟨"w"⟩).runDocument (fun _ => pure ())
      (Document.split reprise) ⟨workshop, ()⟩).outcome.isOk = true := by
    decide +kernel
  obtain ⟨summary, done⟩ := exists_eq_ok_of_isOk isOk
  obtain ⟨builds, runs, left, named⟩ := runDocument_leaves keepsApart_reprise
    keepsToOutputs_reprise (fun _ _ => rfl) some done
  exact ⟨keepsApart_reprise, keepsToOutputs_reprise, some, summary, builds, done,
    runs, left, named⟩

end IsaUsage
