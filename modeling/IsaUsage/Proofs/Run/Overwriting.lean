import IsaUsage.Proofs.Kernel.Repetition
import IsaUsage.Proofs.Run.Outcome

namespace IsaUsage

/-!
# Artifacts that are written over

A surveyed run notes of every source where it is going to be written, and which
files there are just then. All sources go to one directory under the names of their
kernels, so a source meets the text of a block before if one of these has its name
(`HsailToolchain.forall₂_sourceWrites`), and this is what a division warns of
(`Division.ofText_warnsOfOverwriting`).
-/

open FileSystem HsailToolchain IsaUsage.Action

/-- A source that is about to be written, and the files there are just before. -/
structure SourceWrite where
  path : Path
  before : FileSystem

/-- Where a source is about to be written. -/
def SourceWrite.target (write : SourceWrite) (base : Location) :
    Except Failure Location :=
  write.before.locate base write.path

namespace HsailToolchain

/-- The pipeline that notes where a source goes, and the files there are then. -/
def surveyed (toolchain : HsailToolchain Memory) (directory : Path) :
    Pipeline (Memory × List SourceWrite) where
  toolchain := {
    commandLine := fun kernel => pure (toolchain.config.compileCommand kernel)
    sourcePath := fun directory kernel world =>
      let path := toolchain.config.sourcePath directory kernel
      (pure path : Action Memory Path).noting [⟨path, world.files⟩] world
    isaReport := fun kernel directory =>
      (toolchain.isaReport kernel directory).noting []
  }
  outputDirectory := directory
  workingDirectory := toolchain.base

/-- The sources that a run over a document writes, in order. -/
def sourceWrites
    (toolchain : HsailToolchain Memory)
    (directory : Path)
    (onKernel : KernelUsage → Action Memory Unit)
    (document : Document)
    (world : World Memory) :
    List SourceWrite :=
  ((toolchain.surveyed directory).runDocument
    (fun usage => (onKernel usage).noting []) document).entries world

/--
What is at a kernel's source once some blocks are built. A source that was a
program before the run stays one.
-/
def sourceAfter
    (toolchain : HsailToolchain Memory)
    (directory : Path)
    (preamble : String)
    (initial : FileSystem)
    (built : List KernelBlock)
    (kernel : String) :
    Except Failure Node :=
  match built.reverse.find? fun block => block.name = kernel with
  | some block =>
      .ok (.file (block.artifact preamble).toUTF8
        (initial.leadsToProgram toolchain.base
          (toolchain.config.sourcePath directory kernel)))
  | none =>
      initial.nodeAt toolchain.base
        (toolchain.config.sourcePath directory kernel)

/-- The files as a run finds them when it has built some of its blocks. -/
structure SourcesAfter
    (toolchain : HsailToolchain Memory)
    (directory : Path)
    (preamble : String)
    (kernels : List String)
    (place : Location)
    (initial : FileSystem)
    (built : List KernelBlock)
    (files : FileSystem) :
    Prop where
  reaches : files.Reaches toolchain.base directory place
  sources :
    toolchain.config.KeepsApart kernels →
      ∀ kernel ∈ kernels,
        files.nodeAt toolchain.base
            (toolchain.config.sourcePath directory kernel) =
          toolchain.sourceAfter directory preamble initial built kernel

/-- How the source of a block is written when others are built already. -/
structure WritesAfter
    (toolchain : HsailToolchain Memory)
    (directory : Path)
    (preamble : String)
    (kernels : List String)
    (place : Location)
    (initial : FileSystem)
    (built : List KernelBlock)
    (block : KernelBlock)
    (write : SourceWrite) :
    Prop where
  path_eq : write.path = toolchain.config.sourcePath directory block.name
  created :
    ∃ after,
      write.before.createFile toolchain.base write.path
          (block.artifact preamble).toUTF8 =
        .ok after
  /-- It goes to the entry of its name, whatever has become of the files. -/
  target_eq :
    write.target toolchain.base =
      .ok (place ++ [toolchain.config.sourceName block.name])
  /-- No file of a kernel of another name is there, whatever has made it. -/
  apart :
    ∀ kernel ∈ kernels,
      kernel ≠ block.name →
        ∀ extension,
          Path.IsSingle extension →
            write.before.LeadApart toolchain.base write.path
              (directory.join ⟨ToolchainConfig.fileName kernel extension⟩)
  /-- It meets the last text of its name, or what there was before the run. -/
  meets :
    toolchain.config.KeepsApart kernels →
      write.before.nodeAt toolchain.base write.path =
        toolchain.sourceAfter directory preamble initial built block.name

variable {toolchain : HsailToolchain Memory} {directory : Path}
  {onKernel : KernelUsage → Action Memory Unit} {preamble : String}
  {place : Location} {kernels : List String} {initial : FileSystem}
  {built : List KernelBlock} {block : KernelBlock} {summary : Summary}
  {world : World Memory}

section Survey

/-- A pipeline does the same where its writes are surveyed. -/
theorem surveyed_matches (toolchain : HsailToolchain Memory) (directory : Path) :
    Pipeline.Matches (@Notes Memory SourceWrite) (toolchain.surveyed directory)
      (toolchain.pipeline directory) where
  outputDirectory_eq := rfl
  workingDirectory_eq := rfl
  commandLine := fun _ => Notes.isCongruence.pure _
  sourcePath := fun _ _ _ _ => rfl
  isaReport := fun _ _ => Notes.noting [] _

theorem entries_surveyed_writeArtifact (name artifact : String) :
    ((toolchain.surveyed directory).writeArtifact name artifact).entries world =
      [⟨toolchain.config.sourcePath directory name, world.files⟩] :=
  Notes.entries_bind_of_silent
    ((toolchain.surveyed_matches directory).sourcePath directory name)
    (fun _ => Silent.isCongruence.bind (Silent.change _ _) fun _ =>
      Silent.isCongruence.log _) world

theorem surveyed_process_eq (name artifact : String) :
    (toolchain.surveyed directory).process name artifact = (do
      (toolchain.surveyed directory).writeArtifact name artifact
      let report ← (toolchain.isaReport name directory).noting []
      let usage ← analyzeReport toolchain.base report
      return ⟨name, toolchain.config.compileCommand name, usage⟩) :=
  pure_bind _ _

/-- Of a kernel one thing is noted: where its source goes. -/
theorem entries_surveyed_process (name artifact : String) :
    ((toolchain.surveyed directory).process name artifact).entries world =
      [⟨toolchain.config.sourcePath directory name, world.files⟩] := by
  have writing := Notes.isCongruence.writeArtifact
    (toolchain.surveyed_matches directory) name artifact
  have silent (_ : Unit) :
      Silent
        (do
          let report ← (toolchain.isaReport name directory).noting []
          let usage ← analyzeReport toolchain.base report
          return ⟨name, toolchain.config.compileCommand name, usage⟩ :
          Action (Memory × List SourceWrite) KernelUsage)
        (do
          let report ← toolchain.isaReport name directory
          let usage ← analyzeReport toolchain.base report
          return ⟨name, toolchain.config.compileCommand name, usage⟩) := by
    apply Silent.isCongruence.bind (Silent.noting _)
    intro report
    apply Silent.isCongruence.bind (Silent.isCongruence.analyzeReport _ _)
    intro usage
    exact Silent.isCongruence.pure _
  rw [surveyed_process_eq, Notes.entries_bind_of_silent writing silent,
    entries_surveyed_writeArtifact]

theorem entries_surveyed_advance (artifact : String × String) :
    ((toolchain.surveyed directory).advance
        (fun usage => (onKernel usage).noting []) summary artifact).entries
      world =
      [⟨toolchain.config.sourcePath directory artifact.1, world.files⟩] :=
  (Notes.entries_bind_of_silent
    (Notes.isCongruence.process (toolchain.surveyed_matches directory) _ _)
    (fun usage => Silent.isCongruence.bind (Silent.noting (onKernel usage))
      fun _ => Silent.isCongruence.pure (summary.push usage)) world).trans
    (entries_surveyed_process artifact.1 artifact.2)

/-- A run that goes on notes the first source, and then those after it. -/
theorem entries_surveyed_runArtifacts_cons
    {next : Summary}
    {artifact : String × String}
    (advanced : ((toolchain.pipeline directory).advance onKernel summary
      artifact world).outcome = .ok next)
    (artifacts : List (String × String)) :
    ((toolchain.surveyed directory).runArtifacts
        (fun usage => (onKernel usage).noting []) summary
        (artifact :: artifacts)).entries world =
      ⟨toolchain.config.sourcePath directory artifact.1, world.files⟩ ::
        ((toolchain.surveyed directory).runArtifacts
          (fun usage => (onKernel usage).noting []) next artifacts).entries
          ((toolchain.pipeline directory).advance onKernel summary artifact
            world).world := by
  have matching := toolchain.surveyed_matches directory
  have hearing (usage : KernelUsage) :
      Notes ((onKernel usage).noting ([] : List SourceWrite))
        (onKernel usage) :=
    Notes.noting [] _
  rw [Pipeline.runArtifacts_cons, Notes.entries_bind
    (Notes.isCongruence.advance matching hearing summary artifact)
    fun summary => Notes.isCongruence.runArtifacts matching hearing summary
      artifacts, advanced, entries_surveyed_advance]
  rfl

/-- The writes of sources are the entries of the loop over artifacts. -/
theorem sourceWrites_eq (document : Document) :
    toolchain.sourceWrites directory onKernel document world =
      ((toolchain.surveyed directory).runArtifacts
        (fun usage => (onKernel usage).noting []) .empty
        document.artifacts).entries world :=
  Notes.entries_bind_of_silent
    (Notes.isCongruence.runArtifacts (toolchain.surveyed_matches directory)
      (fun usage => Notes.noting [] (onKernel usage)) .empty
      document.artifacts)
    (fun summary => Silent.isCongruence.bind
      (Silent.isCongruence.log
        (.documentDone summary.kernels.length summary.totals))
      fun _ => Silent.isCongruence.pure summary) world

end Survey

section Sources

/-- One more block changes the source of its own kernel. -/
theorem sourceAfter_concat
    (built : List KernelBlock)
    (block : KernelBlock)
    (kernel : String) :
    toolchain.sourceAfter directory preamble initial (built ++ [block])
        kernel =
      if block.name = kernel then
        .ok (.file (block.artifact preamble).toUTF8
          (initial.leadsToProgram toolchain.base
            (toolchain.config.sourcePath directory kernel)))
      else
        toolchain.sourceAfter directory preamble initial built kernel := by
  by_cases same : block.name = kernel <;>
    simp [sourceAfter, same]

/-- Building blocks makes no program of a source, and keeps one that is. -/
theorem leadsToProgram_of_sourceAfter
    {files : FileSystem}
    {kernel : String}
    (found : files.nodeAt toolchain.base
        (toolchain.config.sourcePath directory kernel) =
      toolchain.sourceAfter directory preamble initial built kernel) :
    files.leadsToProgram toolchain.base
        (toolchain.config.sourcePath directory kernel) =
      initial.leadsToProgram toolchain.base
        (toolchain.config.sourcePath directory kernel) := by
  unfold leadsToProgram at *
  rw [found]
  unfold sourceAfter
  split <;> rfl

/-- A kernel that was built has its own text as its source. -/
theorem nodeAt_sourcePath_of_process
    {usage : KernelUsage}
    {kernel artifact : String}
    (keepsApart : toolchain.config.KeepsApart kernels)
    (isName : Declaration.IsName kernel.toList)
    (keeps : toolchain.KeepsToOutputs directory kernels)
    (member : kernel ∈ kernels)
    (reaches : world.files.Reaches toolchain.base directory place)
    (processed : ((toolchain.pipeline directory).process kernel artifact
      world).outcome = .ok usage) :
    ((toolchain.pipeline directory).process kernel artifact
        world).world.files.nodeAt toolchain.base
        (toolchain.config.sourcePath directory kernel) =
      .ok (.file artifact.toUTF8
        (world.files.leadsToProgram toolchain.base
          (toolchain.config.sourcePath directory kernel))) := by
  obtain ⟨_, report, written, rfl, -, afterBuilding⟩ := process_eq_ok processed
  obtain ⟨-, same, found⟩ := writeArtifact_leaves written rfl
  have changed := (confined_isaReport keeps member
    ((toolchain.pipeline directory).writeArtifact kernel artifact
      world).world).changed
  have changedNames : ChangedOnlyAt toolchain.base
      ([toolchain.config.binaryName kernel, toolchain.config.reportName,
        toolchain.config.keptName kernel].map fun name =>
          directory.join ⟨name⟩) _ _ :=
    changed
  rw [afterBuilding]
  refine (changedNames.nodeAt_join (same.reaches reaches) ?_
    (ToolchainConfig.isOrdinary_fileName isName keepsApart.source_single)
    (List.nodup_cons.mp (keepsApart.nodup_ownNames member)).1).trans found
  exact fun name listed => keepsApart.isSingle_of_mem_ownNames isName
    (List.mem_cons_of_mem _ listed)

section Steps

variable (single : Path.IsSingle toolchain.config.sourceExtension)
  (names : ∀ kernel ∈ kernels, Declaration.IsName kernel.toList)
  (keeps : toolchain.KeepsToOutputs directory kernels)
  (still : ∀ usage world, (onKernel usage world).world.files = world.files)

include names keeps still in
/-- A block that is built replaces the source of its name and no other. -/
theorem SourcesAfter.advance
    {next : Summary}
    (sources : toolchain.SourcesAfter directory preamble kernels place initial
      built world.files)
    (member : block.name ∈ kernels)
    (advanced : ((toolchain.pipeline directory).advance onKernel summary
      (block.name, block.artifact preamble) world).outcome = .ok next) :
    toolchain.SourcesAfter directory preamble kernels place initial
      (built ++ [block])
      ((toolchain.pipeline directory).advance onKernel summary
        (block.name, block.artifact preamble) world).world.files := by
  obtain ⟨usage, processed, -, afterTelling⟩ := Pipeline.advance_eq_ok advanced
  obtain ⟨changed, same⟩ := confined_process keeps member
    (block.artifact preamble) world
  rw [afterTelling, still usage]
  constructor
  · exact (same usage processed).reaches sources.reaches
  · intro keepsApart kernel isKernel
    rw [sourceAfter_concat]
    split
    · rename_i isBlock
      subst isBlock
      rw [← leadsToProgram_of_sourceAfter
        (sources.sources keepsApart _ isKernel)]
      exact nodeAt_sourcePath_of_process keepsApart (names _ member) keeps
        member sources.reaches processed
    · rename_i different
      rw [← sources.sources keepsApart kernel isKernel]
      have changedBlock : ChangedOnlyAt toolchain.base
          ([block.name].flatMap (toolchain.config.ownPaths directory)) _ _ :=
        changed.widen (by simp)
      exact nodeAt_fileName_of_changedOnlyAt keepsApart names isKernel
        (by simpa using member) (by simpa [eq_comm] using different)
        sources.reaches changedBlock (by simp)

include single names in
/-- A block that is built has its source written after those built before. -/
theorem SourcesAfter.writesAfter
    {next : Summary}
    (sources : toolchain.SourcesAfter directory preamble kernels place initial
      built world.files)
    (member : block.name ∈ kernels)
    (advanced : ((toolchain.pipeline directory).advance onKernel summary
      (block.name, block.artifact preamble) world).outcome = .ok next) :
    toolchain.WritesAfter directory preamble kernels place initial built block
      ⟨toolchain.config.sourcePath directory block.name, world.files⟩ := by
  obtain ⟨usage, processed, -, -⟩ := Pipeline.advance_eq_ok advanced
  obtain ⟨_, _, written, -, -, -⟩ := process_eq_ok processed
  rw [writeArtifact_eq] at written
  obtain ⟨_, changed, -, -⟩ := bind_eq_ok written
  obtain ⟨files, created⟩ := change_eq_ok changed
  obtain ⟨location, leads, -, -, -⟩ := createFile_eq_ok created
  have ordinary : IsOrdinary (toolchain.config.sourceName block.name) :=
    ToolchainConfig.isOrdinary_fileName (names _ member) single
  have inSlot := sources.reaches.locate_join ordinary
  have isEntry := slot_eq_ok (inSlot.symm.trans leads.locate)
  subst isEntry
  exact {
    path_eq := rfl
    created := ⟨files, created⟩
    target_eq := leads.locate
    apart := by
      intro kernel isKernel different extension isSingle
      apply leadApart_join ordinary
        (ToolchainConfig.isOrdinary_fileName (names _ isKernel) isSingle)
      intro same
      exact different (ToolchainConfig.kernel_eq_of_fileName_eq
        (names _ member) (names _ isKernel) same).symm
    meets := fun keepsApart => sources.sources keepsApart block.name member
  }

include single names keeps still in
/-- A run writes the source of every block after those of the blocks before. -/
theorem forall₂_runArtifacts
    {blocks : List KernelBlock}
    {result : Summary}
    (sources : toolchain.SourcesAfter directory preamble kernels place initial
      built world.files)
    (subset : ∀ block ∈ blocks, block.name ∈ kernels)
    (done : ((toolchain.pipeline directory).runArtifacts onKernel summary
      (Document.artifacts ⟨preamble, blocks⟩) world).outcome = .ok result) :
    List.Forall₂
      (fun (between, block) => toolchain.WritesAfter directory preamble kernels
        place initial (built ++ between) block)
      (withEarlier blocks)
      (((toolchain.surveyed directory).runArtifacts
        (fun usage => (onKernel usage).noting []) summary
        (Document.artifacts ⟨preamble, blocks⟩)).entries world) := by
  -- What is built so far is the invariant; every block adds itself to it.
  induction blocks generalizing built summary world with
  | nil =>
      exact .nil
  | cons block blocks inductionHypothesis =>
      have member := subset block List.mem_cons_self
      have artifacts : Document.artifacts ⟨preamble, block :: blocks⟩ =
          (block.name, block.artifact preamble) ::
            Document.artifacts ⟨preamble, blocks⟩ :=
        rfl
      rw [artifacts] at done ⊢
      rw [Pipeline.runArtifacts_cons] at done
      obtain ⟨next, advanced, restDone, -⟩ := bind_eq_ok done
      have first := sources.writesAfter single names member advanced
      have further := inductionHypothesis
        (sources.advance names keeps still member advanced)
        (fun other isOther => subset other (List.mem_cons_of_mem block isOther))
        restDone
      rw [entries_surveyed_runArtifacts_cons advanced, withEarlier_cons]
      refine .cons ?_ ?_
      · simpa using first
      · rw [List.forall₂_map_left_iff]
        simpa [List.append_assoc] using further

end Steps
end Sources

/-! ## Whole documents -/

/-- The sources of a run over a text are written over as a division has warned. -/
structure OverwritesAsWarned
    (toolchain : HsailToolchain Memory)
    (directory : Path)
    (source : String)
    (initial : FileSystem)
    (writes : List SourceWrite) :
    Prop where
  /-- The source of every block is written, in the order of the blocks. -/
  each :
    ∃ place,
      List.Forall₂
        (fun (built, block) => toolchain.WritesAfter directory
          (Document.split source).preamble (Document.split source).names place
          initial built block)
        (withEarlier (Document.split source).kernels) writes
  /-- One goes where another has gone before as often as there are warnings. -/
  count :
    repeatCount (writes.map (·.target toolchain.base)) =
      (Division.ofText source).log.countP LogEvent.isRepetition

/-- A document is built only in a directory that there is. -/
theorem exists_reaches_of_runDocument
    {document : Document}
    (single : Path.IsSingle toolchain.config.sourceExtension)
    (names : ∀ kernel ∈ document.names, Declaration.IsName kernel.toList)
    (done : ((toolchain.pipeline directory).runDocument onKernel document
      world).outcome = .ok summary) :
    ∃ place,
      document.kernels ≠ [] →
        world.files.Reaches toolchain.base directory place := by
  obtain ⟨preamble, blocks⟩ := document
  cases blocks with
  | nil =>
      exact ⟨[], fun some => (some rfl).elim⟩
  | cons block blocks =>
      rw [(Pipeline.runDocument_eq _ world).1] at done
      obtain ⟨next, advanced, -, -⟩ := bind_eq_ok done
      obtain ⟨usage, processed, -, -⟩ := Pipeline.advance_eq_ok advanced
      have ordinary := ToolchainConfig.isOrdinary_fileName
        (names block.name (by simp [Document.names])) single
      obtain ⟨place, resolved⟩ := exists_directoryAt_of_process ordinary processed
      exact ⟨place, fun _ => reaches_of_directoryAt resolved⟩

/-- A run writes the source of every block after those of the blocks before. -/
theorem forall₂_sourceWrites
    {document : Document}
    (single : Path.IsSingle toolchain.config.sourceExtension)
    (names : ∀ kernel ∈ document.names, Declaration.IsName kernel.toList)
    (keeps : toolchain.KeepsToOutputs directory document.names)
    (still : ∀ usage world, (onKernel usage world).world.files = world.files)
    (done : ((toolchain.pipeline directory).runDocument onKernel document
      world).outcome = .ok summary) :
    ∃ place,
      List.Forall₂
        (fun (built, block) => toolchain.WritesAfter directory
          document.preamble document.names place world.files built block)
        (withEarlier document.kernels)
        (toolchain.sourceWrites directory onKernel document world) := by
  obtain ⟨place, reaches⟩ := exists_reaches_of_runDocument single names done
  refine ⟨place, ?_⟩
  rw [sourceWrites_eq]
  by_cases none : document.kernels = []
  · rw [Document.artifacts, none]
    exact .nil
  · have start : toolchain.SourcesAfter directory document.preamble
        document.names place world.files [] world.files :=
      ⟨reaches none, fun _ _ _ => rfl⟩
    rw [(Pipeline.runDocument_eq _ world).1] at done
    simpa using forall₂_runArtifacts single names keeps still start
      (fun block member => List.mem_map_of_mem member) done

/-- The writes go to the sources of the kernels in order. -/
theorem map_target_of_forall₂
    {blocks : List KernelBlock}
    {writes : List SourceWrite}
    (each : List.Forall₂
      (fun (built, block) => toolchain.WritesAfter directory preamble kernels
        place initial built block)
      (withEarlier blocks) writes) :
    writes.map (·.target toolchain.base) =
      (blocks.map KernelBlock.name).map fun kernel =>
        .ok (place ++ [toolchain.config.sourceName kernel]) := by
  rw [← map_snd_withEarlier blocks, List.map_map, List.map_map,
    ← List.forall₂_eq_eq_eq, List.forall₂_map_left_iff,
    List.forall₂_map_right_iff]
  exact each.flip.imp fun write (built, block) written => written.target_eq

/-- A run over a document overwrites as the log of its division warns. -/
theorem runDocument_overwritesAsWarned
    {source : String}
    (single : Path.IsSingle toolchain.config.sourceExtension)
    (keeps : toolchain.KeepsToOutputs directory (Document.split source).names)
    (still : ∀ usage world, (onKernel usage world).world.files = world.files)
    (done : ((toolchain.pipeline directory).runDocument onKernel
      (Document.split source) world).outcome = .ok summary) :
    toolchain.OverwritesAsWarned directory source world.files
      (toolchain.sourceWrites directory onKernel (Document.split source)
        world) := by
  have names (kernel : String) :=
    @Document.isName_of_mem_names source kernel
  obtain ⟨place, each⟩ := forall₂_sourceWrites single names keeps still done
  refine ⟨⟨place, each⟩, ?_⟩
  have injective : Function.Injective fun kernel =>
      (.ok (place ++ [toolchain.config.sourceName kernel]) :
        Except Failure Location) := by
    intro kernel other same
    apply toolchain.config.sourceName_injective
    simpa using same
  rw [map_target_of_forall₂ each, repeatCount_map injective,
    Division.countP_isRepetition_log]
  rfl

end HsailToolchain

/-- What a division notes, and what its warnings come to in a run. -/
structure Division.WarnsOfOverwriting (source : String) : Prop where
  /-- Every name is noted, with a warning if it stood before, and no more. -/
  log :
    (ofText source).log =
      ((withEarlier (Document.split source).names).flatMap
        fun (earlier, name) =>
          .declarationFound name ::
            if name ∈ earlier then [.nameRepeated name] else []) ++
        if (Document.split source).names = [] then [.noDeclarations] else []
  /-- The names are shown for debugging, the warnings always. -/
  shown :
    (ofText source).log.map (fun event => (event.level, event.fields)) =
      ((withEarlier (Document.split source).names).flatMap
        fun (earlier, name) =>
          (.debugging, [("kernel", .name name)]) ::
            if name ∈ earlier then [(.warning, [("kernel", .name name)])]
            else []) ++
        if (Document.split source).names = [] then [(.warning, [])] else []
  /-- The warnings of names and the different names are as many as the blocks. -/
  warnings :
    (ofText source).log.countP LogEvent.isRepetition +
        (Document.split source).names.toFinset.card =
      (Document.split source).names.length
  /-- A run that succeeds writes as many sources over earlier ones. -/
  overwritten :
    ∀ {Memory : Type} (toolchain : HsailToolchain Memory) (directory : Path)
        (onKernel : KernelUsage → Action Memory Unit) (world : World Memory)
        (summary : Summary),
      Path.IsSingle toolchain.config.sourceExtension →
        toolchain.KeepsToOutputs directory (Document.split source).names →
          (∀ usage world,
            (onKernel usage world).world.files = world.files) →
            ((toolchain.pipeline directory).runDocument onKernel
                (Document.split source) world).outcome = .ok summary →
              toolchain.OverwritesAsWarned directory source world.files
                (toolchain.sourceWrites directory onKernel
                  (Document.split source) world)

/-- Which names are repeated is logged where a text is divided. -/
theorem Division.ofText_warnsOfOverwriting (source : String) :
    WarnsOfOverwriting source where
  log := log_eq source
  shown := by
    rw [log_eq, List.map_append, List.map_flatMap]
    congr 1
    · congr 1
      funext (earlier, name)
      by_cases again : name ∈ earlier <;>
        simp [again, LogEvent.level, LogEvent.fields]
    · split <;> rfl
  warnings := by
    rw [countP_isRepetition_log, repeatCount_add_card]
  overwritten := fun _ _ _ _ _ single keeps still done =>
    runDocument_overwritesAsWarned single keeps still done

/-- Three kernels, the last of which overwrites the first. -/
theorem Division.ofText_warnsOfOverwriting_reprise :
    let toolchain : HsailToolchain Unit := copying
    let run := (toolchain.pipeline ⟨"w"⟩).runDocument (fun _ => pure ())
      (Document.split reprise) ⟨workshop, ()⟩
    let writes := toolchain.sourceWrites ⟨"w"⟩ (fun _ => pure ())
      (Document.split reprise) ⟨workshop, ()⟩
    (ofText reprise).log =
        [.declarationFound "a", .declarationFound "b", .declarationFound "a",
          .nameRepeated "a"] ∧
      Path.IsSingle toolchain.config.sourceExtension ∧
      toolchain.KeepsToOutputs ⟨"w"⟩ (Document.split reprise).names ∧
      run.outcome.isOk = true ∧
      toolchain.OverwritesAsWarned ⟨"w"⟩ reprise workshop writes ∧
      repeatCount (writes.map (·.target toolchain.base)) = 1 := by
  intro toolchain run writes
  have warns := ofText_warnsOfOverwriting reprise
  have log : (ofText reprise).log =
      [.declarationFound "a", .declarationFound "b", .declarationFound "a",
        .nameRepeated "a"] := by
    rw [warns.log, names_reprise]
    decide
  have single : Path.IsSingle toolchain.config.sourceExtension := by
    decide
  have isOk : run.outcome.isOk = true := by
    decide +kernel
  obtain ⟨summary, done⟩ := exists_eq_ok_of_isOk isOk
  have overwritten := warns.overwritten toolchain ⟨"w"⟩ (fun _ => pure ())
    ⟨workshop, ()⟩ summary single keepsToOutputs_reprise (fun _ _ => rfl) done
  refine ⟨log, single, keepsToOutputs_reprise, isOk, overwritten,
    overwritten.count.trans ?_⟩
  rw [log]
  rfl

end IsaUsage
