import IsaUsage.Proofs.File.Confinement
import IsaUsage.Proofs.Run.Kernel

namespace IsaUsage

/-!
# What a run can change

A run writes the source of a kernel, removes what is in the way of a tool, lets the
tools make their outputs, and renames the report. As long as the tools keep to what
they are there to make, nothing else is changed, whether the run succeeds or fails
(`HsailToolchain.confined_runDocument`).
-/

open FileSystem IsaUsage.Action

/--
An effect changes files only where certain paths lead, and if it is a success no
directory is made.
-/
structure Effect.StaysWithin
    (base : Location)
    (paths : List Path)
    (before : FileSystem)
    (effect : Effect Memory α) :
    Prop where
  changed : ChangedOnlyAt base paths before effect.world.files
  same :
    ∀ value,
      effect.outcome = .ok value → SameDirectories before effect.world.files

/-- All effects of an action stay within certain paths. -/
def Action.Confined
    (base : Location)
    (paths : List Path)
    (action : Action Memory α) :
    Prop :=
  ∀ world, (action world).StaysWithin base paths world.files

namespace Effect.StaysWithin

variable {base : Location} {paths : List Path} {world : World Memory}
  {action : Action Memory α} {next : α → Action Memory β}
  {effect : Effect Memory α} {files : FileSystem}

/-- A run that leaves the files alone stays within any paths. -/
theorem of_still (still : effect.world.files = files) :
    effect.StaysWithin base paths files where
  changed := still ▸ ChangedOnlyAt.refl _
  same := fun _ _ => still ▸ fun _ => Iff.rfl

/-- A failed run stays within the paths if it changed files only there. -/
theorem of_error
    {error : RunError}
    (failed : effect.outcome = .error error)
    (changed : ChangedOnlyAt base paths files effect.world.files) :
    effect.StaysWithin base paths files where
  changed := changed
  same := by
    intro value done
    rw [failed] at done
    contradiction

/-- A run in two parts stays within the paths if both parts do. -/
theorem bind
    (first : (action world).StaysWithin base paths world.files)
    (second : ∀ value,
      (action world).outcome = .ok value →
        (next value (action world).world).StaysWithin base paths
          (action world).world.files) :
    ((action >>= next) world).StaysWithin base paths world.files := by
  cases outcome : (action world).outcome with
  | error error =>
      obtain ⟨failed, after⟩ := @bind_of_error _ _ _ _ next _ _ outcome
      exact of_error failed (after ▸ first.changed)
  | ok value =>
      obtain ⟨continued, after⟩ := @bind_of_ok _ _ _ _ next _ _ outcome
      have sameFirst := first.same value outcome
      have further := second value outcome
      constructor
      · rw [after]
        exact first.changed.trans sameFirst further.changed
      · intro result done
        rw [continued] at done
        rw [after]
        exact sameFirst.trans (further.same result done)

theorem widen
    {wider : List Path}
    (within : effect.StaysWithin base paths files)
    (subset : ∀ path ∈ paths, path ∈ wider) :
    effect.StaysWithin base wider files where
  changed := within.changed.widen subset
  same := within.same

end Effect.StaysWithin

namespace Action.Confined

variable {base : Location} {paths : List Path} {action : Action Memory α}

theorem pure (value : α) :
    Confined base paths (pure value : Action Memory α) :=
  fun _ => .of_still rfl

theorem log (event : LogEvent) :
    Confined base paths (log event : Action Memory Unit) :=
  fun _ => .of_still rfl

theorem inspect
    (look : FileSystem → Except Failure α)
    (explain : Failure → RunError) :
    Confined base paths (inspect look explain : Action Memory α) :=
  fun world => .of_still (congrArg World.files (world_inspect look explain world))

/-- An edit is confined if it changes files and no directories. -/
theorem change
    {edit : FileSystem → Except Failure FileSystem}
    {explain : Failure → RunError}
    (edited : ∀ {before after},
      edit before = .ok after →
        ChangedOnlyAt base paths before after ∧ SameDirectories before after) :
    Confined base paths (change edit explain : Action Memory Unit) := by
  intro world
  cases outcome : edit world.files with
  | error failure =>
      rw [change_of_error outcome]
      exact .of_still rfl
  | ok after =>
      rw [change_of_ok outcome]
      exact ⟨(edited outcome).1, fun _ _ => (edited outcome).2⟩

/-- Two confined actions in sequence are confined. -/
theorem bind
    {next : α → Action Memory β}
    (first : Confined base paths action)
    (second : ∀ value, Confined base paths (next value)) :
    Confined base paths (action >>= next) :=
  fun world => (first world).bind fun value _ => second value _

theorem widen
    {wider : List Path}
    (confined : Confined base paths action)
    (subset : ∀ path ∈ paths, path ∈ wider) :
    Confined base wider action :=
  fun world => (confined world).widen subset

end Action.Confined

/-- The paths of the files that building a kernel can write. -/
def ToolchainConfig.ownPaths
    (config : ToolchainConfig)
    (directory : Path)
    (kernel : String) :
    List Path :=
  [config.sourcePath directory kernel, config.binaryPath directory kernel,
    config.dumpPath directory, config.reportPath directory kernel]

/-- The paths of every kernel of a text are generated paths. -/
theorem mem_generatedPaths
    {config : ToolchainConfig}
    {directory : Path}
    {text kernel : String}
    (member : kernel ∈ (Document.split text).names)
    {path : Path}
    (own : path ∈ config.ownPaths directory kernel) :
    path ∈ generatedPaths config directory text := by
  simp only [ToolchainConfig.ownPaths, List.mem_cons, List.not_mem_nil,
    or_false] at own
  simp only [generatedPaths, List.mem_cons, List.mem_flatMap,
    List.not_mem_nil, or_false]
  rcases own with rfl | rfl | rfl | rfl
  · exact Or.inr ⟨kernel, member, Or.inl rfl⟩
  · exact Or.inr ⟨kernel, member, Or.inr (Or.inl rfl)⟩
  · exact Or.inl rfl
  · exact Or.inr ⟨kernel, member, Or.inr (Or.inr rfl)⟩

namespace HsailToolchain

/-- A tool that is started changes nothing but its output. -/
def OnlyMakes
    (toolchain : HsailToolchain Memory)
    (directory output tool : Path)
    (arguments : List String) :
    Prop :=
  ∀ world invocation,
    toolchain.machine.invocation world.files tool arguments directory =
        .ok invocation →
      ∀ location,
        world.files.Avoids toolchain.base [output] location →
          (toolchain.machine.behave invocation world).2.files.find? location =
            world.files.find? location

/-- The compiler changes nothing but binaries, the finalizer only its report. -/
structure KeepsToOutputs
    (toolchain : HsailToolchain Memory)
    (directory : Path)
    (kernels : List String) :
    Prop where
  compiler :
    ∀ kernel ∈ kernels,
      toolchain.OnlyMakes directory
        (toolchain.config.binaryPath directory kernel)
        toolchain.config.compiler (toolchain.config.compilerArguments kernel)
  finalizer :
    ∀ kernel ∈ kernels,
      toolchain.OnlyMakes directory (toolchain.config.dumpPath directory)
        toolchain.config.finalizer (toolchain.config.finalizerArguments kernel)

section Stages

variable {toolchain : HsailToolchain Memory} {directory output tool : Path}
  {arguments : List String} {kernel : String}

/-- Removing a leftover is confined to the leftover. -/
theorem confined_clearStale (path : Path) :
    Confined toolchain.base [path] (toolchain.clearStale path) := by
  intro world
  unfold clearStale
  split
  · rename_i removed
    obtain ⟨changed, same⟩ := changedOnlyAt_removeFile removed
    exact ⟨changed, fun _ _ => same⟩
  · exact .of_still rfl
  · exact .of_still rfl

/-- What a tool makes where nothing was takes no directory away. -/
theorem OnlyMakes.changedOnlyAt
    {world : World Memory}
    {invocation : Invocation}
    (onlyMakes : toolchain.OnlyMakes directory output tool arguments)
    (absent : world.files.NothingAt toolchain.base output)
    (invoked : toolchain.machine.invocation world.files tool arguments
      directory = .ok invocation) :
    ChangedOnlyAt toolchain.base [output] world.files
      (toolchain.machine.behave invocation world).2.files where
  keeps := by
    intro location isDirectory
    rw [onlyMakes world invocation invoked location, isDirectory]
    intro path isOutput located
    rw [List.mem_singleton.mp isOutput] at located
    apply absent .directory
    simp [nodeAt, located, isDirectory, bind, Except.bind]
  elsewhere := onlyMakes world invocation invoked

/-- A file that a tool makes where nothing was is no directory made. -/
theorem OnlyMakes.sameDirectories
    {world : World Memory}
    {invocation : Invocation}
    (onlyMakes : toolchain.OnlyMakes directory output tool arguments)
    (absent : world.files.NothingAt toolchain.base output)
    (invoked : toolchain.machine.invocation world.files tool arguments
      directory = .ok invocation)
    (isFile : (toolchain.machine.behave invocation world).2.files.isFile
      toolchain.base output = true) :
    SameDirectories world.files
      (toolchain.machine.behave invocation world).2.files := by
  have changed := onlyMakes.changedOnlyAt absent invoked
  intro location
  refine ⟨changed.keeps location, fun isDirectory => ?_⟩
  by_cases avoids : world.files.Avoids toolchain.base [output] location
  · rw [← changed.elsewhere location avoids]
    exact isDirectory
  · simp only [Avoids, List.mem_singleton, forall_eq, not_not] at avoids
    obtain ⟨made, contents, isProgram, leads, found, -⟩ :=
      isFile_iff.mp isFile
    -- The output is a file, so it is not at this directory.
    cases (changed.keeps.locate avoids).symm.trans leads
    cases isDirectory.symm.trans found

/-- A stage of a build changes nothing but its output. -/
theorem confined_produce
    (onlyMakes : toolchain.OnlyMakes directory output tool arguments) :
    Confined toolchain.base [output]
      (toolchain.produce output tool arguments kernel directory) := by
  intro world
  apply (confined_clearStale output world).bind
  intro _ cleared
  have absent := (clearStale_eq_ok cleared).2.nothingAt
  generalize (toolchain.clearStale output world).world = started at absent ⊢
  constructor
  · rw [world_bind_of_still fun _ world => world_requireOutput output kernel world]
    cases invoked : toolchain.machine.invocation started.files tool arguments
        directory with
    | error failure =>
        rw [(runTool_of_error invoked).2]
        exact .refl _
    | ok invocation =>
        rw [(runTool_of_ok invoked).2]
        exact onlyMakes.changedOnlyAt absent invoked
  · intro _ done
    obtain ⟨_, ran, required, -⟩ := bind_eq_ok done
    obtain ⟨invocation, invoked, -, after⟩ := runTool_eq_ok ran
    have isFile := requireOutput_eq_ok required
    rw [world_bind_of_still fun _ world => world_requireOutput output kernel world,
      after]
    rw [after] at isFile
    exact onlyMakes.sameDirectories absent invoked isFile

/-- Keeping a report is confined to the dump and the report. -/
theorem confined_keepReport :
    Confined toolchain.base
      [toolchain.config.dumpPath directory,
        toolchain.config.reportPath directory kernel]
      (toolchain.keepReport kernel directory) := by
  apply Confined.bind (Confined.change changedOnlyAt_renameFile)
  intro _
  apply Confined.bind (Confined.log _)
  intro _
  exact Confined.pure _

end Stages

section Kernels

variable {toolchain : HsailToolchain Memory} {directory : Path}
  {kernel : String} {kernels : List String}

/-- A build is confined to its output, the dump and its report. -/
theorem confined_isaReport
    (keeps : toolchain.KeepsToOutputs directory kernels)
    (member : kernel ∈ kernels) :
    Confined toolchain.base
      [toolchain.config.binaryPath directory kernel,
        toolchain.config.dumpPath directory,
        toolchain.config.reportPath directory kernel]
      (toolchain.isaReport kernel directory) := by
  apply Confined.bind
  · apply (confined_produce (keeps.compiler kernel member)).widen
    simp
  · intro _
    apply Confined.bind
    · apply (confined_produce (keeps.finalizer kernel member)).widen
      simp
    · intro _
      apply confined_keepReport.widen
      simp

/-- Writing an artifact is confined to the artifact. -/
theorem confined_writeArtifact (artifact : String) :
    Confined toolchain.base [toolchain.config.sourcePath directory kernel]
      ((toolchain.pipeline directory).writeArtifact kernel artifact) := by
  rw [writeArtifact_eq]
  apply Confined.bind (Confined.change changedOnlyAt_createFile)
  intro _
  exact Confined.log _

/-- Building a kernel changes nothing but its own files. -/
theorem confined_process
    (keeps : toolchain.KeepsToOutputs directory kernels)
    (member : kernel ∈ kernels)
    (artifact : String) :
    Confined toolchain.base (toolchain.config.ownPaths directory kernel)
      ((toolchain.pipeline directory).process kernel artifact) := by
  rw [process_eq]
  apply Confined.bind
  · apply (confined_writeArtifact artifact).widen
    simp [ToolchainConfig.ownPaths]
  · intro _
    apply Confined.bind
    · apply (confined_isaReport keeps member).widen
      simp [ToolchainConfig.ownPaths]
    · intro report
      apply Confined.bind
      · apply Confined.bind (Confined.inspect _ _)
        intro text
        exact Confined.pure _
      · intro usage
        exact Confined.pure _

end Kernels

section Runs

variable {toolchain : HsailToolchain Memory} {directory : Path}
  {onKernel : KernelUsage → Action Memory Unit} {kernels : List String}
  {paths : List Path}

/-- Building a kernel and telling of it changes nothing but its own files. -/
theorem confined_advance
    (keeps : toolchain.KeepsToOutputs directory kernels)
    {artifact : String × String}
    (member : artifact.1 ∈ kernels)
    (own : ∀ path ∈ toolchain.config.ownPaths directory artifact.1,
      path ∈ paths)
    (hearing : ∀ usage, Confined toolchain.base paths (onKernel usage))
    (summary : Summary) :
    Confined toolchain.base paths
      ((toolchain.pipeline directory).advance onKernel summary artifact) := by
  apply Confined.bind
  · exact (confined_process keeps member artifact.2).widen own
  · intro usage
    apply Confined.bind (hearing usage)
    intro _
    exact Confined.pure _

/-- A loop over artifacts is confined to the paths of their kernels. -/
theorem confined_runArtifacts
    (keeps : toolchain.KeepsToOutputs directory kernels)
    (own : ∀ kernel ∈ kernels,
      ∀ path ∈ toolchain.config.ownPaths directory kernel, path ∈ paths)
    (hearing : ∀ usage, Confined toolchain.base paths (onKernel usage))
    {artifacts : List (String × String)}
    (named : ∀ artifact ∈ artifacts, artifact.1 ∈ kernels)
    (summary : Summary) :
    Confined toolchain.base paths
      ((toolchain.pipeline directory).runArtifacts onKernel summary
        artifacts) := by
  induction artifacts generalizing summary with
  | nil =>
      exact Confined.pure summary
  | cons artifact artifacts inductionHypothesis =>
      have member := named artifact List.mem_cons_self
      apply Confined.bind
      · exact confined_advance keeps member (own artifact.1 member) hearing
          summary
      · exact inductionHypothesis fun other isOther =>
          named other (List.mem_cons_of_mem _ isOther)

/-- A run changes nothing but the files of its kernels. -/
theorem confined_runDocument
    {document : Document}
    (keeps : toolchain.KeepsToOutputs directory document.names)
    (own : ∀ kernel ∈ document.names,
      ∀ path ∈ toolchain.config.ownPaths directory kernel, path ∈ paths)
    (hearing : ∀ usage, Confined toolchain.base paths (onKernel usage)) :
    Confined toolchain.base paths
      ((toolchain.pipeline directory).runDocument onKernel document) := by
  apply Confined.bind
  · apply confined_runArtifacts keeps own hearing
    intro artifact member
    obtain ⟨block, isBlock, rfl⟩ := List.mem_map.mp member
    exact List.mem_map_of_mem isBlock
  · intro summary
    apply Confined.bind (Confined.log _)
    intro _
    exact Confined.pure _

end Runs

section Copying

/-- A path that can be used for an entry of its directory. -/
structure IsUsable (directory : Path) (name : String) : Prop where
  ordinary : IsOrdinary name
  fine : checkPath (directory.join ⟨name⟩) = .ok ()
  fits : name.utf8ByteSize ≤ longestName

instance (directory : Path) (name : String) :
    Decidable (IsUsable directory name) :=
  decidable_of_iff
    ((Path.IsSingle name ∧ name ≠ "" ∧ name ≠ "." ∧ name ≠ "..") ∧
      checkPath (directory.join ⟨name⟩) = .ok () ∧
      name.utf8ByteSize ≤ longestName)
    ⟨fun ⟨⟨single, named, notHere, notUp⟩, fine, fits⟩ =>
        ⟨⟨single, named, notHere, notUp⟩, fine, fits⟩,
      fun usable =>
        ⟨⟨usable.ordinary.single, usable.ordinary.named,
            usable.ordinary.notHere, usable.ordinary.notUp⟩,
          usable.fine, usable.fits⟩⟩

variable {toolchain : HsailToolchain Memory} {directory tool : Path}

/-- A tool that changes one name where it runs makes nothing else. -/
theorem onlyMakes_of_find?_eq
    {name : String}
    {arguments : List String}
    (usable : IsUsable directory name)
    (untouched : ∀ program place world location,
      location ≠ place ++ [name] →
        (toolchain.machine.behave ⟨program, arguments, place⟩
            world).2.files.find? location =
          world.files.find? location) :
    toolchain.OnlyMakes directory (directory.join ⟨name⟩) tool arguments := by
  intro world invocation invoked location avoids
  obtain ⟨place, program, resolved, -, rfl⟩ :=
    Machine.invocation_eq_ok invoked
  apply untouched
  rintro rfl
  apply avoids _ List.mem_cons_self
  refine ((reaches_of_directoryAt resolved).locate_join usable.ordinary).trans ?_
  rw [slot, usable.fine]
  exact if_neg (Nat.not_lt.mpr usable.fits)

/-- A tool that translates one file into another makes this other file only. -/
theorem onlyMakes_of_translates
    {name : String}
    {arguments : List String}
    (usable : IsUsable directory name)
    (translates : ∀ program place,
      ∃ input,
        toolchain.machine.Translates ⟨program, arguments, place⟩ input
          (place ++ [name])) :
    toolchain.OnlyMakes directory (directory.join ⟨name⟩) tool arguments := by
  apply onlyMakes_of_find?_eq usable
  intro program place world location different
  obtain ⟨input, translates⟩ := translates program place
  exact translates.find?_eq world location different

/-- Tools that copy keep to their outputs, whatever sources are called. -/
theorem keepsToOutputs_copying
    {compiler finalizer : Path}
    {extension : String}
    {kernels : List String}
    (noDot : '.' ∉ extension.toList)
    (usable : ∀ kernel ∈ kernels,
      IsUsable directory (ToolchainConfig.fileName kernel "brig"))
    (dumpUsable : IsUsable directory "isa.txt") :
    HsailToolchain.KeepsToOutputs
      (⟨{ compiler := compiler
          finalizer := finalizer
          sourceExtension := extension }, .copying [⟨"/bin"⟩]⟩ :
        HsailToolchain Memory)
      directory kernels where
  compiler := by
    intro kernel member
    apply onlyMakes_of_translates (usable kernel member)
    intro program place
    exact ⟨_, copying_translates_compile noDot program place kernel⟩
  finalizer := by
    intro kernel _
    apply onlyMakes_of_translates dumpUsable
    intro program place
    exact ⟨_, Machine.copying_translates [⟨"/bin"⟩]
      ⟨program, [ToolchainConfig.fileName kernel "brig"], place⟩⟩

/-- Tools that copy keep to their outputs. -/
theorem keepsToOutputs_copyingTools
    {compiler finalizer : Path}
    {kernels : List String}
    (usable : ∀ kernel ∈ kernels,
      IsUsable directory (ToolchainConfig.fileName kernel "brig"))
    (dumpUsable : IsUsable directory "isa.txt") :
    (copyingTools compiler finalizer : HsailToolchain Memory).KeepsToOutputs
      directory kernels :=
  keepsToOutputs_copying (by decide) usable dumpUsable

end Copying

end HsailToolchain
end IsaUsage
