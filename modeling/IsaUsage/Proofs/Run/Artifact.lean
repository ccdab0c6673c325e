import IsaUsage.Proofs.Run.Build
import IsaUsage.Proofs.Run.Pipeline
import Mathlib.Data.List.Nodup

namespace IsaUsage

/-!
# Artifacts stay as they were written

The stand-alone text of a kernel is written before the compiler is started on it. If
no other file of the run is where a kernel's source is, the compiler meets this text
as it was written, and a run that succeeds leaves it so
(`HsailToolchain.keepsArtifacts_runArtifacts`).
-/

open FileSystem HsailToolchain IsaUsage.Action

/-- The source of every kernel is where no other file of these kernels is. -/
structure ToolchainConfig.SourcesApart
    (config : ToolchainConfig)
    (directory : Path)
    (kernels : List String)
    (base : Location)
    (files : FileSystem) :
    Prop where
  dump :
    ∀ kernel ∈ kernels,
      files.LeadApart base (config.sourcePath directory kernel)
        (config.dumpPath directory)
  binary :
    ∀ kernel ∈ kernels, ∀ other ∈ kernels,
      files.LeadApart base (config.sourcePath directory kernel)
        (config.binaryPath directory other)
  report :
    ∀ kernel ∈ kernels, ∀ other ∈ kernels,
      files.LeadApart base (config.sourcePath directory kernel)
        (config.reportPath directory other)
  source :
    ∀ kernel ∈ kernels, ∀ other ∈ kernels,
      kernel ≠ other →
        files.LeadApart base (config.sourcePath directory kernel)
          (config.sourcePath directory other)

namespace ToolchainConfig.SourcesApart

variable {config : ToolchainConfig} {directory : Path} {kernels : List String}
  {base : Location} {files : FileSystem}

/-- Sources stay apart while directories stay the same. -/
theorem of_sameDirectories
    {after : FileSystem}
    (apart : config.SourcesApart directory kernels base files)
    (same : SameDirectories files after) :
    config.SourcesApart directory kernels base after where
  dump := fun kernel member =>
    (apart.dump kernel member).of_sameDirectories same
  binary := fun kernel member other isOther =>
    (apart.binary kernel member other isOther).of_sameDirectories same
  report := fun kernel member other isOther =>
    (apart.report kernel member other isOther).of_sameDirectories same
  source := fun kernel member other isOther different =>
    (apart.source kernel member other isOther different).of_sameDirectories same

/-- No file of other kernels is where the source of a kernel is. -/
theorem of_mem_ownPaths
    {kernel : String}
    {others : List String}
    (apart : config.SourcesApart directory kernels base files)
    (member : kernel ∈ kernels)
    (subset : ∀ other ∈ others, other ∈ kernels)
    (notAgain : kernel ∉ others)
    {path : Path}
    (own : path ∈ others.flatMap (config.ownPaths directory)) :
    files.LeadApart base (config.sourcePath directory kernel) path := by
  obtain ⟨other, isOther, own⟩ := List.mem_flatMap.mp own
  have isKernel := subset other isOther
  simp only [ownPaths, List.mem_cons, List.not_mem_nil, or_false] at own
  rcases own with rfl | rfl | rfl | rfl
  · apply apart.source kernel member other isKernel
    rintro rfl
    exact notAgain isOther
  · exact apart.binary kernel member other isKernel
  · exact apart.dump kernel member
  · exact apart.report kernel member other isKernel

/-- A configuration that keeps names apart keeps the sources apart. -/
theorem of_keepsApart
    (keepsApart : config.KeepsApart kernels)
    (names : ∀ kernel ∈ kernels, Declaration.IsName kernel.toList)
    (dumpOrdinary : IsOrdinary config.reportName) :
    config.SourcesApart directory kernels base files := by
  have ordinary {kernel extension : String}
      (member : kernel ∈ kernels)
      (isExtension : extension ∈
        [config.sourceExtension, config.binaryExtension,
          config.reportExtension]) :
      IsOrdinary (fileName kernel extension) :=
    isOrdinary_fileName (names kernel member)
      (keepsApart.isSingle_of_mem isExtension)
  -- The same kernel has other extensions, and another kernel another name.
  have different {kernel other extension : String}
      (member : kernel ∈ kernels)
      (isOther : other ∈ kernels)
      (notSource : kernel = other → config.sourceExtension ≠ extension) :
      config.sourceName kernel ≠ fileName other extension := by
    intro same
    have sameKernel := kernel_eq_of_fileName_eq (names kernel member)
      (names other isOther) same
    subst sameKernel
    exact fileName_ne (notSource rfl) kernel same
  have sourceOrdinary {kernel : String} (member : kernel ∈ kernels) :
      IsOrdinary (config.sourceName kernel) :=
    ordinary member (by simp)
  constructor
  · intro kernel member
    exact leadApart_join (sourceOrdinary member) dumpOrdinary
      (keepsApart.dump_ne kernel member).1.symm
  · intro kernel member other isOther
    exact leadApart_join (sourceOrdinary member) (ordinary isOther (by simp))
      (different member isOther fun _ => keepsApart.source_ne_binary)
  · intro kernel member other isOther
    exact leadApart_join (sourceOrdinary member) (ordinary isOther (by simp))
      (different member isOther fun _ => keepsApart.source_ne_report)
  · intro kernel member other isOther apart
    exact leadApart_join (sourceOrdinary member) (sourceOrdinary isOther)
      (different member isOther fun same => absurd same apart)

end ToolchainConfig.SourcesApart

/-! ## What is added to a record -/

/-- An effect adds entries to a record, and something holds of each of them. -/
def Effect.Adds
    (holds : Entry → Prop)
    (earlier : List Entry)
    (effect : Effect (Memory × List Entry) α) :
    Prop :=
  ∃ added,
    effect.world.memory.2 = earlier ++ added ∧ ∀ entry ∈ added, holds entry

namespace Effect.Adds

variable {holds : Entry → Prop} {earlier : List Entry}
  {effect : Effect (Memory × List Entry) α}

/-- A run that notes nothing adds nothing to account for. -/
theorem of_still (still : effect.world.memory.2 = earlier) :
    effect.Adds holds earlier :=
  ⟨[], by rw [still, List.append_nil], by simp⟩

/-- Entries that are of one kind are of every wider kind. -/
theorem weaken
    {weaker : Entry → Prop}
    (adds : effect.Adds holds earlier)
    (implied : ∀ entry, holds entry → weaker entry) :
    effect.Adds weaker earlier := by
  obtain ⟨added, noted, all⟩ := adds
  exact ⟨added, noted, fun entry member => implied entry (all entry member)⟩

/-- What two runs in sequence add is of one kind if both additions are. -/
theorem bind
    {action : Action (Memory × List Entry) α}
    {next : α → Action (Memory × List Entry) β}
    {world : World (Memory × List Entry)}
    (first : (action world).Adds holds earlier)
    (second : ∀ value,
      (action world).outcome = .ok value →
        (next value (action world).world).Adds holds
          (action world).world.memory.2) :
    ((action >>= next) world).Adds holds earlier := by
  obtain ⟨added, noted, all⟩ := first
  cases outcome : (action world).outcome with
  | error error =>
      refine ⟨added, ?_, all⟩
      rw [(bind_of_error outcome).2, noted]
  | ok value =>
      obtain ⟨further, furtherNoted, furtherAll⟩ := second value outcome
      refine ⟨added ++ further, ?_, ?_⟩
      · rw [(bind_of_ok outcome).2, furtherNoted, noted, List.append_assoc]
      · exact List.forall_mem_append.mpr ⟨all, furtherAll⟩

end Effect.Adds

namespace HsailToolchain

variable {toolchain : HsailToolchain Memory} {directory : Path}
  {kernels : List String} {kernel : String}

section Stages

theorem memory_clearStale (path : Path) (world : World Memory) :
    (toolchain.clearStale path world).world.memory = world.memory := by
  unfold clearStale
  split <;> rfl

theorem memory_writeArtifact (artifact : String) (world : World Memory) :
    ((toolchain.pipeline directory).writeArtifact kernel artifact
      world).world.memory = world.memory := by
  rw [writeArtifact_eq]
  exact (congrArg World.memory (world_bind_of_still (fun _ _ => rfl)
    world)).trans (memory_change _ _ world)

theorem memory_keepReport (world : World Memory) :
    (toolchain.keepReport kernel directory world).world.memory =
      world.memory := by
  cases renamed : world.files.renameFile toolchain.base
      (toolchain.config.dumpPath directory)
      (toolchain.config.reportPath directory kernel) with
  | error failure =>
      rw [keepReport_of_error renamed]
  | ok files =>
      rw [(keepReport_of_ok renamed).2]

/-- A tool meets the files as they were, but for an output that was cleared. -/
theorem adds_recorded_produce
    (output tool : Path)
    (arguments : List String)
    (world : World (Memory × List ToolRun)) :
    (toolchain.recorded.produce output tool arguments kernel directory
        world).Adds
      (fun run =>
        run.invocation.arguments = arguments ∧
          ChangedOnlyAt toolchain.base [output] world.files run.before)
      world.memory.2 := by
  have cleared : ChangedOnlyAt toolchain.base [output] world.files
      (toolchain.recorded.clearStale output world).world.files :=
    (@confined_clearStale _ toolchain.recorded output world).changed
  apply Effect.Adds.bind
  · exact .of_still (congrArg Prod.snd (memory_clearStale output world))
  · intro _ _
    generalize (toolchain.recorded.clearStale output world).world = started
      at cleared ⊢
    apply Effect.Adds.bind
    · rcases recorded_runTool toolchain tool arguments kernel directory started
        with ⟨_, -, -, unchanged⟩ | ⟨run, met, runs, -, noted, -⟩
      · exact .of_still (congrArg (fun world => world.memory.2) unchanged)
      · refine ⟨[run], noted, ?_⟩
        rw [List.forall_mem_singleton, met]
        exact ⟨runs.arguments_eq, cleared⟩
    · intro _ _
      apply Effect.Adds.of_still
      rw [world_requireOutput]

/-- A build starts the compiler on the files as they were but for a binary. -/
theorem adds_recorded_isaReport (world : World (Memory × List ToolRun)) :
    (toolchain.recorded.isaReport kernel directory world).Adds
      (fun run =>
        run.invocation.arguments = toolchain.config.compilerArguments kernel ∧
            ChangedOnlyAt toolchain.base
              [toolchain.config.binaryPath directory kernel] world.files
              run.before ∨
          run.invocation.arguments =
            toolchain.config.finalizerArguments kernel)
      world.memory.2 := by
  apply Effect.Adds.bind
  · exact (adds_recorded_produce _ _ _ world).weaken fun _ => Or.inl
  · intro _ _
    apply Effect.Adds.bind
    · exact (adds_recorded_produce _ _ _ _).weaken
        fun _ started => Or.inr started.1
    · intro _ _
      exact .of_still (congrArg Prod.snd (memory_keepReport _))

end Stages

/-- The source of a kernel holds its stand-alone text. -/
def HoldsArtifact
    (toolchain : HsailToolchain Memory)
    (directory : Path)
    (artifact : String × String)
    (files : FileSystem) :
    Prop :=
  files.readFile toolchain.base
      (toolchain.config.sourcePath directory artifact.1) =
    .ok artifact.2.toUTF8

/--
A tool was started on the source of a kernel, which held the kernel's text, or it
was started on a binary.
-/
def StartedWell
    (toolchain : HsailToolchain Memory)
    (directory : Path)
    (artifacts : List (String × String))
    (run : ToolRun) :
    Prop :=
  (∃ artifact ∈ artifacts,
    run.invocation.arguments =
        toolchain.config.compilerArguments artifact.1 ∧
      toolchain.HoldsArtifact directory artifact run.before) ∨
    ∃ kernel,
      run.invocation.arguments = toolchain.config.finalizerArguments kernel

/-- A tool that started well among some artifacts did so among more. -/
theorem StartedWell.mono
    {fewer more : List (String × String)}
    {run : ToolRun}
    (subset : ∀ artifact ∈ fewer, artifact ∈ more)
    (started : toolchain.StartedWell directory fewer run) :
    toolchain.StartedWell directory more run := by
  rcases started with ⟨artifact, member, sameArguments, holds⟩ | onBinary
  · exact Or.inl ⟨artifact, subset artifact member, sameArguments, holds⟩
  · exact Or.inr onBinary

/-- An effect starts the compiler on texts as they were written and keeps them. -/
structure KeepsArtifacts
    (toolchain : HsailToolchain Memory)
    (directory : Path)
    (artifacts : List (String × String))
    (earlier : List ToolRun)
    (effect : Effect (Memory × List ToolRun) α) :
    Prop where
  started : effect.Adds (toolchain.StartedWell directory artifacts) earlier
  kept :
    ∀ value,
      effect.outcome = .ok value →
        ∀ artifact ∈ artifacts,
          toolchain.HoldsArtifact directory artifact effect.world.files

/-- The compiler met the text of a kernel if no other kernel is called so. -/
theorem KeepsArtifacts.holdsArtifact
    {artifacts : List (String × String)}
    {artifact : String × String}
    {effect : Effect (Memory × List ToolRun) α}
    {run : ToolRun}
    (keeps : toolchain.KeepsArtifacts directory artifacts [] effect)
    (nodup : (artifacts.map Prod.fst).Nodup)
    (member : artifact ∈ artifacts)
    (isRun : run ∈ effect.world.memory.2)
    (compiles : run.invocation.arguments =
      toolchain.config.compilerArguments artifact.1) :
    toolchain.HoldsArtifact directory artifact run.before := by
  obtain ⟨added, noted, all⟩ := keeps.started
  rw [noted, List.nil_append] at isRun
  obtain ⟨other, isOther, otherCompiles, holds⟩ | ⟨kernel, finalizes⟩ :=
    all run isRun
  · have sameName := toolchain.config.compilerArguments_injective
      (otherCompiles.symm.trans compiles)
    have same := List.inj_on_of_nodup_map nodup isOther member sameName
    subst same
    exact holds
  · exact absurd (compiles.symm.trans finalizes)
      (by simp [ToolchainConfig.compilerArguments,
        ToolchainConfig.finalizerArguments])

section Runs

variable {artifact : String × String}
  {hearing : KernelUsage → Action (Memory × List ToolRun) Unit}
  {world : World (Memory × List ToolRun)}

variable (keeps : toolchain.KeepsToOutputs directory kernels)

include keeps

/-- Building a kernel keeps its source. -/
theorem keepsArtifacts_process
    (member : artifact.1 ∈ kernels)
    (apart : toolchain.config.SourcesApart directory kernels toolchain.base
      world.files) :
    toolchain.KeepsArtifacts directory [artifact] world.memory.2
      ((toolchain.recorded.pipeline directory).process artifact.1 artifact.2
        world) where
  started := by
    rw [process_eq]
    apply Effect.Adds.bind
    · exact .of_still (congrArg Prod.snd (memory_writeArtifact _ world))
    · intro _ written
      obtain ⟨-, same, found⟩ := writeArtifact_leaves written rfl
      have sourceApart := (apart.of_sameDirectories same).binary artifact.1
        member artifact.1 member
      apply Effect.Adds.bind
      · apply (adds_recorded_isaReport _).weaken
        rintro run (⟨sameArguments, changed⟩ | onBinary)
        · refine Or.inl ⟨artifact, List.mem_singleton_self _, sameArguments, ?_⟩
          apply changed.readFile_of_leadApart (readFile_of_nodeAt found)
          intro path isBinary
          rw [List.mem_singleton.mp isBinary]
          exact sourceApart
        · exact Or.inr ⟨artifact.1, onBinary⟩
      · intro report _
        apply Effect.Adds.of_still
        rw [world_bind_of_still (fun _ _ => rfl), world_analyzeReport]
  kept := by
    intro usage processed other isArtifact
    rw [List.mem_singleton.mp isArtifact]
    obtain ⟨_, report, written, rfl, -, afterBuilding⟩ :=
      process_eq_ok processed
    obtain ⟨-, same, found⟩ := writeArtifact_leaves written rfl
    have stillApart := apart.of_sameDirectories same
    rw [afterBuilding]
    apply (confined_isaReport keeps.recorded member _).changed
      |>.readFile_of_leadApart (readFile_of_nodeAt found)
    intro path own
    simp only [List.mem_cons, List.not_mem_nil, or_false] at own
    rcases own with rfl | rfl | rfl
    · exact stillApart.binary _ member _ member
    · exact stillApart.dump _ member
    · exact stillApart.report _ member _ member

variable (still : ∀ usage world,
  (hearing usage world).world.files = world.files ∧
    (hearing usage world).world.memory.2 = world.memory.2)

include still

/-- One step of the loop keeps the artifact that it writes. -/
theorem keepsArtifacts_advance
    (member : artifact.1 ∈ kernels)
    (apart : toolchain.config.SourcesApart directory kernels toolchain.base
      world.files)
    (summary : Summary) :
    toolchain.KeepsArtifacts directory [artifact] world.memory.2
      ((toolchain.recorded.pipeline directory).advance hearing summary artifact
        world) := by
  have built := keepsArtifacts_process keeps member apart
  constructor
  · apply Effect.Adds.bind built.started
    intro usage _
    apply Effect.Adds.bind (.of_still (still usage _).2)
    intro _ _
    exact .of_still rfl
  · intro next advanced
    obtain ⟨usage, processed, -, afterTelling⟩ :=
      Pipeline.advance_eq_ok advanced
    rw [afterTelling]
    unfold HoldsArtifact
    rw [(still usage _).1]
    exact built.kept usage processed

/-- A run keeps the sources of its kernels if each has a name of its own. -/
theorem keepsArtifacts_runArtifacts
    {artifacts : List (String × String)}
    (named : ∀ artifact ∈ artifacts, artifact.1 ∈ kernels)
    (nodup : (artifacts.map Prod.fst).Nodup)
    (apart : toolchain.config.SourcesApart directory kernels toolchain.base
      world.files)
    (summary : Summary) :
    toolchain.KeepsArtifacts directory artifacts world.memory.2
      ((toolchain.recorded.pipeline directory).runArtifacts hearing summary
        artifacts world) := by
  -- What the first kernel has left is where none of the others has a file.
  induction artifacts generalizing world summary with
  | nil =>
      exact ⟨.of_still rfl, by simp⟩
  | cons artifact rest inductionHypothesis =>
      have member := named artifact List.mem_cons_self
      have restNamed (other : String × String) (isOther : other ∈ rest) :=
        named other (List.mem_cons_of_mem artifact isOther)
      obtain ⟨notAgain, restNodup⟩ := List.nodup_cons.mp nodup
      have first := keepsArtifacts_advance keeps still member apart summary
      have confined := confined_advance keeps.recorded member
        (fun _ => id) (fun usage _ => .of_still (still usage _).1) summary world
      have others (next : Summary)
          (advanced : ((toolchain.recorded.pipeline directory).advance hearing
            summary artifact world).outcome = .ok next) :=
        inductionHypothesis restNamed restNodup
          (apart.of_sameDirectories (confined.same next advanced)) next
      rw [Pipeline.runArtifacts_cons]
      constructor
      · apply Effect.Adds.bind
        · exact first.started.weaken fun _ => .mono (by simp)
        · intro next advanced
          exact (others next advanced).started.weaken fun _ => .mono
            fun _ => List.mem_cons_of_mem artifact
      · intro result done
        obtain ⟨next, advanced, restDone, afterRest⟩ := bind_eq_ok done
        have stillApart := apart.of_sameDirectories (confined.same next advanced)
        rw [afterRest, List.forall_mem_cons]
        refine ⟨?_, (others next advanced).kept result restDone⟩
        have changed := (confined_runArtifacts
          (keeps.recorded.mono (List.forall_mem_map.mpr restNamed))
          (fun kernel isKernel path own =>
            List.mem_flatMap.mpr ⟨kernel, isKernel, own⟩)
          (fun usage _ => .of_still (still usage _).1)
          (fun other isOther => List.mem_map_of_mem isOther) next
          ((toolchain.recorded.pipeline directory).advance hearing summary
            artifact world).world).changed
        exact changed.readFile_of_leadApart
          (first.kept next advanced artifact (List.mem_singleton_self _))
          fun path own => stillApart.of_mem_ownPaths member
            (List.forall_mem_map.mpr restNamed) notAgain own

end Runs

end HsailToolchain
end IsaUsage
