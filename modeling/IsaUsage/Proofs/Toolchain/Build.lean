import IsaUsage.Proofs.Toolchain.Naming
import IsaUsage.Proofs.Toolchain.Stage

namespace IsaUsage.HsailToolchain

/-!
# Building a kernel is settled

A kernel has four files of its own, and the one of fixed name is among them. When
the source is written, everything else that a build does follows from it: the
same report, or the same error, whatever was in the other three files before.
-/

open FileSystem IsaUsage.Action

/-- The locations of the files that building a kernel can write. -/
def ownLocations
    (toolchain : HsailToolchain Memory)
    (place : Location)
    (kernel : String) :
    List Location :=
  (toolchain.config.ownNames kernel).map fun name => place ++ [name]

/-- Where the source of a kernel is written. -/
def sourceLocation
    (toolchain : HsailToolchain Memory)
    (place : Location)
    (kernel : String) :
    Location :=
  place ++ [toolchain.config.sourceName kernel]

/-- Where the compiler leaves the binary of a kernel. -/
def binaryLocation
    (toolchain : HsailToolchain Memory)
    (place : Location)
    (kernel : String) :
    Location :=
  place ++ [toolchain.config.binaryName kernel]

/-- Where the finalizer leaves its report. -/
def dumpLocation (toolchain : HsailToolchain Memory) (place : Location) :
    Location :=
  place ++ [toolchain.config.reportName]

/-- Where the report of a kernel is kept. -/
def keptLocation
    (toolchain : HsailToolchain Memory)
    (place : Location)
    (kernel : String) :
    Location :=
  place ++ [toolchain.config.keptName kernel]

/-- The two tools translate the files of a kernel in a directory. -/
structure TranslatesKernel
    (toolchain : HsailToolchain Memory)
    (files : FileSystem)
    (directory : Path)
    (kernel : String) :
    Prop where
  /-- The compiler makes the binary out of the source. -/
  compiler :
    ∀ place program,
      files.directoryAt toolchain.base directory = .ok place →
        toolchain.machine.program files place toolchain.config.compiler =
            .ok program →
          toolchain.machine.Translates
            ⟨program, toolchain.config.compilerArguments kernel, place⟩
            (toolchain.sourceLocation place kernel)
            (toolchain.binaryLocation place kernel)
  /-- The finalizer makes its report out of the binary. -/
  finalizer :
    ∀ place program,
      files.directoryAt toolchain.base directory = .ok place →
        toolchain.machine.program files place toolchain.config.finalizer =
            .ok program →
          toolchain.machine.Translates
            ⟨program, toolchain.config.finalizerArguments kernel, place⟩
            (toolchain.binaryLocation place kernel)
            (toolchain.dumpLocation place)

/-- A program that one of the tools is found at, from the output directory. -/
def IsExecutable
    (toolchain : HsailToolchain Memory)
    (files : FileSystem)
    (directory : Path)
    (location : Location) :
    Prop :=
  ∃ place,
    files.directoryAt toolchain.base directory = .ok place ∧
      (toolchain.machine.program files place toolchain.config.compiler =
          .ok location ∨
        toolchain.machine.program files place toolchain.config.finalizer =
          .ok location)

/-- Tools that translate kernels and are not among the files of kernels. -/
structure IsWellBehaved
    (toolchain : HsailToolchain Memory)
    (files : FileSystem)
    (directory : Path)
    (kernels : List String) :
    Prop where
  translates :
    ∀ kernel ∈ kernels, toolchain.TranslatesKernel files directory kernel
  executables_apart :
    ∀ place,
      files.directoryAt toolchain.base directory = .ok place →
        ∀ kernel ∈ kernels,
          ∀ location ∈ toolchain.ownLocations place kernel,
            ¬ toolchain.IsExecutable files directory location

/-- A kernel whose files are apart and may be changed, with its tools. -/
structure Prepared
    (toolchain : HsailToolchain Memory)
    (changeable : Location → Prop)
    (origin : FileSystem)
    (directory : Path)
    (place : Location)
    (kernel : String) :
    Prop where
  reaches : origin.Reaches toolchain.base directory place
  isName : Declaration.IsName kernel.toList
  keepsApart : toolchain.config.KeepsApart [kernel]
  allowed :
    ∀ location ∈ toolchain.ownLocations place kernel, changeable location
  translates : toolchain.TranslatesKernel origin directory kernel

/-- What is known once the source of a kernel is written. -/
def writtenFacts
    (toolchain : HsailToolchain Memory)
    (place : Location)
    (kernel : String)
    (source : ByteArray) :
    List (Location × Finding) :=
  [(toolchain.sourceLocation place kernel, .bytes source)]

/-- What is known once a kernel is built. -/
def builtFacts
    (toolchain : HsailToolchain Memory)
    (place : Location)
    (kernel : String)
    (source binary report : ByteArray) :
    List (Location × Finding) :=
  (toolchain.keptLocation place kernel, .node (some (.file report false))) ::
    (toolchain.dumpLocation place, .node none) ::
    (toolchain.binaryLocation place kernel,
      .node (some (.file binary false))) ::
    toolchain.writtenFacts place kernel source

variable {toolchain : HsailToolchain Memory} {changeable : Location → Prop}
  {origin : FileSystem} {directory : Path} {place : Location}
  {kernel : String} {source : ByteArray}

/-- Everything that is known of a built kernel is about its own files. -/
theorem map_fst_builtFacts (binary report : ByteArray) :
    (toolchain.builtFacts place kernel source binary report).map Prod.fst =
      (toolchain.ownLocations place kernel).reverse :=
  rfl

/-- The locations of a kernel are those of its four files. -/
theorem mem_ownLocations {location : Location} :
    location ∈ toolchain.ownLocations place kernel ↔
      location = toolchain.sourceLocation place kernel ∨
        location = toolchain.binaryLocation place kernel ∨
        location = toolchain.dumpLocation place ∨
        location = toolchain.keptLocation place kernel := by
  simp [ownLocations, ToolchainConfig.ownNames, sourceLocation, binaryLocation,
    dumpLocation, keptLocation]

namespace Prepared

section Names

variable
  (prepared : toolchain.Prepared changeable origin directory place kernel)

include prepared

theorem source_ordinary : IsOrdinary (toolchain.config.sourceName kernel) :=
  ToolchainConfig.isOrdinary_fileName prepared.isName
    prepared.keepsApart.source_single

theorem binary_ordinary : IsOrdinary (toolchain.config.binaryName kernel) :=
  ToolchainConfig.isOrdinary_fileName prepared.isName
    prepared.keepsApart.binary_single

theorem kept_ordinary : IsOrdinary (toolchain.config.keptName kernel) :=
  ToolchainConfig.isOrdinary_fileName prepared.isName
    prepared.keepsApart.report_single

/-- A source and a binary lie at different locations. -/
theorem source_ne_binary :
    toolchain.sourceLocation place kernel ≠
      toolchain.binaryLocation place kernel := by
  have different : toolchain.config.sourceName kernel ≠
      toolchain.config.binaryName kernel :=
    ToolchainConfig.fileName_ne prepared.keepsApart.source_ne_binary kernel
  simpa [sourceLocation, binaryLocation] using different

/-- A source and a report lie at different locations. -/
theorem source_ne_kept :
    toolchain.sourceLocation place kernel ≠
      toolchain.keptLocation place kernel := by
  have different : toolchain.config.sourceName kernel ≠
      toolchain.config.keptName kernel :=
    ToolchainConfig.fileName_ne prepared.keepsApart.source_ne_report kernel
  simpa [sourceLocation, keptLocation] using different

/-- A binary and a report lie at different locations. -/
theorem binary_ne_kept :
    toolchain.binaryLocation place kernel ≠
      toolchain.keptLocation place kernel := by
  have different : toolchain.config.binaryName kernel ≠
      toolchain.config.keptName kernel :=
    ToolchainConfig.fileName_ne prepared.keepsApart.binary_ne_report kernel
  simpa [binaryLocation, keptLocation] using different

/-- The dump lies apart from the other files of a kernel. -/
theorem dump_ne :
    toolchain.dumpLocation place ≠ toolchain.sourceLocation place kernel ∧
      toolchain.dumpLocation place ≠ toolchain.binaryLocation place kernel ∧
      toolchain.dumpLocation place ≠ toolchain.keptLocation place kernel := by
  simpa [dumpLocation, sourceLocation, binaryLocation, keptLocation]
    using prepared.keepsApart.dump_ne kernel List.mem_cons_self

theorem binary_allowed : changeable (toolchain.binaryLocation place kernel) :=
  prepared.allowed _ (mem_ownLocations.mpr (Or.inr (Or.inl rfl)))

theorem dump_allowed : changeable (toolchain.dumpLocation place) :=
  prepared.allowed _ (mem_ownLocations.mpr (Or.inr (Or.inr (Or.inl rfl))))

theorem kept_allowed : changeable (toolchain.keptLocation place kernel) :=
  prepared.allowed _ (mem_ownLocations.mpr (Or.inr (Or.inr (Or.inr rfl))))

/-- Nothing known of a written source is about the binary. -/
theorem written_apart :
    ∀ fact ∈ toolchain.writtenFacts place kernel source,
      fact.1 ≠ toolchain.binaryLocation place kernel := by
  intro fact member
  rw [List.mem_singleton.mp member]
  exact prepared.source_ne_binary

/-- Nothing known of a compiled kernel is about its reports. -/
theorem compiled_apart (binary : ByteArray) :
    ∀ fact ∈ (toolchain.binaryLocation place kernel,
        Finding.node (some (.file binary false))) ::
          toolchain.writtenFacts place kernel source,
      fact.1 ≠ toolchain.dumpLocation place ∧
        fact.1 ≠ toolchain.keptLocation place kernel := by
  obtain ⟨dumpSource, dumpBinary, -⟩ := prepared.dump_ne
  intro fact member
  rcases List.mem_cons.mp member with rfl | member
  · exact ⟨dumpBinary.symm, prepared.binary_ne_kept⟩
  · rw [List.mem_singleton.mp member]
    exact ⟨dumpSource.symm, prepared.source_ne_kept⟩

end Names

/-- The compiler is settled once the source is written. -/
theorem compile_settled
    (prepared : toolchain.Prepared changeable origin directory place kernel)
    (steady : toolchain.IsSteady changeable origin directory
      toolchain.config.compiler)
    (source : ByteArray) :
    ∃ binary,
      Settled
        (Holds changeable origin (toolchain.writtenFacts place kernel source))
        (toolchain.compile kernel directory)
        [toolchain.binaryLocation place kernel]
        fun _ files =>
          checkPath directory = .ok () ∧
            Holds changeable origin
              ((toolchain.binaryLocation place kernel,
                .node (some (.file binary false))) ::
                toolchain.writtenFacts place kernel source)
              files :=
  produce_settled prepared.reaches prepared.binary_ordinary steady
    (fun fine program => prepared.translates.compiler place program
      (prepared.reaches.directoryAt_of_checkPath fine))
    prepared.binary_allowed
    prepared.written_apart (Or.inl List.mem_cons_self)

/-- Finalizing and keeping the report are settled once the binary is there. -/
theorem finish_settled
    (prepared : toolchain.Prepared changeable origin directory place kernel)
    (steady : toolchain.IsSteady changeable origin directory
      toolchain.config.finalizer)
    (source binary : ByteArray) :
    ∃ report,
      Settled
        (fun files =>
          checkPath directory = .ok () ∧
            Holds changeable origin
              ((toolchain.binaryLocation place kernel,
                .node (some (.file binary false))) ::
                toolchain.writtenFacts place kernel source)
              files)
        (do
          toolchain.finalize kernel directory
          toolchain.keepReport kernel directory)
        [toolchain.dumpLocation place, toolchain.keptLocation place kernel]
        fun path files =>
          path = toolchain.config.reportPath directory kernel ∧
            Holds changeable origin
              (toolchain.builtFacts place kernel source binary report)
              files := by
  by_cases ordinary : IsOrdinary toolchain.config.reportName
  · cases usable : slot directory place toolchain.config.reportName with
    | error failure =>
        refine ⟨ByteArray.empty, Settled.of_fact fun _ => ?_⟩
        exact Settled.bind_of_failing
          (Settled.bind_of_failing (clearStale_settled_of_slot_error _
            prepared.reaches ordinary usable))
    | ok location =>
        have isEntry := slot_eq_ok usable
        subst isEntry
        obtain ⟨report, finalized⟩ := @produce_settled _ toolchain _ _ _ _ _ _
          _ _ kernel _ _ prepared.reaches ordinary steady
          (fun fine program => prepared.translates.finalizer place program
            (prepared.reaches.directoryAt_of_checkPath fine))
          prepared.dump_allowed
          (fun fact member => (prepared.compiled_apart binary fact member).1)
          (Or.inr ⟨false, List.mem_cons_self⟩)
        refine ⟨report, Settled.bind (finalized.weaken (fun _ => And.right)
          (by simp [dumpLocation]) (fun _ _ => And.right)) ?_⟩
        intro _
        have dumpKept : toolchain.config.reportName ≠
            toolchain.config.keptName kernel :=
          (prepared.keepsApart.dump_ne kernel List.mem_cons_self).2.2
        refine Settled.bind (renameFile_settled prepared.reaches ordinary
          prepared.kept_ordinary usable dumpKept prepared.dump_allowed
          prepared.kept_allowed (prepared.compiled_apart binary)) ?_
        intro _
        exact (Settled.log _).bind fun _ => Settled.pure _
  · refine ⟨ByteArray.empty, Settled.of_fact fun fine => ?_⟩
    exact Settled.bind_of_failing
      (Settled.bind_of_failing (clearStale_settled_of_not_isOrdinary _
        prepared.reaches (text_ne_of_checkPath fine)
        prepared.keepsApart.dump_single ordinary))

/-- Building a kernel is settled once its source is written. -/
theorem isaReport_settled
    (prepared : toolchain.Prepared changeable origin directory place kernel)
    (compilerSteady : toolchain.IsSteady changeable origin directory
      toolchain.config.compiler)
    (finalizerSteady : toolchain.IsSteady changeable origin directory
      toolchain.config.finalizer)
    (source : ByteArray) :
    ∃ binary report,
      Settled
        (Holds changeable origin (toolchain.writtenFacts place kernel source))
        (toolchain.isaReport kernel directory)
        (toolchain.ownLocations place kernel)
        fun path files =>
          path = toolchain.config.reportPath directory kernel ∧
            Holds changeable origin
              (toolchain.builtFacts place kernel source binary report)
              files := by
  obtain ⟨binary, compiled⟩ := prepared.compile_settled compilerSteady source
  obtain ⟨report, finished⟩ :=
    prepared.finish_settled finalizerSteady source binary
  refine ⟨binary, report, Settled.bind
    (compiled.weaken (fun _ => id) ?_ (fun _ _ => id))
    fun _ => finished.weaken (fun _ => id) ?_ (fun _ _ => id)⟩
  · intro location member
    rw [List.mem_singleton.mp member]
    exact mem_ownLocations.mpr (Or.inr (Or.inl rfl))
  · intro location member
    simp only [List.mem_cons, List.not_mem_nil, or_false] at member
    exact mem_ownLocations.mpr (Or.inr (Or.inr member))

/-- A kernel is not built by a compiler that was not found at the origin. -/
theorem isaReport_ne_ok_of_compiler
    (prepared : toolchain.Prepared changeable origin directory place kernel)
    (missing : ∀ program,
      toolchain.machine.program origin place toolchain.config.compiler ≠
        .ok program)
    {world : World Memory}
    (holds : Holds changeable origin
      (toolchain.writtenFacts place kernel source) world.files)
    (report : Path) :
    (toolchain.isaReport kernel directory world).outcome ≠ .ok report := by
  intro built
  obtain ⟨_, _, compiled, -⟩ := isaReport_eq_ok built
  exact produce_ne_ok prepared.reaches prepared.binary_ordinary missing
    prepared.binary_allowed prepared.written_apart holds () compiled

/-- A kernel is not built by a finalizer that was not found at the origin. -/
theorem isaReport_ne_ok_of_finalizer
    (prepared : toolchain.Prepared changeable origin directory place kernel)
    (steady : toolchain.IsSteady changeable origin directory
      toolchain.config.compiler)
    (missing : ∀ program,
      toolchain.machine.program origin place toolchain.config.finalizer ≠
        .ok program)
    {world : World Memory}
    (holds : Holds changeable origin
      (toolchain.writtenFacts place kernel source) world.files)
    (report : Path) :
    (toolchain.isaReport kernel directory world).outcome ≠ .ok report := by
  obtain ⟨binary, compiled⟩ := prepared.compile_settled steady source
  refine compiled.bind_ne_ok ?_ holds report
  rintro _ compiledWorld ⟨fine, holdsCompiled⟩ _ finished
  obtain ⟨_, finalized, -, -⟩ := Action.bind_eq_ok finished
  by_cases ordinary : IsOrdinary toolchain.config.reportName
  · exact produce_ne_ok prepared.reaches ordinary missing
      prepared.dump_allowed
      (fun fact member => (prepared.compiled_apart binary fact member).1)
      holdsCompiled () finalized
  · obtain ⟨_, cleared, -, -⟩ := Action.bind_eq_ok finalized
    have reaches :=
      holdsCompiled.reworked.sameDirectories.reaches prepared.reaches
    exact ordinary (isOrdinary_of_clearStale reaches
      (text_ne_of_checkPath fine) prepared.keepsApart.dump_single cleared)

end Prepared

/-- The stem of the name of a file is the kernel. -/
theorem stem_fileName
    {extension : String}
    (noDot : '.' ∉ extension.toList)
    (kernel : String) :
    Script.stem (ToolchainConfig.fileName kernel extension) = kernel := by
  have dropped : ('.' :: kernel.toList.reverse) =
      (ToolchainConfig.fileName kernel extension).toList.reverse.dropWhile
        (· ≠ '.') := by
    rw [ToolchainConfig.toList_fileName, List.reverse_append,
      List.reverse_cons, List.append_assoc, List.dropWhile_append_of_pos]
    · simp
    · intro c member
      have notDot : c ≠ '.' := by
        rintro rfl
        exact noDot (List.mem_reverse.mp member)
      simpa using notDot
  unfold Script.stem
  rw [← dropped]
  simp

/-- A compiler that copies makes the binary of the kernel that it is given. -/
theorem copying_translates_compile
    {extension : String}
    (noDot : '.' ∉ extension.toList)
    (program place : Location)
    (kernel : String) :
    (Machine.copying [⟨"/bin"⟩] : Machine Memory).Translates
      ⟨program, ["-hsail", ToolchainConfig.fileName kernel extension], place⟩
      (place ++ [ToolchainConfig.fileName kernel extension])
      (place ++ [ToolchainConfig.fileName kernel "brig"]) := by
  have stem : Script.stem (ToolchainConfig.fileName kernel extension) =
      kernel :=
    stem_fileName noDot kernel
  have output : Machine.copyName
      ⟨program, ["-hsail", ToolchainConfig.fileName kernel extension], place⟩ =
        ToolchainConfig.fileName kernel "brig" :=
    congrArg (ToolchainConfig.fileName · "brig") stem
  rw [← output]
  exact Machine.copying_translates [⟨"/bin"⟩] _

/-- Tools that copy translate every kernel. -/
theorem translatesKernel_copyingTools
    (compiler finalizer : Path)
    (files : FileSystem)
    (directory : Path)
    (kernel : String) :
    (copyingTools compiler finalizer : HsailToolchain Memory).TranslatesKernel
      files directory kernel where
  compiler := by
    intro place program _ _
    have noDot : '.' ∉ "cl".toList := by
      decide
    exact copying_translates_compile noDot program place kernel
  finalizer := by
    intro place program _ _
    exact Machine.copying_translates [⟨"/bin"⟩]
      ⟨program, [ToolchainConfig.fileName kernel "brig"], place⟩

/-- What is no program is not run by a tool. -/
theorem not_isExecutable
    {files : FileSystem}
    {location : Location}
    (noProgram : IsPlain (files.find? location)) :
    ¬ toolchain.IsExecutable files directory location := by
  rintro ⟨place, -, found | found⟩
  · obtain ⟨contents, isProgram⟩ := Machine.find?_of_program found
    exact noProgram.ne_program contents isProgram
  · obtain ⟨contents, isProgram⟩ := Machine.find?_of_program found
    exact noProgram.ne_program contents isProgram

/-- Tools that copy are well-behaved where no kernel has a program of its own. -/
theorem isWellBehaved_copyingTools
    {compiler finalizer : Path}
    {files : FileSystem}
    {directory : Path}
    {place : Location}
    {kernels : List String}
    (isPlace : files.directoryAt [] directory = .ok place)
    (plain : ∀ kernel ∈ kernels,
      ∀ location ∈ (copyingTools compiler finalizer :
          HsailToolchain Memory).ownLocations place kernel,
        IsPlain (files.find? location)) :
    (copyingTools compiler finalizer : HsailToolchain Memory).IsWellBehaved
      files directory kernels where
  translates := fun kernel _ =>
    translatesKernel_copyingTools compiler finalizer files directory kernel
  executables_apart := by
    intro other resolved kernel member location own
    cases isPlace.symm.trans resolved
    exact not_isExecutable (plain kernel member location own)

end IsaUsage.HsailToolchain
