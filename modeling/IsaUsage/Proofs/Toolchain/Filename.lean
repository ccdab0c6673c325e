import IsaUsage.Proofs.File.Confinement
import IsaUsage.Proofs.Kernel.Division
import IsaUsage.Proofs.Toolchain.Naming
import IsaUsage.Proofs.Toolchain.Start
import IsaUsage.Text.Blank
import Mathlib.Data.List.Nodup

namespace IsaUsage

/-!
# Kernels as names of files

The names that a document declares can be used in paths and arguments as they are.
With any extension they stand for an entry of the output directory, tools do not take
them for options, and no two files of a run have one name
(`Document.split_namesFilesSafely`).
-/

open FileSystem

/-! ## Characters of names -/

namespace Text

/-- The code points of the blank characters. -/
def blankPoints : List Nat :=
  List.range' 0x9 5 ++ [0x20, 0x85, 0xA0, 0x1680] ++ List.range' 0x2000 11 ++
    [0x2028, 0x2029, 0x202F, 0x205F, 0x3000]

theorem mem_blankPoints
    {c : Char}
    (blank : isBlank c = true) :
    c.toNat ∈ blankPoints := by
  simp only [isBlank, Bool.or_eq_true, Bool.and_eq_true, decide_eq_true_eq,
    beq_iff_eq] at blank
  simp only [blankPoints, List.mem_append, List.mem_range'_1, List.mem_cons,
    List.not_mem_nil, or_false]
  omega

/-- No blank character can stand in a name. -/
theorem isBlank_eq_false_of_isWord
    {c : Char}
    (word : isWord c = true) :
    isBlank c = false := by
  have apart : ∀ point ∈ blankPoints, isWord (Char.ofNat point) = false := by
    decide +kernel
  cases blank : isBlank c with
  | false =>
      rfl
  | true =>
      have noWord := apart c.toNat (mem_blankPoints blank)
      rw [Char.ofNat_toNat, word] at noWord
      cases noWord

end Text

/-- A name that holds nothing with a meaning in a path or an argument. -/
structure IsHarmless (name : String) : Prop where
  named : name ≠ ""
  no_slash : '/' ∉ name.toList
  no_dot : '.' ∉ name.toList
  no_hyphen : '-' ∉ name.toList
  no_nul : '\x00' ∉ name.toList
  no_blank : ∀ c ∈ name.toList, Text.isBlank c = false

theorem isHarmless_of_isName
    {name : String}
    (isName : Declaration.IsName name.toList) :
    IsHarmless name := by
  obtain ⟨nonempty, words⟩ := isName
  have notMem {c : Char} (noWord : Text.isWord c = false) :
      c ∉ name.toList := by
    intro member
    rw [words c member] at noWord
    contradiction
  constructor
  · rintro rfl
    exact nonempty rfl
  · exact notMem (by decide)
  · exact notMem (by decide)
  · exact notMem (by decide)
  · exact notMem (by decide)
  · exact fun c member => Text.isBlank_eq_false_of_isWord (words c member)

/-! ## Entries of a directory -/

/-- A path that leads to the entry of an ordinary name in a directory. -/
structure IsEntryPath (directory path : Path) (name : String) : Prop where
  ordinary : IsOrdinary name
  relative : Path.isAbsolute ⟨name⟩ = false
  steps_eq : path.steps = directory.steps ++ [name]
  isAbsolute_eq : path.isAbsolute = directory.isAbsolute
  /-- Wherever the path leads, it is to the entry of the name in the directory. -/
  inside :
    ∀ (files : FileSystem) (base location : Location),
      files.locate base path = .ok location →
        ∃ place,
          files.Reaches base directory place ∧ location = place ++ [name]

theorem isEntryPath_join
    {name : String}
    (ordinary : IsOrdinary name)
    (directory : Path) :
    IsEntryPath directory (directory.join ⟨name⟩) name where
  ordinary := ordinary
  relative := Path.isAbsolute_of_isSingle ordinary.single
  steps_eq := Path.steps_join ordinary.single ordinary.named
  isAbsolute_eq :=
    Path.isAbsolute_join (Path.isAbsolute_of_isSingle ordinary.single)
  inside := by
    intro files base location located
    obtain ⟨place, reaches⟩ := reaches_of_locate_join ordinary located
    rw [reaches.locate_join ordinary] at located
    exact ⟨place, reaches, slot_eq_ok located⟩

/-- Of paths into one directory, only those with the same name are equal. -/
theorem name_eq_of_movingSteps_eq
    {directory : Path}
    {name other : String}
    (ordinary : IsOrdinary name)
    (otherOrdinary : IsOrdinary other)
    (same : (directory.join ⟨name⟩).movingSteps =
      (directory.join ⟨other⟩).movingSteps) :
    name = other := by
  simpa [Path.movingSteps, Path.steps_join ordinary.single ordinary.named,
    Path.steps_join otherOrdinary.single otherOrdinary.named,
    ordinary.notHere, otherOrdinary.notHere] using same

namespace ToolchainConfig

/-- A file of a kernel tells the kernel and the extension. -/
theorem eq_of_fileName_eq
    {kernel other extension otherExtension : String}
    (isName : Declaration.IsName kernel.toList)
    (otherIsName : Declaration.IsName other.toList)
    (same : fileName kernel extension = fileName other otherExtension) :
    kernel = other ∧ extension = otherExtension := by
  have sameKernel := kernel_eq_of_fileName_eq isName otherIsName same
  subst other
  refine ⟨rfl, ?_⟩
  by_contra different
  exact fileName_ne different kernel same

/-- The usual names keep the files of any kernels apart. -/
theorem keepsApart_default
    {kernels : List String}
    (names : ∀ kernel ∈ kernels, Declaration.IsName kernel.toList) :
    ({} : ToolchainConfig).KeepsApart kernels where
  source_single := by decide
  binary_single := by decide
  report_single := by decide
  dump_single := by decide
  source_ne_binary := by decide
  source_ne_report := by decide
  binary_ne_report := by decide
  dump_ne := by
    intro kernel member
    have letters : "isa".toList.all Char.isAlphanum = true := by
      decide
    have dumpIsName : Declaration.IsName "isa".toList :=
      ⟨by decide, fun c member => Text.isWord_of_isAlphanum
        (List.all_eq_true.mp letters c member)⟩
    have apart {extension : String} (different : "txt" ≠ extension) :
        fileName "isa" "txt" ≠ fileName kernel extension := by
      intro same
      exact different (eq_of_fileName_eq dumpIsName (names kernel member) same).2
    exact ⟨apart (by decide), apart (by decide), apart (by decide)⟩

/-- The names of all files that building some kernels makes. -/
def allNames (config : ToolchainConfig) (kernels : List String) :
    List String :=
  config.reportName ::
    kernels.flatMap fun kernel =>
      [config.sourceName kernel, config.binaryName kernel,
        config.keptName kernel]

theorem KeepsApart.nodup_allNames
    {config : ToolchainConfig}
    {kernels : List String}
    (keepsApart : config.KeepsApart kernels)
    (names : ∀ kernel ∈ kernels, Declaration.IsName kernel.toList)
    (nodup : kernels.Nodup) :
    (config.allNames kernels).Nodup := by
  refine List.nodup_cons.mpr ⟨?_, List.nodup_flatMap.mpr ⟨?_, ?_⟩⟩
  · intro isDump
    obtain ⟨kernel, member, isDump⟩ := List.mem_flatMap.mp isDump
    obtain ⟨notSource, notBinary, notKept⟩ := keepsApart.dump_ne kernel member
    simp [notSource, notBinary, notKept] at isDump
  · intro kernel member
    have own := keepsApart.nodup_ownNames member
    refine own.sublist ?_
    simp [ownNames]
  · refine nodup.imp_of_mem ?_
    intro kernel other member otherMember different name ofKernel ofOther
    have isFile {owner : String}
        (isOwn : name ∈ [config.sourceName owner, config.binaryName owner,
          config.keptName owner]) :
        ∃ extension, name = fileName owner extension := by
      simp only [List.mem_cons, List.not_mem_nil, or_false] at isOwn
      rcases isOwn with rfl | rfl | rfl <;> exact ⟨_, rfl⟩
    obtain ⟨extension, rfl⟩ := isFile ofKernel
    obtain ⟨otherExtension, same⟩ := isFile ofOther
    exact different (kernel_eq_of_fileName_eq (names kernel member)
      (names other otherMember) same)

end ToolchainConfig

/-! ## Arguments of tools -/

/-- The tools are handed the source and the binary of a kernel, and nothing else. -/
theorem HsailToolchain.arguments_of_reportRuns
    {toolchain : HsailToolchain Memory}
    {kernel : String}
    {directory : Path}
    {world : World Memory}
    {run : ToolRun}
    (recorded : run ∈ toolchain.reportRuns kernel directory world) :
    run.invocation.arguments = toolchain.config.compilerArguments kernel ∨
      run.invocation.arguments =
        toolchain.config.finalizerArguments kernel := by
  have started := toolchain.isaReport_starts kernel directory world
  generalize toolchain.reportRuns kernel directory world = runs
    at recorded started
  cases started with
  | neither =>
      contradiction
  | compiler starts =>
      rw [List.mem_singleton.mp recorded]
      exact Or.inl starts.runs.arguments_eq
  | both compiles starts =>
      rcases List.mem_pair.mp recorded with rfl | rfl
      · exact Or.inl compiles.runs.arguments_eq
      · exact Or.inr starts.runs.arguments_eq

/-- The name of a kernel's file is not taken for an option. -/
theorem IsHarmless.head?_fileName
    {kernel : String}
    (harmless : IsHarmless kernel)
    (extension : String) :
    (ToolchainConfig.fileName kernel extension).toList.head? ≠ some '-' := by
  obtain ⟨first, rest, shape⟩ : ∃ first rest, kernel.toList = first :: rest := by
    apply List.exists_cons_of_ne_nil
    simpa using harmless.named
  rw [ToolchainConfig.toList_fileName, shape]
  intro starts
  cases starts
  exact harmless.no_hyphen (by simp [shape])

/-! ## Names of a document -/

/-- The names that a document declares are safe to be used for files. -/
structure Document.NamesFilesSafely (document : Document) : Prop where
  harmless : ∀ name ∈ document.names, IsHarmless name
  /-- The files of a kernel are directly in the output directory. -/
  inside :
    ∀ (config : ToolchainConfig) (directory : Path),
      (∀ extension ∈ [config.sourceExtension, config.binaryExtension,
          config.reportExtension],
        Path.IsSingle extension) →
        ∀ kernel ∈ document.names,
          IsEntryPath directory (config.sourcePath directory kernel)
              (config.sourceName kernel) ∧
            IsEntryPath directory (config.binaryPath directory kernel)
              (config.binaryName kernel) ∧
            IsEntryPath directory (config.reportPath directory kernel)
              (config.keptName kernel)
  /-- No tool that a build starts can take the file that it is handed for an option. -/
  arguments :
    ∀ {Memory : Type} (toolchain : HsailToolchain Memory) (directory : Path)
        (world : World Memory),
      ∀ kernel ∈ document.names,
        ∀ run ∈ toolchain.reportRuns kernel directory world,
          ∃ file,
            file.toList.head? ≠ some '-' ∧
              (run.invocation.arguments =
                  [toolchain.config.compilerFlag, file] ∨
                run.invocation.arguments = [file])
  /-- Files whose paths are equal, step by step, are of one kernel and one kind. -/
  injective :
    ∀ directory : Path,
      ∀ kernel ∈ document.names, ∀ other ∈ document.names,
        ∀ extension otherExtension,
          Path.IsSingle extension → Path.IsSingle otherExtension →
            (directory.join
                  ⟨ToolchainConfig.fileName kernel extension⟩).movingSteps =
                (directory.join
                  ⟨ToolchainConfig.fileName other otherExtension⟩).movingSteps →
              kernel = other ∧ extension = otherExtension
  /-- With the usual configuration no two files of a run are the same. -/
  apart :
    ∀ (directory : Path) (kernels : List String),
      kernels ⊆ document.names →
        kernels.Nodup →
          (({} : ToolchainConfig).dumpPath directory ::
            kernels.flatMap fun kernel =>
              [({} : ToolchainConfig).sourcePath directory kernel,
                ({} : ToolchainConfig).binaryPath directory kernel,
                ({} : ToolchainConfig).reportPath directory kernel]).Pairwise
            fun path other =>
              path.movingSteps ≠ other.movingSteps ∧
                ∀ files base, LeadApart files base path other

/-- Files with different ordinary names in one directory are different files. -/
theorem pairwise_join
    {names : List String}
    (nodup : names.Nodup)
    (ordinary : ∀ name ∈ names, IsOrdinary name)
    (directory : Path) :
    (names.map fun name => directory.join ⟨name⟩).Pairwise fun path other =>
      path.movingSteps ≠ other.movingSteps ∧
        ∀ files base, LeadApart files base path other := by
  refine List.pairwise_map.mpr (nodup.imp_of_mem ?_)
  intro name other member otherMember different
  refine ⟨fun same => different ?_, fun files base => ?_⟩
  · exact name_eq_of_movingSteps_eq (ordinary name member)
      (ordinary other otherMember) same
  · exact leadApart_join (ordinary name member) (ordinary other otherMember)
      different

/-- Every text divides into kernels whose names are safe to be used for files. -/
theorem Document.split_namesFilesSafely (source : String) :
    (Document.split source).NamesFilesSafely := by
  have names (kernel : String) :=
    @Document.isName_of_mem_names source kernel
  constructor
  · exact fun name member => isHarmless_of_isName (names name member)
  · intro config directory single kernel member
    have inside {extension : String} (isExtension : extension ∈ _) :=
      isEntryPath_join (ToolchainConfig.isOrdinary_fileName (names kernel member)
        (single extension isExtension)) directory
    exact ⟨inside (by simp), inside (by simp), inside (by simp)⟩
  · intro Memory toolchain directory world kernel member run recorded
    have notOption := (isHarmless_of_isName (names kernel member)).head?_fileName
    rcases HsailToolchain.arguments_of_reportRuns recorded with
      compiling | finalizing
    · exact ⟨_, notOption _, Or.inl compiling⟩
    · exact ⟨_, notOption _, Or.inr finalizing⟩
  · intro directory kernel member other otherMember extension otherExtension
      single otherSingle same
    exact ToolchainConfig.eq_of_fileName_eq (names kernel member)
      (names other otherMember)
      (name_eq_of_movingSteps_eq
        (ToolchainConfig.isOrdinary_fileName (names kernel member) single)
        (ToolchainConfig.isOrdinary_fileName (names other otherMember)
          otherSingle)
        same)
  · intro directory kernels listed nodup
    have theirNames : ∀ kernel ∈ kernels,
        Declaration.IsName kernel.toList :=
      fun kernel member => names kernel (listed member)
    have keepsApart := ToolchainConfig.keepsApart_default theirNames
    have ordinary : ∀ name ∈ ({} : ToolchainConfig).allNames kernels,
        IsOrdinary name := by
      intro name member
      rcases List.mem_cons.mp member with rfl | ofKernel
      · exact ⟨by decide, by decide, by decide, by decide⟩
      · obtain ⟨kernel, isKernel, own⟩ := List.mem_flatMap.mp ofKernel
        refine keepsApart.isOrdinary_of_mem_ownNames (theirNames kernel isKernel)
          ⟨by decide, by decide, by decide, by decide⟩ ?_
        simp only [List.mem_cons, List.not_mem_nil, or_false] at own
        simp only [ToolchainConfig.ownNames, List.mem_cons, List.not_mem_nil,
          or_false]
        tauto
    have apart := pairwise_join (keepsApart.nodup_allNames theirNames nodup)
      ordinary directory
    rw [ToolchainConfig.allNames, List.map_cons, List.map_flatMap] at apart
    exact apart

end IsaUsage
