import IsaUsage.Proofs.File.Join
import IsaUsage.Proofs.Kernel.Declaration
import IsaUsage.Toolchain.Config

namespace IsaUsage.ToolchainConfig

/-!
# Names of files that belong to a kernel

The files of a kernel are entries of one directory, and a configuration that
keeps them apart gives every one of them a name of its own.
-/

/-- The name of a kernel's report. -/
def keptName (config : ToolchainConfig) (kernel : String) : String :=
  fileName kernel config.reportExtension

/-- The names of the files that building a kernel can write. -/
def ownNames (config : ToolchainConfig) (kernel : String) : List String :=
  [config.sourceName kernel, config.binaryName kernel, config.reportName,
    config.keptName kernel]

/-- No file of a kernel is called like another one of the same kernel. -/
structure KeepsApart (config : ToolchainConfig) (kernels : List String) :
    Prop where
  source_single : Path.IsSingle config.sourceExtension
  binary_single : Path.IsSingle config.binaryExtension
  report_single : Path.IsSingle config.reportExtension
  dump_single : Path.IsSingle config.reportName
  source_ne_binary : config.sourceExtension ≠ config.binaryExtension
  source_ne_report : config.sourceExtension ≠ config.reportExtension
  binary_ne_report : config.binaryExtension ≠ config.reportExtension
  /-- The fixed name is none of the names that are made of kernels. -/
  dump_ne :
    ∀ kernel ∈ kernels,
      config.reportName ≠ config.sourceName kernel ∧
        config.reportName ≠ config.binaryName kernel ∧
        config.reportName ≠ config.keptName kernel

instance (config : ToolchainConfig) (kernels : List String) :
    Decidable (config.KeepsApart kernels) :=
  decidable_of_iff
    ((Path.IsSingle config.sourceExtension ∧
        Path.IsSingle config.binaryExtension ∧
        Path.IsSingle config.reportExtension ∧
        Path.IsSingle config.reportName) ∧
      (config.sourceExtension ≠ config.binaryExtension ∧
        config.sourceExtension ≠ config.reportExtension ∧
        config.binaryExtension ≠ config.reportExtension) ∧
      ∀ kernel ∈ kernels,
        config.reportName ≠ config.sourceName kernel ∧
          config.reportName ≠ config.binaryName kernel ∧
          config.reportName ≠ config.keptName kernel)
    ⟨fun ⟨⟨source, binary, report, dump⟩, ⟨first, second, third⟩, apart⟩ =>
        ⟨source, binary, report, dump, first, second, third, apart⟩,
      fun apart =>
        ⟨⟨apart.source_single, apart.binary_single, apart.report_single,
            apart.dump_single⟩,
          ⟨apart.source_ne_binary, apart.source_ne_report,
            apart.binary_ne_report⟩,
          apart.dump_ne⟩⟩

theorem KeepsApart.of_mem
    {config : ToolchainConfig}
    {kernels : List String}
    {kernel : String}
    (keepsApart : config.KeepsApart kernels)
    (member : kernel ∈ kernels) :
    config.KeepsApart [kernel] :=
  { keepsApart with
    dump_ne := by
      intro other isKernel
      rw [List.mem_singleton.mp isKernel]
      exact keepsApart.dump_ne kernel member }

theorem KeepsApart.isSingle_of_mem
    {config : ToolchainConfig}
    {kernels : List String}
    {extension : String}
    (keepsApart : config.KeepsApart kernels)
    (isExtension : extension ∈
      [config.sourceExtension, config.binaryExtension,
        config.reportExtension]) :
    Path.IsSingle extension := by
  simp only [List.mem_cons, List.not_mem_nil, or_false] at isExtension
  rcases isExtension with rfl | rfl | rfl
  · exact keepsApart.source_single
  · exact keepsApart.binary_single
  · exact keepsApart.report_single

theorem toList_fileName (kernel extension : String) :
    (fileName kernel extension).toList =
      kernel.toList ++ '.' :: extension.toList := by
  simp [fileName]

/-- The name of a source tells which kernel it is of. -/
theorem sourceName_injective (config : ToolchainConfig) :
    Function.Injective config.sourceName := by
  intro kernel other same
  have sameText := congrArg String.toList same
  rw [sourceName, sourceName, toList_fileName, toList_fileName] at sameText
  exact String.toList_injective (List.append_cancel_right sameText)

/-- The arguments of the compiler tell which kernel it compiles. -/
theorem compilerArguments_injective (config : ToolchainConfig) :
    Function.Injective config.compilerArguments := by
  intro kernel other same
  apply config.sourceName_injective
  simpa [compilerArguments] using same

/-- A kernel's name with an extension is an ordinary name of a file. -/
theorem isOrdinary_fileName
    {kernel extension : String}
    (isName : Declaration.IsName kernel.toList)
    (single : Path.IsSingle extension) :
    FileSystem.IsOrdinary (fileName kernel extension) := by
  rcases isName with ⟨nonempty, words⟩
  obtain ⟨first, rest, shape⟩ := List.exists_cons_of_ne_nil nonempty
  have firstWord : Text.isWord first = true := by
    apply words
    rw [shape]
    exact List.mem_cons_self
  have notDot : first ≠ '.' := by
    rintro rfl
    exact absurd firstWord (by decide)
  have startsWithFirst {text : String}
      (same : fileName kernel extension = text) :
      text.toList.head? = some first := by
    rw [← same, toList_fileName, shape]
    rfl
  refine ⟨?_, ?_, ?_, ?_⟩
  · intro slash
    rw [toList_fileName, List.mem_append, List.mem_cons] at slash
    rcases slash with inKernel | isDot | inExtension
    · exact absurd (words _ inKernel) (by decide)
    · exact absurd isDot (by decide)
    · exact single inExtension
  · intro same
    have starts := startsWithFirst same
    simp at starts
  · intro same
    have starts := startsWithFirst same
    simp [notDot.symm] at starts
  · intro same
    have starts := startsWithFirst same
    simp [notDot.symm] at starts

theorem fileName_ne
    {extension other : String}
    (different : extension ≠ other)
    (kernel : String) :
    fileName kernel extension ≠ fileName kernel other := by
  intro same
  have sameText := congrArg String.toList same
  rw [toList_fileName, toList_fileName] at sameText
  have sameRest := List.append_cancel_left sameText
  simp only [List.cons.injEq, true_and] at sameRest
  exact different (String.toList_injective sameRest)

/-- Names have no dots, so the file of a kernel tells which kernel it is of. -/
theorem kernel_eq_of_fileName_eq
    {kernel other extension otherExtension : String}
    (isName : Declaration.IsName kernel.toList)
    (otherIsName : Declaration.IsName other.toList)
    (same : fileName kernel extension = fileName other otherExtension) :
    kernel = other := by
  have stem {name : String}
      (words : ∀ c ∈ name.toList, Text.isWord c = true)
      (extension : String) :
      (fileName name extension).toList.takeWhile (· ≠ '.') = name.toList := by
    rw [toList_fileName, List.takeWhile_append_of_pos]
    · simp
    · intro c member
      have notDot : c ≠ '.' := by
        rintro rfl
        exact absurd (words _ member) (by decide)
      simpa using notDot
  apply String.toList_injective
  rw [← stem isName.2 extension, same, stem otherIsName.2]

/-- The files of a kernel have four different names. -/
theorem KeepsApart.nodup_ownNames
    {config : ToolchainConfig}
    {kernels : List String}
    {kernel : String}
    (keepsApart : config.KeepsApart kernels)
    (member : kernel ∈ kernels) :
    (config.ownNames kernel).Nodup := by
  obtain ⟨notSource, notBinary, notKept⟩ := keepsApart.dump_ne kernel member
  have sourceBinary : config.sourceName kernel ≠ config.binaryName kernel :=
    fileName_ne keepsApart.source_ne_binary kernel
  have sourceKept : config.sourceName kernel ≠ config.keptName kernel :=
    fileName_ne keepsApart.source_ne_report kernel
  have binaryKept : config.binaryName kernel ≠ config.keptName kernel :=
    fileName_ne keepsApart.binary_ne_report kernel
  simp [ownNames, sourceBinary, sourceKept, binaryKept, notSource.symm,
    notBinary.symm, notKept]

/-- The files of a kernel have ordinary names if the fixed name is one. -/
theorem KeepsApart.isOrdinary_of_mem_ownNames
    {config : ToolchainConfig}
    {kernels : List String}
    {kernel name : String}
    (keepsApart : config.KeepsApart kernels)
    (isName : Declaration.IsName kernel.toList)
    (dumpOrdinary : FileSystem.IsOrdinary config.reportName)
    (own : name ∈ config.ownNames kernel) :
    FileSystem.IsOrdinary name := by
  simp only [ownNames, List.mem_cons, List.not_mem_nil, or_false] at own
  rcases own with rfl | rfl | rfl | rfl
  · exact isOrdinary_fileName isName keepsApart.source_single
  · exact isOrdinary_fileName isName keepsApart.binary_single
  · exact dumpOrdinary
  · exact isOrdinary_fileName isName keepsApart.report_single

/-- No file of a kernel has a slash in its name. -/
theorem KeepsApart.isSingle_of_mem_ownNames
    {config : ToolchainConfig}
    {kernels : List String}
    {kernel name : String}
    (keepsApart : config.KeepsApart kernels)
    (isName : Declaration.IsName kernel.toList)
    (own : name ∈ config.ownNames kernel) :
    Path.IsSingle name := by
  simp only [ownNames, List.mem_cons, List.not_mem_nil, or_false] at own
  rcases own with rfl | rfl | rfl | rfl
  · exact (isOrdinary_fileName isName keepsApart.source_single).single
  · exact (isOrdinary_fileName isName keepsApart.binary_single).single
  · exact keepsApart.dump_single
  · exact (isOrdinary_fileName isName keepsApart.report_single).single

/-- A file of one kernel is not called like any file of another kernel. -/
theorem KeepsApart.not_mem_ownNames
    {config : ToolchainConfig}
    {kernels : List String}
    {kernel other extension : String}
    (keepsApart : config.KeepsApart kernels)
    (member : kernel ∈ kernels)
    (isName : Declaration.IsName kernel.toList)
    (otherIsName : Declaration.IsName other.toList)
    (different : kernel ≠ other)
    (isExtension : extension ∈
      [config.sourceExtension, config.binaryExtension,
        config.reportExtension]) :
    fileName kernel extension ∉ config.ownNames other := by
  have notDump : config.reportName ≠ fileName kernel extension := by
    obtain ⟨notSource, notBinary, notKept⟩ := keepsApart.dump_ne kernel member
    simp only [List.mem_cons, List.not_mem_nil, or_false] at isExtension
    rcases isExtension with rfl | rfl | rfl
    · exact notSource
    · exact notBinary
    · exact notKept
  have apart (otherExtension : String) :
      fileName kernel extension ≠ fileName other otherExtension :=
    fun same => different (kernel_eq_of_fileName_eq isName otherIsName same)
  simp only [ownNames, List.mem_cons, List.not_mem_nil, or_false, not_or]
  exact ⟨apart _, apart _, notDump.symm, apart _⟩

end IsaUsage.ToolchainConfig
