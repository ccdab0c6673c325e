import IsaUsage.File.Path
import IsaUsage.Kernel.Division

namespace IsaUsage

/-!
# Names of tools and files

A configuration says which tools build a kernel and how the files are called
that belong to one: every kernel has a source, a binary and a report, told
apart by their extensions.
-/

/-- The tools and the naming of files. -/
structure ToolchainConfig where
  compiler : Path := ⟨"cloc.sh"⟩
  compilerFlag : String := "-hsail"
  finalizer : Path := ⟨"finalizer_dumper"⟩
  sourceExtension : String := "cl"
  binaryExtension : String := "brig"
  reportName : String := "isa.txt"
  reportExtension : String := "isa"
  deriving DecidableEq

namespace ToolchainConfig

/-- The name of a kernel's file with a given extension. -/
def fileName (kernel extension : String) : String :=
  kernel ++ "." ++ extension

/-- The name of a kernel's source. -/
def sourceName (config : ToolchainConfig) (kernel : String) : String :=
  fileName kernel config.sourceExtension

/-- The name of a kernel's binary. -/
def binaryName (config : ToolchainConfig) (kernel : String) : String :=
  fileName kernel config.binaryExtension

/-- A kernel's source in a directory. -/
def sourcePath
    (config : ToolchainConfig)
    (directory : Path)
    (kernel : String) :
    Path :=
  directory.join ⟨config.sourceName kernel⟩

/-- A kernel's binary in a directory. -/
def binaryPath
    (config : ToolchainConfig)
    (directory : Path)
    (kernel : String) :
    Path :=
  directory.join ⟨config.binaryName kernel⟩

/-- A kernel's report in a directory. -/
def reportPath
    (config : ToolchainConfig)
    (directory : Path)
    (kernel : String) :
    Path :=
  directory.join ⟨fileName kernel config.reportExtension⟩

/-- Where the finalizer leaves its report, whatever the kernel. -/
def dumpPath (config : ToolchainConfig) (directory : Path) : Path :=
  directory.join ⟨config.reportName⟩

/-- The arguments of the compiler for a kernel. -/
def compilerArguments
    (config : ToolchainConfig)
    (kernel : String) :
    List String :=
  [config.compilerFlag, config.sourceName kernel]

/-- The arguments of the finalizer for a kernel. -/
def finalizerArguments
    (config : ToolchainConfig)
    (kernel : String) :
    List String :=
  [config.binaryName kernel]

/-- The command that compiles a kernel, as it is shown. -/
def compileCommand (config : ToolchainConfig) (kernel : String) : String :=
  config.compiler.text ++ " " ++ config.compilerFlag ++ " " ++
    config.sourceName kernel

end ToolchainConfig

/-- The paths that a run over a source can change. -/
def generatedPaths
    (config : ToolchainConfig)
    (directory : Path)
    (source : String) :
    List Path :=
  config.dumpPath directory ::
    (Document.split source).names.flatMap fun kernel =>
      [config.sourcePath directory kernel, config.binaryPath directory kernel,
        config.reportPath directory kernel]

end IsaUsage
