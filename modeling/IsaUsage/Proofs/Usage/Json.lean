import IsaUsage.Proofs.Json.Reader
import IsaUsage.Usage.Json

namespace IsaUsage

/-!
# JSON loses nothing

Every usage record, kernel, summary, register class and configuration that is
written as JSON is read back as it was, from one line as well as from several
(`restores_json`).
-/

open Json (Reader Reads Value readAll readAll_of_reads readList
  reads_readChoice reads_readCount reads_readList reads_readText)

/-- A reader gives back whatever is written as JSON, in either layout. -/
def Restores (reader : Reader α) (json : α → Value) : Prop :=
  ∀ value,
    readAll reader (json value).compactText = .ok value ∧
      readAll reader (json value).indentedText = .ok value

/-- A record is read from its own tokens. -/
theorem UsageRecord.reads_json (usage : UsageRecord) :
    Reads UsageRecord.format.read usage.json.tokens usage := by
  refine UsageRecord.format.reads_read (by decide)
    (.set (reads_readCount usage.vectorRegisters)
      (.set (reads_readCount usage.scalarRegisters)
        (.set (reads_readCount usage.instructions) .nil))) ?_
  rfl

/-- The usage of a kernel is read from its own tokens. -/
theorem KernelUsage.reads_json (kernel : KernelUsage) :
    Reads KernelUsage.format.read kernel.json.tokens kernel := by
  refine KernelUsage.format.reads_read (by decide)
    (.set (reads_readText .string kernel.kernel)
      (.set (reads_readText .string kernel.command)
        (.set kernel.usage.reads_json .nil))) ?_
  rfl

/-- A summary is read from its own tokens. -/
theorem Summary.reads_json (summary : Summary) :
    Reads Summary.format.read summary.json.tokens summary := by
  have kernels : Reads (readList KernelUsage.format.read)
      (Value.list (summary.kernels.map KernelUsage.json)).tokens
      summary.kernels := by
    have members :
        ∀ member ∈ summary.kernels.map fun kernel => (kernel.json, kernel),
          Reads KernelUsage.format.read member.1.tokens member.2 := by
      intro member isMember
      obtain ⟨kernel, -, rfl⟩ := List.mem_map.mp isMember
      exact kernel.reads_json
    simpa [Function.comp_def] using reads_readList members
  refine Summary.format.reads_read (by decide)
    (.set kernels (.set summary.totals.reads_json .nil)) ?_
  rfl

/-- The usage of a register class is read from its own tokens. -/
theorem RegisterUsage.reads_json (usage : RegisterUsage) :
    Reads RegisterUsage.format.read usage.json.tokens usage := by
  refine RegisterUsage.format.reads_read (by decide)
    (.set (reads_readCount usage.vector)
      (.set (reads_readCount usage.scalar) .nil)) ?_
  rfl

/-- A register class is read from its own token. -/
theorem RegisterClass.reads_json (registers : RegisterClass) :
    Reads RegisterClass.read registers.json.tokens registers := by
  have named : RegisterClass.ofName? registers.name = some registers := by
    cases registers <;> rfl
  exact reads_readChoice named _

/-- A configuration is read from its own tokens. -/
theorem ToolchainConfig.reads_json (config : ToolchainConfig) :
    Reads ToolchainConfig.format.read config.json.tokens config := by
  refine ToolchainConfig.format.reads_read (by decide)
    (.set (reads_readText .path config.compiler.text)
      (.set (reads_readText .string config.compilerFlag)
        (.set (reads_readText .path config.finalizer.text)
          (.set (reads_readText .string config.sourceExtension)
            (.set (reads_readText .string config.binaryExtension)
              (.set (reads_readText .string config.reportName)
                (.set (reads_readText .string config.reportExtension)
                  .nil))))))) ?_
  rfl

/-- Whatever is written as JSON is read back as it was. -/
theorem restores_json :
    Restores UsageRecord.format.read UsageRecord.json ∧
      Restores KernelUsage.format.read KernelUsage.json ∧
      Restores Summary.format.read Summary.json ∧
      Restores RegisterClass.read RegisterClass.json ∧
      Restores RegisterUsage.format.read RegisterUsage.json ∧
      Restores ToolchainConfig.format.read ToolchainConfig.json :=
  ⟨fun usage => readAll_of_reads usage.reads_json,
    fun kernel => readAll_of_reads kernel.reads_json,
    fun summary => readAll_of_reads summary.reads_json,
    fun registers => readAll_of_reads registers.reads_json,
    fun usage => readAll_of_reads usage.reads_json,
    fun config => readAll_of_reads config.reads_json⟩

end IsaUsage
