import IsaUsage.Json.Reader
import IsaUsage.Json.Writer
import IsaUsage.Report.Register
import IsaUsage.Toolchain.Config
import IsaUsage.Usage

namespace IsaUsage

/-!
# The JSON forms of usage, summaries and configurations

Each type has a value to be written and a format to be read by, with the same
fields in the same order.
-/

open Json (Reader RecordFormat Value Wanted readChoice readCount readList readText)

/-- A record as JSON. -/
def UsageRecord.json (usage : UsageRecord) : Value :=
  .record [
    ("vector_registers", .number usage.vectorRegisters),
    ("scalar_registers", .number usage.scalarRegisters),
    ("instructions", .number usage.instructions)]

/-- How a record is read. -/
def UsageRecord.format : RecordFormat UsageRecord where
  name := "UsageRecord"
  fields := [
    ⟨"vector_registers", readCount.map fun count usage =>
      { usage with vectorRegisters := count }⟩,
    ⟨"scalar_registers", readCount.map fun count usage =>
      { usage with scalarRegisters := count }⟩,
    ⟨"instructions", readCount.map fun count usage =>
      { usage with instructions := count }⟩]
  blank := 0

/-- The usage of a kernel as JSON. -/
def KernelUsage.json (kernel : KernelUsage) : Value :=
  .record [
    ("kernel", .string kernel.kernel),
    ("command", .string kernel.command),
    ("usage", kernel.usage.json)]

/-- How the usage of a kernel is read. -/
def KernelUsage.format : RecordFormat KernelUsage where
  name := "KernelUsage"
  fields := [
    ⟨"kernel", (readText .string).map fun text kernel =>
      { kernel with kernel := text }⟩,
    ⟨"command", (readText .string).map fun text kernel =>
      { kernel with command := text }⟩,
    ⟨"usage", UsageRecord.format.read.map fun usage kernel =>
      { kernel with usage := usage }⟩]
  blank := ⟨"", "", 0⟩

/-- A summary as JSON. -/
def Summary.json (summary : Summary) : Value :=
  .record [
    ("kernels", .list (summary.kernels.map KernelUsage.json)),
    ("totals", summary.totals.json)]

/-- How a summary is read. -/
def Summary.format : RecordFormat Summary where
  name := "SplitSummary"
  fields := [
    ⟨"kernels", (readList KernelUsage.format.read).map fun kernels summary =>
      { summary with kernels := kernels }⟩,
    ⟨"totals", UsageRecord.format.read.map fun totals summary =>
      { summary with totals := totals }⟩]
  blank := .empty

/-- The highest indices as JSON. -/
def RegisterUsage.json (usage : RegisterUsage) : Value :=
  .record [("vector", .number usage.vector), ("scalar", .number usage.scalar)]

/-- How the highest indices are read. -/
def RegisterUsage.format : RecordFormat RegisterUsage where
  name := "RegisterUsage"
  fields := [
    ⟨"vector", readCount.map fun count usage =>
      { usage with vector := count }⟩,
    ⟨"scalar", readCount.map fun count usage =>
      { usage with scalar := count }⟩]
  blank := ⟨0, 0⟩

/-- A register class as JSON. -/
def RegisterClass.json (registers : RegisterClass) : Value :=
  .string registers.name

/-- How a register class is read. -/
def RegisterClass.read : Reader RegisterClass :=
  readChoice RegisterClass.ofName?
    [RegisterClass.vector.name, RegisterClass.scalar.name]

/-- A configuration as JSON. -/
def ToolchainConfig.json (config : ToolchainConfig) : Value :=
  .record [
    ("compiler", .string config.compiler.text),
    ("compiler_flag", .string config.compilerFlag),
    ("finalizer", .string config.finalizer.text),
    ("source_extension", .string config.sourceExtension),
    ("binary_extension", .string config.binaryExtension),
    ("report_name", .string config.reportName),
    ("report_extension", .string config.reportExtension)]

/-- How a configuration is read. -/
def ToolchainConfig.format : RecordFormat ToolchainConfig where
  name := "ToolchainConfig"
  fields := [
    ⟨"compiler", (readText .path).map fun text config =>
      { config with compiler := ⟨text⟩ }⟩,
    ⟨"compiler_flag", (readText .string).map fun text config =>
      { config with compilerFlag := text }⟩,
    ⟨"finalizer", (readText .path).map fun text config =>
      { config with finalizer := ⟨text⟩ }⟩,
    ⟨"source_extension", (readText .string).map fun text config =>
      { config with sourceExtension := text }⟩,
    ⟨"binary_extension", (readText .string).map fun text config =>
      { config with binaryExtension := text }⟩,
    ⟨"report_name", (readText .string).map fun text config =>
      { config with reportName := text }⟩,
    ⟨"report_extension", (readText .string).map fun text config =>
      { config with reportExtension := text }⟩]
  blank := {}

end IsaUsage
