import IsaUsage.Count

namespace IsaUsage

/-!
# Usage of one kernel and of many

A usage record says how far into each register file a kernel reaches and how
many instructions it has. Records add field by field, each field saturating on
its own, and a summary holds the records of all kernels beside their sum.
-/

/-- Registers and instructions used by one kernel, or summed over kernels. -/
structure UsageRecord where
  vectorRegisters : Count
  scalarRegisters : Count
  instructions : Count
  deriving DecidableEq, Inhabited

namespace UsageRecord

instance : Zero UsageRecord := ⟨⟨0, 0, 0⟩⟩

instance : Add UsageRecord where
  add left right := {
    vectorRegisters := left.vectorRegisters + right.vectorRegisters
    scalarRegisters := left.scalarRegisters + right.scalarRegisters
    instructions := left.instructions + right.instructions
  }

/-- The records of a list added up from the left, starting at zero. -/
def sum (records : List UsageRecord) : UsageRecord :=
  records.foldl (· + ·) 0

@[simp] theorem vectorRegisters_zero :
    (0 : UsageRecord).vectorRegisters = 0 :=
  rfl

@[simp] theorem scalarRegisters_zero :
    (0 : UsageRecord).scalarRegisters = 0 :=
  rfl

@[simp] theorem instructions_zero : (0 : UsageRecord).instructions = 0 :=
  rfl

@[simp] theorem vectorRegisters_add (left right : UsageRecord) :
    (left + right).vectorRegisters =
      left.vectorRegisters + right.vectorRegisters :=
  rfl

@[simp] theorem scalarRegisters_add (left right : UsageRecord) :
    (left + right).scalarRegisters =
      left.scalarRegisters + right.scalarRegisters :=
  rfl

@[simp] theorem instructions_add (left right : UsageRecord) :
    (left + right).instructions = left.instructions + right.instructions :=
  rfl

/-- The record as the log shows it. -/
def debugText (usage : UsageRecord) : String :=
  "UsageRecord \x7b vector_registers: " ++ usage.vectorRegisters.text ++
    ", scalar_registers: " ++ usage.scalarRegisters.text ++
    ", instructions: " ++ usage.instructions.text ++ " \x7d"

end UsageRecord

/-- The usage of one kernel and the command that compiled it. -/
structure KernelUsage where
  kernel : String
  command : String
  usage : UsageRecord
  deriving DecidableEq

/-- The kernels of one document in order, and their total usage. -/
structure Summary where
  kernels : List KernelUsage
  totals : UsageRecord
  deriving DecidableEq

namespace Summary

/-- The summary of no kernels. -/
def empty : Summary where
  kernels := []
  totals := 0

/-- A summary with one more kernel at its end. -/
def push (summary : Summary) (kernel : KernelUsage) : Summary where
  kernels := summary.kernels ++ [kernel]
  totals := summary.totals + kernel.usage

/-- The summary of a list of kernels. -/
def ofKernels (kernels : List KernelUsage) : Summary where
  kernels := kernels
  totals := UsageRecord.sum (kernels.map KernelUsage.usage)

end Summary
end IsaUsage
