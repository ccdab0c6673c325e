import IsaUsage.Text.Literal
import IsaUsage.Usage

namespace IsaUsage

/-!
# The text report

The report shows, for every kernel, its name, the command that compiled it and
three lines of usage, and after all kernels three lines of totals. On a terminal
the name stands out in bold cyan.
-/

namespace Highlight

/-- What turns the highlighting on. -/
def onCode : String := "\x1b[1;36m"

/-- What turns any highlighting off. -/
def offCode : String := "\x1b[0m"

/--
A highlighted text. Where the text itself turns highlighting off, it is turned
on again.
-/
def apply (text : String) : String :=
  onCode ++ Text.replace offCode (offCode ++ onCode) text ++ offCode

end Highlight

namespace UsageRecord

/-- The lines that show the registers of a report. -/
def registerLines (usage : UsageRecord) : String :=
  "vector register: " ++ usage.vectorRegisters.text ++
    "\nscalar register: " ++ usage.scalarRegisters.text ++ "\n"

/-- The line that shows the instructions of a report. -/
def instructionLine (usage : UsageRecord) : String :=
  "Num of instructions: " ++ usage.instructions.text ++ "\n"

/-- The lines that show totals. -/
def totalLines (totals : UsageRecord) : String :=
  "vector register total: " ++ totals.vectorRegisters.text ++
    "\nscalar register total: " ++ totals.scalarRegisters.text ++
    "\nnumber instructions total: " ++ totals.instructions.text ++ "\n"

end UsageRecord

/-- The lines that show one kernel. -/
def KernelUsage.lines (kernel : KernelUsage) (colored : Bool) : String :=
  (if colored then Highlight.apply kernel.kernel else kernel.kernel) ++ "\n" ++
    kernel.command ++ "\n" ++ kernel.usage.registerLines ++
    kernel.usage.instructionLine

/-- The whole report of a summary. -/
def Summary.report (summary : Summary) (colored : Bool) : String :=
  String.join (summary.kernels.map fun kernel => kernel.lines colored) ++
    summary.totals.totalLines

end IsaUsage
