import IsaUsage.Report.Instruction
import IsaUsage.Report.Register
import IsaUsage.Text.Line
import IsaUsage.Usage

namespace IsaUsage

/-!
# The usage that a report shows

The usage of a kernel is read off its report line by line: the highest index of
each register class and the number of instruction lines.
-/

/-- The usage that the lines of a report show. -/
def analyzeLines (lines : List String) : UsageRecord :=
  let registers := scanRegisters lines
  {
    vectorRegisters := registers.vector
    scalarRegisters := registers.scalar
    instructions := countInstructions lines
  }

/-- The usage that the text of a report shows. -/
def analyzeText (text : String) : UsageRecord :=
  analyzeLines (Text.lines text)

end IsaUsage
