import IsaUsage.Proofs.Text.Segment
import IsaUsage.Proofs.Usage.Total
import IsaUsage.Summary.Text

namespace IsaUsage

/-!
# What the text report tells

The report of a summary is made of lines: five for every kernel, and three for the
totals. Their number tells how many kernels there are, and with that every line is
known for what it is, whatever it is spelled like (`Summary.reportLines_injective`).
As long as no name and no command goes on over the end of a line, the text of a
report tells its lines, so that different summaries have different reports
(`Summary.report_eq_report_iff`).
-/

/-- Different counts are written differently. -/
theorem Count.text_injective : Function.Injective Count.text := by
  intro left right same
  exact Count.ext (Decimal.write_injective (String.ofList_injective same))

/-- A written count stays on its line. -/
theorem Count.newline_not_mem_text (count : Count) :
    '\n' ∉ count.text.toList := by
  intro member
  rw [text, Decimal.text, String.toList_ofList] at member
  exact absurd (Decimal.isDigit_of_mem_write member) (by decide)

/-- A count with a label in front, as one line. -/
def Count.labelled (label : String) (count : Count) : String :=
  label ++ count.text

/-- Under one label, different counts are written differently. -/
@[simp] theorem Count.labelled_inj {label : String} {left right : Count} :
    left.labelled label = right.labelled label ↔ left = right := by
  rw [labelled, labelled, String.append_right_inj, text_injective.eq_iff]

/-- A count stays on its line if its label does. -/
theorem Count.newline_not_mem_labelled
    {label : String}
    (noFeed : '\n' ∉ label.toList)
    (count : Count) :
    '\n' ∉ (count.labelled label).toList := by
  simp [labelled, noFeed, newline_not_mem_text]

namespace UsageRecord

/-- The lines that show totals. -/
def totalReportLines (totals : UsageRecord) : List String :=
  [totals.vectorRegisters.labelled "vector register total: ",
    totals.scalarRegisters.labelled "scalar register total: ",
    totals.instructions.labelled "number instructions total: "]

/-- The totals are printed line by line. -/
theorem totalLines_eq (totals : UsageRecord) :
    totals.totalLines = Text.unlines totals.totalReportLines := by
  -- This holds of any labels, and what they are spelled like would be in the way.
  have joined {first second third secondFed thirdFed : String}
      (isSecond : secondFed = "\n" ++ second)
      (isThird : thirdFed = "\n" ++ third)
      (vector scalar count : String) :
      first ++ vector ++ secondFed ++ scalar ++ thirdFed ++ count ++ "\n" =
        Text.unlines [first ++ vector, second ++ scalar, third ++ count] := by
    subst isSecond isThird
    simp [Text.unlines, String.append_assoc]
  exact joined (by decide +kernel) (by decide +kernel) _ _ _

/-- Different totals are printed on different lines. -/
theorem totalReportLines_injective : Function.Injective totalReportLines := by
  intro left right same
  simp only [totalReportLines, List.cons.injEq, Count.labelled_inj,
    and_true] at same
  exact UsageRecord.ext same.1 same.2.1 same.2.2

/-- No line of the totals holds a line feed. -/
theorem newline_not_mem_totalReportLines (totals : UsageRecord) :
    ∀ line ∈ totals.totalReportLines, '\n' ∉ line.toList := by
  simp only [totalReportLines, List.forall_mem_cons]
  refine ⟨?_, ?_, ?_, by simp⟩ <;>
    exact Count.newline_not_mem_labelled (by decide) _

end UsageRecord

namespace KernelUsage

/-- The lines that show one kernel without highlighting. -/
def reportLines (kernel : KernelUsage) : List String :=
  [kernel.kernel, kernel.command,
    kernel.usage.vectorRegisters.labelled "vector register: ",
    kernel.usage.scalarRegisters.labelled "scalar register: ",
    kernel.usage.instructions.labelled "Num of instructions: "]

/-- The name of a kernel and its command are one line each. -/
structure IsSingleLined (kernel : KernelUsage) : Prop where
  kernel_line : '\n' ∉ kernel.kernel.toList
  command_line : '\n' ∉ kernel.command.toList

instance (kernel : KernelUsage) : Decidable kernel.IsSingleLined :=
  decidable_of_iff
    ('\n' ∉ kernel.kernel.toList ∧ '\n' ∉ kernel.command.toList)
    ⟨fun ⟨kernel, command⟩ => ⟨kernel, command⟩,
      fun single => ⟨single.kernel_line, single.command_line⟩⟩

/-- A kernel is printed line by line. -/
theorem lines_eq (kernel : KernelUsage) :
    kernel.lines false = Text.unlines kernel.reportLines := by
  have joined {first second third secondFed : String}
      (isSecond : secondFed = "\n" ++ second)
      (name command vector scalar count : String) :
      name ++ "\n" ++ command ++ "\n" ++
          (first ++ vector ++ secondFed ++ scalar ++ "\n") ++
          (third ++ count ++ "\n") =
        Text.unlines
          [name, command, first ++ vector, second ++ scalar, third ++ count] := by
    subst isSecond
    simp [Text.unlines, String.append_assoc]
  exact joined (by decide +kernel) _ _ _ _ _

/-- Different kernels are printed on different lines. -/
theorem reportLines_injective : Function.Injective reportLines := by
  intro left right same
  simp only [reportLines, List.cons.injEq, Count.labelled_inj,
    and_true] at same
  obtain ⟨sameKernel, sameCommand, sameVector, sameScalar, sameCount⟩ := same
  cases left
  cases right
  simp only [mk.injEq]
  exact ⟨sameKernel, sameCommand,
    UsageRecord.ext sameVector sameScalar sameCount⟩

/-- No line of a kernel with a name of one line holds a line feed. -/
theorem IsSingleLined.newline_not_mem
    {kernel : KernelUsage}
    (single : kernel.IsSingleLined) :
    ∀ line ∈ kernel.reportLines, '\n' ∉ line.toList := by
  simp only [reportLines, List.forall_mem_cons]
  refine ⟨single.kernel_line, single.command_line, ?_, ?_, ?_, by simp⟩ <;>
    exact Count.newline_not_mem_labelled (by decide) _

/-- Every kernel has five lines, so as many lines are those of as many kernels. -/
theorem eq_of_flatMap_reportLines_eq
    {first second : List KernelUsage}
    (sameLength : first.length = second.length)
    (same : first.flatMap reportLines = second.flatMap reportLines) :
    first = second := by
  induction first generalizing second with
  | nil =>
      exact (List.length_eq_zero_iff.mp sameLength.symm).symm
  | cons kernel first inductionHypothesis =>
      cases second with
      | nil =>
          contradiction
      | cons other second =>
          obtain ⟨sameLines, sameRest⟩ := List.append_inj same rfl
          rw [reportLines_injective sameLines,
            inductionHypothesis (Nat.succ.inj sameLength) sameRest]

end KernelUsage

namespace Summary

/-- The lines of the report without highlighting. -/
def reportLines (summary : Summary) : List String :=
  summary.kernels.flatMap KernelUsage.reportLines ++
    summary.totals.totalReportLines

/-- A summary is printed line by line. -/
theorem report_eq (summary : Summary) :
    summary.report false = Text.unlines summary.reportLines := by
  have kernels (kernels : List KernelUsage) :
      String.join (kernels.map fun kernel => kernel.lines false) =
        Text.unlines (kernels.flatMap KernelUsage.reportLines) := by
    induction kernels with
    | nil =>
        rfl
    | cons kernel kernels inductionHypothesis =>
        rw [List.map_cons, String.join_cons, inductionHypothesis,
          KernelUsage.lines_eq, ← Text.unlines_append]
        rfl
  rw [report, kernels, UsageRecord.totalLines_eq, ← Text.unlines_append]
  rfl

/-- Every kernel takes five lines and the totals take three. -/
theorem length_reportLines (summary : Summary) :
    summary.reportLines.length = 5 * summary.kernels.length + 3 := by
  have five (kernel : KernelUsage) : kernel.reportLines.length = 5 := rfl
  have three : summary.totals.totalReportLines.length = 3 := rfl
  simp [reportLines, List.length_flatMap, five, three, List.map_const',
    Nat.mul_comm]

/-- The lines of a report tell the kernels and the totals, however they look. -/
theorem reportLines_injective : Function.Injective reportLines := by
  intro first second same
  have sameLength : first.kernels.length = second.kernels.length := by
    have lengths := congrArg List.length same
    rw [length_reportLines, length_reportLines] at lengths
    omega
  -- The totals are the last three lines on either side.
  obtain ⟨sameKernels, sameTotals⟩ := List.append_inj' same rfl
  exact Summary.ext
    (KernelUsage.eq_of_flatMap_reportLines_eq sameLength sameKernels)
    (UsageRecord.totalReportLines_injective sameTotals)

/-- No line of a report holds a line feed if no name does. -/
theorem newline_not_mem_reportLines
    {summary : Summary}
    (single : ∀ kernel ∈ summary.kernels, kernel.IsSingleLined) :
    ∀ line ∈ summary.reportLines, '\n' ∉ line.toList := by
  intro line member
  rcases List.mem_append.mp member with ofKernels | ofTotals
  · obtain ⟨kernel, isKernel, isLine⟩ := List.mem_flatMap.mp ofKernels
    exact (single kernel isKernel).newline_not_mem line isLine
  · exact UsageRecord.newline_not_mem_totalReportLines _ line ofTotals

/-- No two summaries whose names and commands are single lines look the same. -/
theorem report_eq_report_iff
    {first second : Summary}
    (firstSingle : ∀ kernel ∈ first.kernels, kernel.IsSingleLined)
    (secondSingle : ∀ kernel ∈ second.kernels, kernel.IsSingleLined) :
    first.report false = second.report false ↔ first = second := by
  constructor
  · intro same
    rw [report_eq, report_eq] at same
    exact reportLines_injective <| Text.eq_of_unlines_eq
      (newline_not_mem_reportLines firstSingle)
      (newline_not_mem_reportLines secondSingle) same
  · rintro rfl
    rfl

/-- Two kernels, of which lines are spelled like other lines of a report. -/
def imitation (command name : String) : Summary where
  kernels :=
    [⟨"Num of instructions: 7", command, ⟨0, 0, Count.saturate Count.limit⟩⟩,
      ⟨name, "vector register: 0", 0⟩]
  totals := 0

/-- Two kernels that differ in a name only, whose names imitate totals. -/
theorem report_eq_report_iff_imitation :
    (∀ kernel ∈
        (imitation "scalar register: 0" "vector register total: 0").kernels,
      kernel.IsSingleLined) ∧
    (∀ kernel ∈
        (imitation "vector register total: 0" "scalar register: 0").kernels,
      kernel.IsSingleLined) ∧
    (imitation "scalar register: 0" "vector register total: 0").report false ≠
      (imitation "vector register total: 0" "scalar register: 0").report
        false := by
  have firstSingle : ∀ kernel ∈
      (imitation "scalar register: 0" "vector register total: 0").kernels,
      kernel.IsSingleLined := by
    decide +kernel
  have secondSingle : ∀ kernel ∈
      (imitation "vector register total: 0" "scalar register: 0").kernels,
      kernel.IsSingleLined := by
    decide +kernel
  refine ⟨firstSingle, secondSingle, ?_⟩
  intro same
  have sameSummary := (report_eq_report_iff firstSingle secondSingle).mp same
  exact absurd sameSummary (by decide +kernel)

/-- A name of several lines can pass for another kernel before its own. -/
example :
    (⟨[⟨"a", "cc", 0⟩, ⟨"b", "cc", 0⟩], 0⟩ : Summary).report false =
      (⟨[⟨"a\ncc\n" ++ UsageRecord.registerLines 0 ++
          UsageRecord.instructionLine 0 ++ "b", "cc", 0⟩], 0⟩ :
        Summary).report false := by
  decide +kernel

end Summary
end IsaUsage
