import IsaUsage.Usage

namespace IsaUsage

/-!
# Adding up usage

Counts that stay at their limit still add up the same in any grouping, and so do
records field by field. Summaries can therefore be joined: the kernels of one
after those of the other, with the sum of both totals.
-/

namespace Count

/-- Saturating at any step makes no difference in the end. -/
theorem add_assoc (first second third : Count) :
    first + second + third = first + (second + third) := by
  apply Count.ext
  simp only [toNat_add]
  omega

theorem add_zero (count : Count) : count + 0 = count := by
  have bounded := count.le_limit
  apply Count.ext
  simp only [toNat_add, toNat_zero]
  omega

end Count

namespace UsageRecord

/-- Records are equal when their fields are. -/
theorem ext
    {left right : UsageRecord}
    (vector : left.vectorRegisters = right.vectorRegisters)
    (scalar : left.scalarRegisters = right.scalarRegisters)
    (instructions : left.instructions = right.instructions) :
    left = right := by
  cases left
  cases right
  simp_all

/-- Records are added in any grouping. -/
theorem add_assoc (first second third : UsageRecord) :
    first + second + third = first + (second + third) :=
  ext (Count.add_assoc _ _ _) (Count.add_assoc _ _ _) (Count.add_assoc _ _ _)

theorem add_zero (usage : UsageRecord) : usage + 0 = usage :=
  ext (Count.add_zero _) (Count.add_zero _) (Count.add_zero _)

end UsageRecord

namespace Summary

/-- Two summaries in one: all kernels in order, and the sum of the totals. -/
instance : Append Summary where
  append left right := {
    kernels := left.kernels ++ right.kernels
    totals := left.totals + right.totals
  }

@[simp] theorem kernels_append (left right : Summary) :
    (left ++ right).kernels = left.kernels ++ right.kernels :=
  rfl

@[simp] theorem totals_append (left right : Summary) :
    (left ++ right).totals = left.totals + right.totals :=
  rfl

/-- Summaries are equal when their kernels and their totals are. -/
theorem ext
    {left right : Summary}
    (kernels : left.kernels = right.kernels)
    (totals : left.totals = right.totals) :
    left = right := by
  cases left
  cases right
  simp_all

/-- Nothing is added by an empty summary. -/
theorem append_empty (summary : Summary) : summary ++ Summary.empty = summary :=
  ext (List.append_nil _) (UsageRecord.add_zero _)

/-- One more kernel goes to the end of the second summary. -/
theorem append_push (left right : Summary) (kernel : KernelUsage) :
    left ++ right.push kernel = (left ++ right).push kernel :=
  ext (List.append_assoc _ _ _).symm (UsageRecord.add_assoc _ _ _).symm

end Summary
end IsaUsage
