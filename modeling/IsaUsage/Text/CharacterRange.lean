namespace IsaUsage.Text

/-!
# Characters listed by ranges

A property of characters that a standard gives as data is written as a list of
closed ranges of code points. `inRanges` decides membership, and
`inRanges_eq_true_iff` says what it decides.
-/

/-- Whether the code point of `c` lies in one of the closed ranges. -/
def inRanges (ranges : List (Nat × Nat)) (c : Char) : Bool :=
  ranges.any fun range => range.1 ≤ c.toNat && c.toNat ≤ range.2

/-- Membership names one range that holds the code point. -/
theorem inRanges_eq_true_iff
    {ranges : List (Nat × Nat)}
    {c : Char} :
    inRanges ranges c = true ↔
      ∃ range ∈ ranges, range.1 ≤ c.toNat ∧ c.toNat ≤ range.2 := by
  simp [inRanges]

end IsaUsage.Text
