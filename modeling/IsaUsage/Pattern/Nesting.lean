namespace IsaUsage.Pattern

/-!
# How deeply a pattern is nested

A single character is not nested at all. A group, brackets or a repetition is
nested one deeper than what is in it, and so are several parts side by side,
alternatives, and the two sides of an operator.
-/

/-- How deeply parts that belong together are nested; one part stands alone. -/
def depthOf : List Nat → Nat
  | [] => 0
  | [depth] => depth
  | depths => depths.foldl max 0 + 1

/-- What was read between two brackets or at the outermost level. -/
structure Row where
  /-- The depths of the parts side by side, the latest first. -/
  parts : List Nat
  /-- The depths of what stands before the last bar or operator. -/
  earlier : List Nat
  deriving DecidableEq

namespace Row

/-- Nothing was read. -/
def empty : Row := ⟨[], []⟩

/-- How deeply what was read is nested. -/
def depth (row : Row) : Nat :=
  depthOf (depthOf row.parts :: row.earlier)

/-- One more part. -/
def push (row : Row) (depth : Nat) : Row :=
  ⟨depth :: row.parts, row.earlier⟩

/-- The last part is repeated. -/
def repeatLast (row : Row) : Row :=
  match row.parts with
  | [] => row
  | depth :: parts => ⟨(depth + 1) :: parts, row.earlier⟩

/-- A bar: what follows is one more alternative. -/
def alternate (row : Row) : Row :=
  ⟨[], depthOf row.parts :: row.earlier⟩

/-- An operator: what was read is its left side. -/
def operate (row : Row) : Row :=
  ⟨[], [row.depth]⟩

end Row
end IsaUsage.Pattern
