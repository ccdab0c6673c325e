import IsaUsage.Decimal

namespace IsaUsage

/-!
# Saturating counts

A count is a number of at most 64 bits. Arithmetic on counts is exact up to the
largest one and stays there beyond it (`toNat_add`).
-/

/-- The largest number of 64 bits, which is the largest a count can hold. -/
def Count.limit : Nat := 18446744073709551615

/-- A number from 0 up to and including `Count.limit`. -/
structure Count where
  toNat : Nat
  le_limit : toNat ≤ Count.limit
  deriving DecidableEq

namespace Count

/-- The count nearest to a number: the number itself, or the largest count. -/
def saturate (n : Nat) : Count where
  toNat := min n limit
  le_limit := Nat.min_le_right n limit

/-- The count equal to a number, if there is one. -/
def ofNat? (n : Nat) : Option Count :=
  if small : n ≤ limit then some ⟨n, small⟩ else none

instance : Zero Count := ⟨⟨0, Nat.zero_le limit⟩⟩

instance : Inhabited Count := ⟨0⟩

instance : Add Count := ⟨fun left right => saturate (left.toNat + right.toNat)⟩

instance : Max Count :=
  ⟨fun left right => if left.toNat ≤ right.toNat then right else left⟩

/-- The numeral of a count. -/
def text (count : Count) : String :=
  Decimal.text count.toNat

/-- Counts are equal when their numbers are. -/
@[ext] theorem ext
    {left right : Count}
    (same : left.toNat = right.toNat) :
    left = right := by
  cases left
  cases right
  simpa using same

@[simp] theorem toNat_zero : (0 : Count).toNat = 0 :=
  rfl

@[simp] theorem toNat_saturate (n : Nat) :
    (saturate n).toNat = min n limit :=
  rfl

/-- Adding counts is adding numbers, up to the limit. -/
@[simp] theorem toNat_add (left right : Count) :
    (left + right).toNat = min (left.toNat + right.toNat) limit :=
  rfl

/-- The larger of two counts has the larger number. -/
@[simp] theorem toNat_max (left right : Count) :
    (max left right).toNat = max left.toNat right.toNat := by
  show (if left.toNat ≤ right.toNat then right else left).toNat = _
  split <;> omega

/-- A count is the saturation of its own number. -/
theorem saturate_toNat (count : Count) : saturate count.toNat = count :=
  Count.ext (Nat.min_eq_left count.le_limit)

end Count
end IsaUsage
