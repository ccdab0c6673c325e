import IsaUsage.Proofs.Usage.Total
import Mathlib.Algebra.BigOperators.Group.List.Basic
import Mathlib.Algebra.GroupWithZero.Nat

namespace IsaUsage

/-!
# Exact sums

Counts and usage records are commutative monoids. A count that stays at its limit
absorbs whatever comes after it, so limiting every partial sum is the same as
limiting the exact sum once (`Count.toNat_sum`). In whatever order and with whatever
partial sums records are added up, each field of the total is therefore the exact
sum of that field, or the limit (`UsageRecord.addsUp_iff`).
-/

namespace Count

theorem add_comm (left right : Count) : left + right = right + left := by
  apply Count.ext
  simp only [toNat_add, Nat.add_comm]

instance : AddCommMonoid Count where
  add_assoc := add_assoc
  zero_add count := (add_comm 0 count).trans (add_zero count)
  add_zero := add_zero
  add_comm := add_comm
  nsmul := nsmulRec

/-- Limiting every partial sum is limiting the exact sum once. -/
theorem toNat_sum (counts : List Count) :
    counts.sum.toNat = min (counts.map Count.toNat).sum limit := by
  induction counts with
  | nil =>
      exact (Nat.min_eq_left (Nat.zero_le limit)).symm
  | cons count counts inductionHypothesis =>
      rw [List.sum_cons, toNat_add, inductionHypothesis, List.map_cons,
        List.sum_cons]
      omega

end Count

namespace UsageRecord

theorem add_comm (left right : UsageRecord) : left + right = right + left :=
  ext (Count.add_comm _ _) (Count.add_comm _ _) (Count.add_comm _ _)

instance : AddCommMonoid UsageRecord where
  add_assoc := add_assoc
  zero_add usage := (add_comm 0 usage).trans (add_zero usage)
  add_zero := add_zero
  add_comm := add_comm
  nsmul := nsmulRec

/-- Adding up from the left is the sum of the monoid. -/
theorem sum_eq (records : List UsageRecord) : sum records = records.sum :=
  List.sum_eq_foldl.symm

theorem sum_cons (record : UsageRecord) (records : List UsageRecord) :
    sum (record :: records) = record + sum records := by
  rw [sum_eq, List.sum_cons, sum_eq]

/-- The sum of records put together is that of their sums. -/
theorem sum_append (left right : List UsageRecord) :
    sum (left ++ right) = sum left + sum right := by
  rw [sum_eq, List.sum_append, sum_eq, sum_eq]

/-- Records are summed up in any order. -/
theorem sum_perm
    {left right : List UsageRecord}
    (sameRecords : left.Perm right) :
    sum left = sum right := by
  rw [sum_eq, sameRecords.sum_eq, sum_eq]

/-- Partial sums add up to the sum of all records. -/
theorem sum_flatten (groups : List (List UsageRecord)) :
    sum groups.flatten = sum (groups.map sum) := by
  induction groups with
  | nil =>
      rfl
  | cons group groups inductionHypothesis =>
      rw [List.flatten_cons, sum_append, inductionHypothesis, List.map_cons,
        sum_cons]

/-- A field of a sum is the exact sum of that field, up to the limit. -/
theorem toNat_field_sum
    {field : UsageRecord → Count}
    (ofZero : field 0 = 0)
    (ofAdd : ∀ left right, field (left + right) = field left + field right)
    (records : List UsageRecord) :
    (field (sum records)).toNat =
      min (records.map fun record => (field record).toNat).sum
        Count.limit := by
  have additive : field (sum records) = (records.map field).sum := by
    induction records with
    | nil =>
        exact ofZero
    | cons record records inductionHypothesis =>
        rw [sum_cons, ofAdd, inductionHypothesis, List.map_cons, List.sum_cons]
  rw [additive, Count.toNat_sum, List.map_map]
  rfl

/-- A total holds in each field the exact sum of that field, or the limit. -/
structure IsTotalOf (total : UsageRecord) (records : List UsageRecord) :
    Prop where
  vectorRegisters :
    total.vectorRegisters.toNat =
      min (records.map fun record => record.vectorRegisters.toNat).sum
        (2 ^ 64 - 1)
  scalarRegisters :
    total.scalarRegisters.toNat =
      min (records.map fun record => record.scalarRegisters.toNat).sum
        (2 ^ 64 - 1)
  instructions :
    total.instructions.toNat =
      min (records.map fun record => record.instructions.toNat).sum
        (2 ^ 64 - 1)

/-- A sum is the total of its records, field by field. -/
theorem isTotalOf_sum (records : List UsageRecord) :
    (sum records).IsTotalOf records where
  vectorRegisters :=
    toNat_field_sum vectorRegisters_zero vectorRegisters_add records
  scalarRegisters :=
    toNat_field_sum scalarRegisters_zero scalarRegisters_add records
  instructions := toNat_field_sum instructions_zero instructions_add records

/-- Records have one total only. -/
theorem IsTotalOf.unique
    {left right : UsageRecord}
    {records : List UsageRecord}
    (isLeft : left.IsTotalOf records)
    (isRight : right.IsTotalOf records) :
    left = right :=
  ext
    (Count.ext (isLeft.vectorRegisters.trans isRight.vectorRegisters.symm))
    (Count.ext (isLeft.scalarRegisters.trans isRight.scalarRegisters.symm))
    (Count.ext (isLeft.instructions.trans isRight.instructions.symm))

/-- Records that are added up in some order, by way of some partial sums. -/
inductive AddsUp : List UsageRecord → UsageRecord → Prop where
  | nothing : AddsUp [] 0
  | single (record : UsageRecord) : AddsUp [record] record
  | join {left right : List UsageRecord} {leftTotal rightTotal : UsageRecord} :
      AddsUp left leftTotal → AddsUp right rightTotal →
        AddsUp (left ++ right) (leftTotal + rightTotal)
  | reorder {records other : List UsageRecord} {total : UsageRecord} :
      AddsUp records total → records.Perm other → AddsUp other total

/-- A sum is reached by every way of adding. -/
theorem addsUp_sum (records : List UsageRecord) :
    AddsUp records (sum records) := by
  induction records with
  | nil =>
      exact .nothing
  | cons record records inductionHypothesis =>
      rw [sum_cons]
      exact .join (.single record) inductionHypothesis

/-- However records are added up, they come to their sum. -/
theorem AddsUp.eq_sum
    {records : List UsageRecord}
    {total : UsageRecord}
    (added : AddsUp records total) :
    total = sum records := by
  induction added with
  | nothing =>
      rfl
  | single record =>
      exact (zero_add record).symm
  | join _ _ leftHypothesis rightHypothesis =>
      rw [sum_append, leftHypothesis, rightHypothesis]
  | reorder _ sameRecords inductionHypothesis =>
      rw [inductionHypothesis, sum_perm sameRecords]

/-- However records are added up, each field comes to its exact sum, or the limit. -/
theorem addsUp_iff {records : List UsageRecord} {total : UsageRecord} :
    AddsUp records total ↔ total.IsTotalOf records := by
  constructor
  · intro added
    rw [added.eq_sum]
    exact isTotalOf_sum records
  · intro isTotal
    rw [isTotal.unique (isTotalOf_sum records)]
    exact addsUp_sum records

end UsageRecord
end IsaUsage
