namespace IsaUsage.Text

/-!
# Hexadecimal digits
-/

/-- The value of a hexadecimal digit. -/
def hexDigit? (c : Char) : Option Nat :=
  if '0' ≤ c ∧ c ≤ '9' then some (c.toNat - '0'.toNat)
  else if 'a' ≤ c ∧ c ≤ 'f' then some (c.toNat - 'a'.toNat + 10)
  else if 'A' ≤ c ∧ c ≤ 'F' then some (c.toNat - 'A'.toNat + 10)
  else none

/-- A hexadecimal digit stands for one of sixteen numbers. -/
theorem lt_of_hexDigit?
    {c : Char}
    {value : Nat}
    (digit : hexDigit? c = some value) :
    value < 16 := by
  have bounds (first last : Char) (low : first ≤ c) (high : c ≤ last) :
      first.toNat ≤ c.toNat ∧ c.toNat ≤ last.toNat :=
    ⟨low, high⟩
  unfold hexDigit? at digit
  split at digit
  · rename_i range
    have := bounds '0' '9' range.1 range.2
    have first : '0'.toNat = 48 := rfl
    have last : '9'.toNat = 57 := rfl
    simp only [Option.some.injEq] at digit
    omega
  · split at digit
    · rename_i range
      have := bounds 'a' 'f' range.1 range.2
      have first : 'a'.toNat = 97 := rfl
      have last : 'f'.toNat = 102 := rfl
      simp only [Option.some.injEq] at digit
      omega
    · split at digit
      · rename_i range
        have := bounds 'A' 'F' range.1 range.2
        have first : 'A'.toNat = 65 := rfl
        have last : 'F'.toNat = 70 := rfl
        simp only [Option.some.injEq] at digit
        omega
      · simp at digit

end IsaUsage.Text
