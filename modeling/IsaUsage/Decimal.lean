namespace IsaUsage.Decimal

/-!
# Decimal numerals

Natural numbers are written with the ASCII digits, without leading zeros, and
read from any run of digits. Reading what was written gives the number back
(`read_write`), so numerals are unambiguous (`write_injective`).
-/

/-- The ASCII decimal digits. -/
def isDigit (c : Char) : Bool :=
  '0' ≤ c && c ≤ '9'

/-- The digit for a number below ten. -/
def digit (n : Nat) : Char :=
  Char.ofNat ('0'.toNat + n)

/-- The number that a digit stands for. -/
def digitValue (c : Char) : Nat :=
  c.toNat - '0'.toNat

/-- The numeral of a number. -/
def write (n : Nat) : List Char :=
  if n < 10 then
    [digit n]
  else
    write (n / 10) ++ [digit (n % 10)]

/-- The number that a run of digits stands for; an empty run stands for 0. -/
def read (digits : List Char) : Nat :=
  digits.foldl (fun total c => total * 10 + digitValue c) 0

/-- The numeral of a number, as a string. -/
def text (n : Nat) : String :=
  String.ofList (write n)

/-- A digit stands for the number it was chosen for. -/
theorem digitValue_digit :
    ∀ n < 10, digitValue (digit n) = n := by
  decide

/-- Digits are written as digits. -/
theorem isDigit_digit :
    ∀ n < 10, isDigit (digit n) = true := by
  decide

/-- A run of digits grows by one digit at its end. -/
theorem read_append_singleton
    (digits : List Char)
    (c : Char) :
    read (digits ++ [c]) = read digits * 10 + digitValue c := by
  simp [read]

/-- Reading a numeral gives the number back. -/
theorem read_write (n : Nat) : read (write n) = n := by
  induction n using Nat.strongRecOn with
  | ind n inductionHypothesis =>
      unfold write
      split
      · next small =>
          simp [read, digitValue_digit n small]
      · next large =>
          rw [read_append_singleton,
            inductionHypothesis (n / 10) (by omega),
            digitValue_digit (n % 10) (by omega)]
          omega

/-- Two numbers with one numeral are equal. -/
theorem write_injective
    {m n : Nat}
    (same : write m = write n) :
    m = n := by
  rw [← read_write m, same, read_write]

/-- A numeral holds nothing but digits. -/
theorem isDigit_of_mem_write
    {n : Nat}
    {c : Char}
    (member : c ∈ write n) :
    isDigit c = true := by
  induction n using Nat.strongRecOn with
  | ind n inductionHypothesis =>
      unfold write at member
      split at member
      · next small =>
          simp only [List.mem_singleton] at member
          subst member
          exact isDigit_digit n small
      · next large =>
          simp only [List.mem_append, List.mem_singleton] at member
          rcases member with earlier | last
          · exact inductionHypothesis (n / 10) (by omega) earlier
          · subst last
            exact isDigit_digit (n % 10) (by omega)

/-- Every number has a numeral. -/
theorem write_ne_nil (n : Nat) : write n ≠ [] := by
  unfold write
  split <;> simp

/-- Only the numeral of zero starts with a zero. -/
theorem head?_write_ne_zero
    {n : Nat}
    (positive : 0 < n) :
    (write n).head? ≠ some '0' := by
  induction n using Nat.strongRecOn with
  | ind n inductionHypothesis =>
      unfold write
      split
      · next small =>
          have digits : ∀ n < 10, 0 < n → digit n ≠ '0' := by
            decide
          simpa using digits n small positive
      · next large =>
          have earlier := inductionHypothesis (n / 10) (by omega) (by omega)
          obtain ⟨first, others, shape⟩ :=
            List.exists_cons_of_ne_nil (write_ne_nil (n / 10))
          rw [shape] at earlier ⊢
          simpa using earlier

/-- A zero that starts a numeral is all of it. -/
theorem write_ne_zero_cons
    (n : Nat)
    (c : Char)
    (digits : List Char) :
    write n ≠ '0' :: c :: digits := by
  intro shape
  cases n with
  | zero =>
      simp [write] at shape
  | succ n =>
      exact head?_write_ne_zero (Nat.succ_pos n) (by rw [shape]; rfl)

end IsaUsage.Decimal
