import IsaUsage.Text.Quoted

namespace IsaUsage.Text

/-!
# Text on a terminal

What a tool printed can hold characters that steer a terminal instead of being
shown on it. Each of them is written out, so that a log shows what was printed
and the terminal stays as it is (`steersTerminal_of_mem_terminalSafe`).
Tabs and line ends stay.
-/

/-- How a character that steers a terminal is written out. -/
def writtenOut? (c : Char) : Option (List Char) :=
  if c = '\x07' then some ['\\', 'x', '0', '7']
  else if c = '\x08' then some ['\\', 'x', '0', '8']
  else if c = '\x0c' then some ['\\', 'x', '0', 'c']
  else if c = '\x1b' then some ['\\', 'x', '1', 'b']
  else if c = '\x7f' then some ['\\', 'x', '7', 'f']
  else if 0x80 ≤ c.toNat && c.toNat ≤ 0x9F then
    some (['\\', 'u', '\x7b'] ++ hexadecimal c.toNat ++ ['\x7d'])
  else none

/-- Whether a character steers a terminal. -/
def steersTerminal (c : Char) : Bool :=
  (writtenOut? c).isSome

/-- A text in which nothing steers a terminal. -/
def terminalSafe (text : String) : String :=
  String.ofList (text.toList.flatMap fun c => (writtenOut? c).getD [c])

/-- The digits of a written out code point do not steer a terminal. -/
theorem steersTerminal_of_mem_hexadecimal
    {n : Nat}
    (small : 0x80 ≤ n ∧ n ≤ 0x9F) :
    ∀ c ∈ hexadecimal n, steersTerminal c = false := by
  have every : (List.range 32).all (fun offset =>
      (hexadecimal (0x80 + offset)).all fun c => !steersTerminal c) = true := by
    decide
  simp only [List.all_eq_true, List.mem_range, Bool.not_eq_true'] at every
  have here := every (n - 0x80) (by omega)
  rwa [show 0x80 + (n - 0x80) = n by omega] at here

/-- No character of a written out character steers a terminal. -/
theorem steersTerminal_of_mem_writtenOut?
    {c : Char}
    {text : List Char}
    (written : writtenOut? c = some text) :
    ∀ shown ∈ text, steersTerminal shown = false := by
  suffices safe : text.all (fun shown => !steersTerminal shown) = true by
    simpa using safe
  unfold writtenOut? at written
  split at written
  · cases written
    decide
  split at written
  · cases written
    decide
  split at written
  · cases written
    decide
  split at written
  · cases written
    decide
  split at written
  · cases written
    decide
  split at written
  next control =>
    cases written
    simp only [Bool.and_eq_true, decide_eq_true_eq] at control
    have digits := steersTerminal_of_mem_hexadecimal control
    have introduction : ['\\', 'u', '\x7b'].all
        (fun shown => !steersTerminal shown) = true := by
      decide
    have ending : steersTerminal '\x7d' = false := by
      decide
    simp only [List.all_append, introduction, Bool.true_and, List.all_cons,
      ending, List.all_nil, Bool.not_false, Bool.and_true]
    simpa using digits
  next =>
    cases written

/-- Nothing in a safe text steers a terminal. -/
theorem steersTerminal_of_mem_terminalSafe
    {text : String}
    {c : Char}
    (member : c ∈ (terminalSafe text).toList) :
    steersTerminal c = false := by
  simp only [terminalSafe, String.toList_ofList, List.mem_flatMap] at member
  obtain ⟨source, _, member⟩ := member
  cases written : writtenOut? source with
  | none =>
      simp [written] at member
      subst member
      simp [steersTerminal, written]
  | some shown =>
      simp [written] at member
      exact steersTerminal_of_mem_writtenOut? written c member

end IsaUsage.Text
