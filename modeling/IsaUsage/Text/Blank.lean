namespace IsaUsage.Text

/-!
# Blank characters and trimming

A blank character is one with the Unicode property White_Space. Trimming drops
blank characters from the ends of a text and nothing else.
-/

/-- The characters with the Unicode property White_Space. -/
def isBlank (c : Char) : Bool :=
  let point := c.toNat
  (0x9 ≤ point && point ≤ 0xD) || point == 0x20 || point == 0x85 ||
    point == 0xA0 || point == 0x1680 ||
    (0x2000 ≤ point && point ≤ 0x200A) || point == 0x2028 ||
    point == 0x2029 || point == 0x202F || point == 0x205F ||
    point == 0x3000

/-- Every white space character of the core library is blank. -/
theorem isBlank_of_isWhitespace
    {c : Char}
    (white : c.isWhitespace = true) :
    isBlank c = true := by
  simp only [Char.isWhitespace, Bool.or_eq_true, decide_eq_true_eq] at white
  rcases white with ((isSpace | isTab) | isReturn) | isNewline
  all_goals subst c; decide

/-- The text without the blank characters at its start. -/
def trimStart (text : List Char) : List Char :=
  text.dropWhile isBlank

/-- The text without the blank characters at its end. -/
def trimEnd (text : List Char) : List Char :=
  (text.reverse.dropWhile isBlank).reverse

/-- The text without the blank characters at either end. -/
def trim (text : List Char) : List Char :=
  trimEnd (trimStart text)

/-- Whether a text holds no character but blank ones. -/
def isBlankText (text : List Char) : Bool :=
  text.all isBlank

/-- Trimming leaves nothing exactly when the text is blank. -/
theorem trim_eq_nil_iff {text : List Char} :
    trim text = [] ↔ isBlankText text = true := by
  have dropped (list : List Char) :
      list.dropWhile isBlank = [] ↔ ∀ c ∈ list, isBlank c = true := by
    induction list with
    | nil =>
        simp
    | cons first rest inductionHypothesis =>
        by_cases blank : isBlank first = true
        · simp [blank, inductionHypothesis]
        · simp [blank]
  constructor
  · intro empty
    have reversed : ∀ c ∈ trimStart text, isBlank c = true := by
      have emptyReverse := List.reverse_eq_nil_iff.mp empty
      simpa using (dropped _).mp emptyReverse
    have start : trimStart text = [] := by
      cases split : trimStart text with
      | nil =>
          rfl
      | cons first rest =>
          have blank := reversed first (by simp [split])
          have notBlank := List.head?_dropWhile_not isBlank text
          rw [show text.dropWhile isBlank = first :: rest from split]
            at notBlank
          simp [blank] at notBlank
    simpa [isBlankText] using (dropped text).mp start
  · intro blank
    have start : trimStart text = [] :=
      (dropped text).mpr (by simpa [isBlankText] using blank)
    simp [trim, start, trimEnd]

end IsaUsage.Text
