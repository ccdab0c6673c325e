import IsaUsage.Text.Blank

namespace IsaUsage.Pattern

/-!
# How a pattern is read

A pattern is a regular expression. Its flags say whether blank characters and
comments in it are passed over, and whether it describes characters or bytes.
-/

/-- How the characters of a pattern are read. -/
structure Mode where
  /-- Whether blank characters and comments are passed over. -/
  spaced : Bool
  /-- Whether characters are described; otherwise bytes are. -/
  characters : Bool
  deriving DecidableEq

/-- How a pattern is read where no flag has said otherwise. -/
def Mode.initial : Mode :=
  ⟨false, true⟩

/--
What follows blank characters and comments; a comment begins with a number sign
and ends with its line.
-/
def skipBlanks (inComment : Bool) : List Char → List Char
  | [] => []
  | c :: rest =>
      if inComment then skipBlanks (c ≠ '\n') rest
      else if c = '#' then skipBlanks true rest
      else if Text.isBlank c then skipBlanks false rest
      else c :: rest

/-- What follows the characters that are passed over. -/
def Mode.skip (mode : Mode) (text : List Char) : List Char :=
  if mode.spaced then skipBlanks false text else text

/--
The character that decides what a hyphen before it means. Of a comment in
between only the number sign is passed over.
-/
def Mode.next? (mode : Mode) (text : List Char) : Option Char :=
  if mode.spaced then
    match text.dropWhile Text.isBlank with
    | '#' :: rest => (rest.dropWhile Text.isBlank).head?
    | rest => rest.head?
  else
    text.head?

/-- Passing over blanks leaves no more text than there was. -/
theorem length_skipBlanks (inComment : Bool) (text : List Char) :
    (skipBlanks inComment text).length ≤ text.length := by
  fun_induction skipBlanks inComment text with grind

/-- Passing over characters leaves no more text than there was. -/
theorem Mode.length_skip (mode : Mode) (text : List Char) :
    (mode.skip text).length ≤ text.length := by
  unfold Mode.skip
  split
  · exact length_skipBlanks false text
  · exact Nat.le_refl _

/-- The characters that are left after passing over some are among the text. -/
theorem Mode.length_of_skip_eq_cons
    {mode : Mode}
    {text rest : List Char}
    {c : Char}
    (skipped : mode.skip text = c :: rest) :
    rest.length < text.length := by
  have := mode.length_skip text
  simp only [skipped, List.length_cons] at this
  omega

end IsaUsage.Pattern
