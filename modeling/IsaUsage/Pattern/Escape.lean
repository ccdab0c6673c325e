import IsaUsage.Pattern.Mode
import IsaUsage.Text.Hexadecimal

namespace IsaUsage.Pattern

/-!
# Escapes in a pattern

After a backslash a character stands for itself, for another character, for a
set of characters or for a place between characters. Sets that hold more than
ASCII need a pattern that describes characters, and the ends of words can be
told apart only in a pattern that describes bytes. There are no escapes with
braces, because the texts that are looked at hold no closing brace.
-/

/-- What a part of a pattern describes at one place. -/
inductive Atom where
  | literal (c : Char)
  | set
  | boundary
  deriving DecidableEq

/-- The control characters that a letter stands for. -/
def controlLetters : List (Char × Char) :=
  [('a', '\x07'), ('f', '\x0c'), ('n', '\n'), ('r', '\r'), ('t', '\t'),
    ('v', '\x0b')]

/-- The general categories with names of one letter, in lower case. -/
def categoryLetters : List Char :=
  ['c', 'l', 'm', 'n', 'p', 's', 'z']

/-- A character by its code point, of which some hexadecimal digits are left. -/
def readCode? (mode : Mode) :
    Nat → Nat → List Char → Option (Char × List Char)
  | 0, value, text =>
      if value.isValidChar then some (Char.ofNat value, text) else none
  | digits + 1, value, text =>
      match mode.skip text with
      | [] => none
      | c :: rest =>
          match Text.hexDigit? c with
          | none => none
          | some digit => readCode? mode digits (value * 16 + digit) rest

/-- A category after the letter that announces it. -/
def readCategory? (mode : Mode) (text : List Char) :
    Option (Atom × List Char) :=
  match mode.skip text with
  | [] => none
  | letter :: rest =>
      if mode.characters && categoryLetters.contains letter.toLower then
        some (.set, rest)
      else
        none

/-- What a character describes after a backslash by itself. -/
def escapedAtom? (mode : Mode) (c : Char) : Option Atom :=
  if ['d', 's', 'w'].contains c then some .set
  else if ['D', 'S', 'W'].contains c then
    if mode.characters then some .set else none
  else if ['A', 'z'].contains c then some .boundary
  else if ['b', 'B', '<', '>'].contains c then
    if mode.characters then none else some .boundary
  else
    match controlLetters.lookup c with
    | some control => some (.literal control)
    | none =>
        if c.toNat < 0x80 && !c.isAlphanum then some (.literal c) else none

/-- A character that an escape gives by its code point. -/
def readCharacter? (mode : Mode) (digits : Nat) (text : List Char) :
    Option (Atom × List Char) :=
  (readCode? mode digits 0 text).map fun (c, rest) => (.literal c, rest)

/--
A character or a byte by two digits. Where bytes are described, one beyond
ASCII would be a part of a character.
-/
def readShortCode? (mode : Mode) (text : List Char) :
    Option (Atom × List Char) :=
  match readCode? mode 2 0 text with
  | none => none
  | some (c, rest) =>
      if mode.characters || c.toNat < 0x80 then some (.literal c, rest)
      else none

/-- What an escape describes, after the backslash, and what follows it. -/
def readEscape? (mode : Mode) : List Char → Option (Atom × List Char)
  | [] => none
  | 'x' :: rest => readShortCode? mode rest
  | 'u' :: rest => readCharacter? mode 4 rest
  | 'U' :: rest => readCharacter? mode 8 rest
  | 'p' :: rest => readCategory? mode rest
  | 'P' :: rest => readCategory? mode rest
  | c :: rest => (escapedAtom? mode c).map fun atom => (atom, rest)

/-- The digits of a code point leave no more text than there was. -/
theorem length_of_readCode?
    {mode : Mode}
    {digits value : Nat}
    {text rest : List Char}
    {c : Char}
    (read : readCode? mode digits value text = some (c, rest)) :
    rest.length ≤ text.length := by
  fun_induction readCode? mode digits value text with
  | case1 | case2 | case3 | case4 => grind
  | case5 digits value text letter after skipped digit _ inductionHypothesis =>
      have shorter := Mode.length_of_skip_eq_cons skipped
      have := inductionHypothesis read
      omega

/-- A category takes at least its letter. -/
theorem length_of_readCategory?
    {mode : Mode}
    {text rest : List Char}
    {atom : Atom}
    (read : readCategory? mode text = some (atom, rest)) :
    rest.length < text.length := by
  unfold readCategory? at read
  split at read
  · simp at read
  · rename_i letter after skipped
    have shorter := Mode.length_of_skip_eq_cons skipped
    grind

/-- A character by its code point leaves no more text than there was. -/
theorem length_of_readCharacter?
    {mode : Mode}
    {digits : Nat}
    {text rest : List Char}
    {atom : Atom}
    (read : readCharacter? mode digits text = some (atom, rest)) :
    rest.length ≤ text.length := by
  unfold readCharacter? at read
  cases code : readCode? mode digits 0 text with
  | none =>
      simp [code] at read
  | some found =>
      have shorter := length_of_readCode? code
      simp only [code, Option.map_some, Option.some.injEq,
        Prod.mk.injEq] at read
      exact read.2 ▸ shorter

/-- A character by two digits leaves no more text than there was. -/
theorem length_of_readShortCode?
    {mode : Mode}
    {text rest : List Char}
    {atom : Atom}
    (read : readShortCode? mode text = some (atom, rest)) :
    rest.length ≤ text.length := by
  have code := @length_of_readCode? mode 2 0 text
  unfold readShortCode? at read
  grind

/-- An escape takes at least the character after the backslash. -/
theorem length_of_readEscape?
    {mode : Mode}
    {text rest : List Char}
    {atom : Atom}
    (read : readEscape? mode text = some (atom, rest)) :
    rest.length < text.length := by
  have character := @length_of_readCharacter? mode
  have shortCode := @length_of_readShortCode? mode
  have category := @length_of_readCategory? mode
  unfold readEscape? at read
  split at read
  · simp at read
  · exact Nat.lt_succ_of_le (shortCode read)
  · exact Nat.lt_succ_of_le (character read)
  · exact Nat.lt_succ_of_le (character read)
  · exact Nat.lt_succ_of_lt (category read)
  · exact Nat.lt_succ_of_lt (category read)
  · obtain ⟨_, _, same⟩ := Option.map_eq_some_iff.mp read
    simp only [Prod.mk.injEq] at same
    simp [same.2]

end IsaUsage.Pattern
