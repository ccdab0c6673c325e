import IsaUsage.Count

namespace IsaUsage

/-!
# Register references in a report

A report names registers by the letter of their class and an index, `v7`, or by
the letter and two indices of a block, `s[8:11]`. References are read from left
to right, each one whole, and the usage of a class is the highest index that
any of them mentions.
-/

/-- The register files that a report mentions. -/
inductive RegisterClass where
  | vector
  | scalar
  deriving DecidableEq, Repr

namespace RegisterClass

/-- The letter that starts a reference to the class. -/
def letter : RegisterClass → Char
  | .vector => 'v'
  | .scalar => 's'

/-- The name of the class. -/
def name : RegisterClass → String
  | .vector => "vector"
  | .scalar => "scalar"

/-- The class with a given name. -/
def ofName? (name : String) : Option RegisterClass :=
  if name = "vector" then some .vector
  else if name = "scalar" then some .scalar
  else none

end RegisterClass

/-- One mention of registers. -/
inductive RegisterReference where
  | single (index : Count)
  | block (first last : Count)
  deriving DecidableEq

namespace RegisterReference

/-- The indices a reference mentions. -/
def indices : RegisterReference → List Count
  | .single index => [index]
  | .block first last => [first, last]

/-- A run of digits as an index; one too large for a count saturates. -/
def index (digits : List Char) : Count :=
  Count.saturate (Decimal.read digits)

/-- A non-empty run of digits at the start of a text, and what follows it. -/
def readDigits? (text : List Char) : Option (List Char × List Char) :=
  match text.takeWhile Decimal.isDigit with
  | [] => none
  | digits => some (digits, text.dropWhile Decimal.isDigit)

/-- The rest of a block after its bracket: two indices and a bracket. -/
def readBlock? (text : List Char) :
    Option (RegisterReference × List Char) :=
  match readDigits? text with
  | some (first, ':' :: text) =>
      match readDigits? text with
      | some (last, ']' :: text) => some (.block (index first) (index last), text)
      | _ => none
  | _ => none

/-- The rest of a reference to one register: its index. -/
def readSingle? (text : List Char) :
    Option (RegisterReference × List Char) :=
  match readDigits? text with
  | some (digits, text) => some (.single (index digits), text)
  | none => none

/-- The rest of a reference after the letter of its class. -/
def readAfterLetter? (text : List Char) :
    Option (RegisterReference × List Char) :=
  match text with
  | '[' :: text => readBlock? text
  | text => readSingle? text

/-- Digits at the start leave no more text than there was. -/
theorem length_of_readDigits?
    {text digits rest : List Char}
    (found : readDigits? text = some (digits, rest)) :
    rest.length ≤ text.length := by
  have shorter := (List.dropWhile_sublist Decimal.isDigit (l := text)).length_le
  grind [readDigits?]

/-- A reference leaves no more text than there was. -/
theorem length_of_readAfterLetter?
    {text rest : List Char}
    {reference : RegisterReference}
    (found : readAfterLetter? text = some (reference, rest)) :
    rest.length ≤ text.length := by
  have digits := @length_of_readDigits?
  have single {text : List Char} (found : readSingle? text = some (reference, rest)) :
      rest.length ≤ text.length := by
    grind [readSingle?]
  have block {text : List Char} (found : readBlock? text = some (reference, rest)) :
      rest.length ≤ text.length := by
    grind [readBlock?]
  unfold readAfterLetter? at found
  split at found
  · have := block found
    grind
  · exact single found

/-- The references to the class with a given letter, from left to right. -/
def all (letter : Char) : List Char → List RegisterReference
  | [] => []
  | c :: text =>
      if c = letter then
        match _found : readAfterLetter? text with
        | some (reference, rest) => reference :: all letter rest
        | none => all letter text
      else
        all letter text
termination_by text => text.length
decreasing_by
  all_goals
    have := @length_of_readAfterLetter?
    grind

end RegisterReference

/-- The indices of a class that a line mentions. -/
def registerIndices (registers : RegisterClass) (line : String) : List Count :=
  (RegisterReference.all registers.letter line.toList).flatMap
    RegisterReference.indices

/-- The highest index of a class that any line mentions, or 0. -/
def maxRegister (registers : RegisterClass) (lines : List String) : Count :=
  (lines.flatMap (registerIndices registers)).foldl max 0

/-- The highest index of each class. -/
structure RegisterUsage where
  vector : Count
  scalar : Count
  deriving DecidableEq, Inhabited

/-- The highest index of each class that any line mentions. -/
def scanRegisters (lines : List String) : RegisterUsage where
  vector := maxRegister .vector lines
  scalar := maxRegister .scalar lines

end IsaUsage
