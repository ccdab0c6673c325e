import IsaUsage.Text.Literal
import IsaUsage.Text.WordCharacter

namespace IsaUsage.Declaration

/-!
# Kernel declarations

A kernel declaration is the word `__kernel`, a gap, the word `void`, a gap, and
a name, where a gap is one or more spaces and tabs and a name is a longest run
of word characters. It may begin anywhere in a line, also inside a longer word.
-/

/-- The word that starts a declaration. -/
def kernelWord : List Char :=
  ['_', '_', 'k', 'e', 'r', 'n', 'e', 'l']

/-- The result type, the only one a kernel can have. -/
def voidWord : List Char :=
  ['v', 'o', 'i', 'd']

/-- The characters that may stand between the words of a declaration. -/
def isGap (c : Char) : Bool :=
  c == ' ' || c == '\t'

/-- What follows a gap at the start of a text. -/
def afterGap? : List Char → Option (List Char)
  | [] => none
  | c :: rest => if isGap c then some (rest.dropWhile isGap) else none

/-- The name at the start of a text, and what follows it. -/
def readName? (text : List Char) : Option (List Char × List Char) :=
  match text.takeWhile Text.isWord with
  | [] => none
  | name => some (name, text.dropWhile Text.isWord)

/-- The name declared at the very start of a text, and what follows it. -/
def readHere? (text : List Char) : Option (List Char × List Char) := do
  let text ← Text.afterLiteral? kernelWord text
  let text ← afterGap? text
  let text ← Text.afterLiteral? voidWord text
  let text ← afterGap? text
  readName? text

/-- The name in the first declaration of a text, and what follows it. -/
def readFirst? : List Char → Option (List Char × List Char)
  | [] => none
  | c :: rest =>
      match readHere? (c :: rest) with
      | some found => some found
      | none => readFirst? rest

/-- The name of the kernel that a line declares, if it declares one. -/
def kernelName? (line : String) : Option String :=
  (readFirst? line.toList).map fun (name, _) => String.ofList name

end IsaUsage.Declaration
