import IsaUsage.Pattern.Mode
import IsaUsage.Text.Alphanumeric

namespace IsaUsage.Pattern

/-!
# What follows an opening parenthesis

A parenthesis opens a group, which may have a name or flags of its own, or it
holds flags for what follows it.
-/

/-- What an opening parenthesis begins. -/
inductive Opening where
  /-- A group, with its name if it has one and how its inside is read. -/
  | group (name : Option (List Char)) (mode : Mode)
  /-- Flags up to the closing parenthesis, and how what follows is read. -/
  | flags (mode : Mode)

/-- The letters of flags. -/
def flagLetters : List Char :=
  ['i', 'm', 's', 'U', 'u', 'R', 'x']

/-- Flags are different letters, some of which may follow a hyphen. -/
def areFlags (flags : List Char) : Bool :=
  (flags.all fun c => c = '-' || flagLetters.contains c) &&
    decide flags.Nodup && flags.getLast? ≠ some '-'

/-- How a pattern is read after flags; a hyphen turns those after it off. -/
def Mode.switch (mode : Mode) (flags : List Char) : Mode :=
  let state (flag : Char) (before : Bool) : Bool :=
    if flags.contains flag then (flags.takeWhile (· ≠ '-')).contains flag
    else before
  ⟨state 'x' mode.spaced, state 'u' mode.characters⟩

/-- Whether a text can be the name of a group. -/
def isGroupName : List Char → Bool
  | [] => false
  | first :: others =>
      (first == '_' || Text.isAlphabetic first) &&
        others.all fun c =>
          ['_', '.', '[', ']'].contains c || Text.isAlphanumeric c

/-- A group with a name, after the opening of the name. -/
def readNamedGroup? (mode : Mode) (text : List Char) :
    Option (Opening × List Char) :=
  let name := text.takeWhile (· ≠ '>')
  match text.dropWhile (· ≠ '>') with
  | [] => none
  | _ :: rest =>
      if isGroupName name then some (.group (some name) mode, rest) else none

/-- Flags, for a group or for what follows. -/
def readFlags? (mode : Mode) (text : List Char) :
    Option (Opening × List Char) :=
  let isFlag (c : Char) : Bool := c ≠ ':' && c ≠ ')'
  let flags := text.takeWhile isFlag
  if !areFlags flags then none
  else
    match text.dropWhile isFlag with
    | [] => none
    | ':' :: rest => some (.group none (mode.switch flags), rest)
    | _ :: rest =>
        if flags.isEmpty then none
        else some (.flags (mode.switch flags), rest)

/-- What an opening parenthesis begins, and what follows. -/
def readOpening? (mode : Mode) (text : List Char) :
    Option (Opening × List Char) :=
  match mode.skip text with
  | '?' :: 'P' :: '<' :: rest => readNamedGroup? mode rest
  | '?' :: '<' :: rest => readNamedGroup? mode rest
  | '?' :: rest => readFlags? mode rest
  | rest => some (.group none mode, rest)

/-- An opening leaves no more text than there was. -/
theorem length_of_readOpening?
    {mode : Mode}
    {text rest : List Char}
    {opening : Opening}
    (read : readOpening? mode text = some (opening, rest)) :
    rest.length ≤ text.length := by
  have skip := mode.length_skip text
  have dropped (p : Char → Bool) (text : List Char) :
      (text.dropWhile p).length ≤ text.length :=
    (List.dropWhile_sublist p).length_le
  have named {text : List Char}
      (read : readNamedGroup? mode text = some (opening, rest)) :
      rest.length ≤ text.length := by
    have := dropped (· ≠ '>') text
    unfold readNamedGroup? at read
    grind
  have flags {text : List Char}
      (read : readFlags? mode text = some (opening, rest)) :
      rest.length ≤ text.length := by
    have := dropped (fun c => c ≠ ':' && c ≠ ')') text
    unfold readFlags? at read
    grind
  unfold readOpening? at read
  grind

end IsaUsage.Pattern
