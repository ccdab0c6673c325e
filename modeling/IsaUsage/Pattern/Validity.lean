import IsaUsage.Pattern.Bracket
import IsaUsage.Pattern.Group

namespace IsaUsage.Pattern

/-!
# Valid patterns

A pattern is valid if all of its parts are, if its groups are closed, have
different names and are not nested too deeply, and if every sign of repetition
has something to repeat. A repetition with bounds in braces cannot occur in the
texts that are looked at here, because they hold no closing brace; an opening
one is an error.
-/

/-- How deeply a pattern may be nested. -/
def depthLimit : Nat := 250

/-- The signs that repeat what is before them. -/
def repetitionSigns : List Char :=
  ['?', '*', '+']

/-- What is known after some of a pattern. -/
structure State where
  /-- How what follows is read. -/
  mode : Mode
  /-- What was read in the innermost open group. -/
  row : Row
  /-- Whether the last part can be repeated. -/
  repeatable : Bool
  /-- What was read around each open group, and how; the innermost first. -/
  around : List (Mode × Row)
  /-- The names of groups. -/
  names : List (List Char)

namespace State

/-- What is known before a pattern. -/
def initial : State :=
  ⟨.initial, .empty, false, [], []⟩

/-- A part that is nested so deeply, which can be repeated. -/
def push (state : State) (depth : Nat) : State :=
  { state with row := state.row.push depth, repeatable := true }

/-- A bar between alternatives. -/
def alternate (state : State) : State :=
  { state with row := state.row.alternate, repeatable := false }

/-- A sign of repetition after the last part. -/
def repeat? (state : State) : Option State :=
  if state.repeatable then some { state with row := state.row.repeatLast }
  else none

/-- What an opening parenthesis begins; a name cannot be given twice. -/
def enter? (state : State) : Opening → Option State
  | .flags mode =>
      some { state with
        mode := mode, row := state.row.push 0, repeatable := false }
  | .group name mode =>
      if name.any fun name => state.names.contains name then none
      else some ⟨mode, .empty, false, (state.mode, state.row) :: state.around,
        name.toList ++ state.names⟩

/-- The end of the innermost group, if one is open. -/
def leave? (state : State) : Option State :=
  match state.around with
  | [] => none
  | (mode, row) :: around =>
      some ⟨mode, row.push (state.row.depth + 1), true, around, state.names⟩

/-- Whether a pattern can end. -/
def isFinal (state : State) : Bool :=
  state.around.isEmpty && state.row.depth ≤ depthLimit

/-- What is known after a part of a pattern, and what follows it. -/
def step? (state : State) (c : Char) (text : List Char) :
    Option (State × List Char) :=
  match c with
  | '(' =>
      match readOpening? state.mode text with
      | none => none
      | some (opening, rest) =>
          (state.enter? opening).map fun state => (state, rest)
  | ')' => state.leave?.map fun state => (state, text)
  | '|' => some (state.alternate, text)
  | '[' =>
      match readBrackets? state.mode text with
      | none => none
      | some (depth, rest) => some (state.push depth, rest)
  | '\x7b' => none
  | '\\' =>
      match readEscape? state.mode text with
      | none => none
      | some (_, rest) => some (state.push 0, rest)
  | '.' => if state.mode.characters then some (state.push 0, text) else none
  | c =>
      if repetitionSigns.contains c then
        let rest := if text.head? = some '?' then text.tail else text
        state.repeat?.map fun state => (state, rest)
      else
        some (state.push 0, text)

/-- A step leaves no more text than there was. -/
theorem length_of_step?
    {state next : State}
    {c : Char}
    {text rest : List Char}
    (stepped : state.step? c text = some (next, rest)) :
    rest.length ≤ text.length := by
  have opening := @length_of_readOpening? state.mode
  have brackets := @length_of_readBrackets? state.mode
  have escape := @length_of_readEscape? state.mode
  unfold step? at stepped
  split at stepped <;> grind [Option.map_eq_some_iff]

end State

/-- Whether the rest of a pattern is valid after what is known. -/
def isValidAfter (state : State) (text : List Char) : Bool :=
  match _skipped : state.mode.skip text with
  | [] => state.isFinal
  | c :: rest =>
      match _stepped : state.step? c rest with
      | none => false
      | some (next, rest) => isValidAfter next rest
termination_by text.length
decreasing_by
  have shorter := Mode.length_of_skip_eq_cons _skipped
  have := State.length_of_step? _stepped
  omega

/-- Whether a text is a valid pattern. -/
def isValid (text : List Char) : Bool :=
  isValidAfter .initial text

end IsaUsage.Pattern
