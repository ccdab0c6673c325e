import IsaUsage.Pattern.Escape
import IsaUsage.Pattern.Nesting

namespace IsaUsage.Pattern

/-!
# Sets of characters in brackets

Brackets hold characters, ranges, named sets and further brackets, and between
them the operators `&&`, `--` and `~~`. A hyphen at the start stands for itself,
and so does a closing bracket if nothing is before it. A set that describes
bytes is one of ASCII characters, so it cannot be the negation of another.
-/

/-- The sets that have a name. -/
def setNames : List String :=
  ["alnum", "alpha", "ascii", "blank", "cntrl", "digit", "graph", "lower",
    "print", "punct", "space", "upper", "word", "xdigit"]

/-- Whether a set may hold what an atom describes. -/
def Mode.holds (mode : Mode) : Atom → Bool
  | .literal c => mode.characters || c.toNat < 0x80
  | .set => true
  | .boundary => false

/-- What begins or ends an item in brackets. -/
def readMember? (mode : Mode) (text : List Char) :
    Option (Atom × List Char) :=
  let member :=
    match text with
    | [] => none
    | '\\' :: rest => readEscape? mode rest
    | c :: rest => some (.literal c, rest)
  member.filter fun (atom, _) => mode.holds atom

/-- Whether two atoms are the ends of a range. -/
def isRange : Atom → Atom → Bool
  | .literal first, .literal last => first ≤ last
  | _, _ => false

/-- What follows an item in brackets: a range, a character or a set. -/
def readItem? (mode : Mode) (text : List Char) : Option (List Char) :=
  match readMember? mode text with
  | none => none
  | some (first, rest) =>
      match mode.skip rest with
      | [] => none
      | '-' :: rest =>
          if [some ']', some '-'].contains (mode.next? rest) then
            some ('-' :: rest)
          else
            match readMember? mode (mode.skip rest) with
            | none => none
            | some (last, rest) =>
                if isRange first last then some rest else none
      | rest => some rest

/-- Whether a named set after its opening bracket is negated, and what follows. -/
def readName? (text : List Char) : Option (Bool × List Char) :=
  match text with
  | ':' :: rest =>
      let negated := rest.head? = some '^'
      let rest := if negated then rest.tail else rest
      let name := String.ofList (rest.takeWhile (· ≠ ':'))
      match rest.dropWhile (· ≠ ':') with
      | ':' :: ']' :: rest =>
          if setNames.contains name then some (negated, rest) else none
      | _ => none
  | _ => none

/-- What follows an opening bracket and the sign of a negation. -/
def openBracket? (mode : Mode) (text : List Char) : Option (List Char) :=
  match mode.skip text with
  | '^' :: rest => if mode.characters then some rest else none
  | rest => some rest

/-- Whether a character and the one after it make an operator. -/
def isOperator (c : Char) (rest : List Char) : Bool :=
  ['&', '-', '~'].contains c && rest.head? = some c

/-! ## What readers leave -/

/-- What begins an item takes at least one character. -/
theorem length_of_readMember?
    {mode : Mode}
    {text rest : List Char}
    {atom : Atom}
    (read : readMember? mode text = some (atom, rest)) :
    rest.length < text.length := by
  unfold readMember? at read
  have member := (Option.filter_eq_some_iff.mp read).1
  split at member
  · simp at member
  · exact Nat.lt_succ_of_lt (length_of_readEscape? member)
  · simp only [Option.some.injEq, Prod.mk.injEq] at member
    simp [member.2]

/-- An item in brackets takes at least one character. -/
theorem length_of_readItem?
    {mode : Mode}
    {text rest : List Char}
    (read : readItem? mode text = some rest) :
    rest.length < text.length := by
  have member := @length_of_readMember? mode
  have skip := mode.length_skip
  unfold readItem? at read
  grind

/-- A named set leaves less text than there was. -/
theorem length_of_readName?
    {text rest : List Char}
    {negated : Bool}
    (read : readName? text = some (negated, rest)) :
    rest.length < text.length := by
  have dropped (text : List Char) :
      (text.dropWhile (· ≠ ':')).length ≤ text.length :=
    (List.dropWhile_sublist _).length_le
  unfold readName? at read
  grind

/-- Opening brackets leaves no more text than there was. -/
theorem length_of_openBracket?
    {mode : Mode}
    {text rest : List Char}
    (opened : openBracket? mode text = some rest) :
    rest.length ≤ text.length := by
  have skip := mode.length_skip text
  unfold openBracket? at opened
  grind

/-! ## Whole brackets -/

/--
How deeply brackets are nested, from within on, and what follows them. The
brackets around these are given by what was read in them, the innermost first.
-/
def readBracket?
    (mode : Mode)
    (atStart : Bool)
    (row : Row)
    (around : List Row)
    (text : List Char) :
    Option (Nat × List Char) :=
  match _skipped : mode.skip text with
  | [] => none
  | c :: rest =>
      if atStart && c = '-' then
        readBracket? mode true (row.push 0) around rest
      else if atStart && c = ']' && row.parts.isEmpty then
        readBracket? mode false (row.push 0) around rest
      else if c = '[' then
        match _named : readName? rest with
        | some (negated, rest) =>
            if negated && !mode.characters then none
            else readBracket? mode false (row.push 0) around rest
        | none =>
            match _opened : openBracket? mode rest with
            | none => none
            | some rest => readBracket? mode true .empty (row :: around) rest
      else if c = ']' then
        match around with
        | [] => some (row.depth + 1, rest)
        | outer :: around =>
            readBracket? mode false (outer.push (row.depth + 1)) around rest
      else if isOperator c rest then
        readBracket? mode false row.operate around rest.tail
      else
        match _item : readItem? mode (c :: rest) with
        | none => none
        | some rest => readBracket? mode false (row.push 0) around rest
termination_by text.length
decreasing_by
  all_goals
    have := @Mode.length_of_skip_eq_cons mode
    have := @length_of_readName?
    have := @length_of_openBracket? mode
    have := @length_of_readItem? mode
    grind

/-- The depth of brackets after the opening one, and what follows them. -/
def readBrackets? (mode : Mode) (text : List Char) :
    Option (Nat × List Char) :=
  (openBracket? mode text).bind fun rest =>
    readBracket? mode true .empty [] rest

/-- Brackets leave less text than there was. -/
theorem length_of_readBracket?
    {mode : Mode}
    {atStart : Bool}
    {row : Row}
    {around : List Row}
    {text rest : List Char}
    {depth : Nat}
    (read :
      readBracket? mode atStart row around text = some (depth, rest)) :
    rest.length < text.length := by
  have skip := @Mode.length_of_skip_eq_cons mode
  have named := @length_of_readName?
  have opened := @length_of_openBracket? mode
  have item := @length_of_readItem? mode
  fun_induction readBracket? mode atStart row around text <;> grind

/-- Brackets leave less text than there was. -/
theorem length_of_readBrackets?
    {mode : Mode}
    {text rest : List Char}
    {depth : Nat}
    (read : readBrackets? mode text = some (depth, rest)) :
    rest.length < text.length := by
  obtain ⟨inside, opened, closed⟩ := Option.bind_eq_some_iff.mp read
  exact Nat.lt_of_lt_of_le (length_of_readBracket? closed)
    (length_of_openBracket? opened)

end IsaUsage.Pattern
