import IsaUsage.Pattern.Validity
import IsaUsage.Run.Log
import IsaUsage.Text.Alphanumeric
import IsaUsage.Text.Blank
import IsaUsage.Text.Utf8

namespace IsaUsage

/-!
# Directives for a log

A directive asks for the events up to a level. It can be narrowed to events of
one origin, to events with a certain field, and to events within a named span:
`origin[span{field=value}]=level`. All of its parts can be left out, and a
directive without a level asks for every event.

No event of this library lies within a span, so a directive that names one, or
the value of a field of one, concerns no event. The value is still looked at,
because a directive with an invalid one is itself invalid.
-/

/-- What a directive asks for, and of which events. -/
structure LogDirective where
  /-- How the origin of the events starts; none for events of any origin. -/
  origin : Option String
  /-- The field that the events have to have. -/
  field : Option String
  /-- Whether only events within a span are meant. -/
  withinSpan : Bool
  /-- The most detailed level that is shown, if any is. -/
  level : Option LogLevel
  deriving DecidableEq

namespace LogDirective

/-- Whether a directive says something about an event. -/
def concerns (directive : LogDirective) (event : LogEvent) : Bool :=
  !directive.withinSpan &&
    (directive.origin.all fun origin =>
      origin.toList.isPrefixOf event.origin.toList) &&
    directive.field.all fun field => event.fieldNames.contains field

/-- Whether the level of a directive admits an event. -/
def admits (directive : LogDirective) (event : LogEvent) : Bool :=
  directive.level.any fun level => event.level.rank ≤ level.rank

/-- How narrow the origin of a directive is: in bytes, and none is widest. -/
def originWidth (directive : LogDirective) : Nat :=
  match directive.origin with
  | none => 0
  | some origin => origin.utf8ByteSize + 1

/-- Whether the first field is the narrower demand: any field, or a later name. -/
def narrowerField : Option String → Option String → Bool
  | some left, some right => decide (right < left)
  | some _, none => true
  | none, _ => false

/-- Whether the first of two directives about one event comes before the other. -/
def outranks (left right : LogDirective) : Bool :=
  if left.originWidth = right.originWidth then
    narrowerField left.field right.field
  else
    left.originWidth > right.originWidth

/-- The directive that counts of two; a later one replaces its equal. -/
def prefer (left right : LogDirective) : LogDirective :=
  if left.outranks right then left else right

/-! ## Levels -/

/-- What a directive without a level asks for. -/
def everything : Option LogLevel := some .debugging

/-- The words for levels, in the order of the numbers that stand for them. -/
def levelWords : List (String × Option LogLevel) :=
  [("off", none), ("error", none), ("warn", some .warning),
    ("info", some .information), ("debug", some .debugging),
    ("trace", some .debugging)]

/-- A numeral, which may begin with a plus sign. -/
def numeral? (text : List Char) : Option Nat :=
  let digits :=
    match text with
    | '+' :: digits => digits
    | digits => digits
  if digits ≠ [] && digits.all Decimal.isDigit then some (Decimal.read digits)
  else none

/-- The level that a word, in either case, or a number stands for. -/
def level? (text : String) : Option (Option LogLevel) :=
  match numeral? text.toList with
  | some number => (levelWords.map Prod.snd)[number]?
  | none => levelWords.lookup (String.ofList (text.toList.map Char.toLower))

/-! ## Values of fields -/

/-- Whether a text is the exponent of a decimal number, or none is there. -/
def isExponent : List Char → Bool
  | [] => true
  | mark :: text =>
      let digits :=
        match text with
        | '+' :: digits => digits
        | '-' :: digits => digits
        | digits => digits
      (mark == 'e' || mark == 'E') && digits ≠ [] &&
        digits.all Decimal.isDigit

/-- Whether a text is a decimal number without a sign. -/
def isDecimal (text : List Char) : Bool :=
  let whole := text.takeWhile Decimal.isDigit
  match text.dropWhile Decimal.isDigit with
  | '.' :: text =>
      let fraction := text.takeWhile Decimal.isDigit
      (whole ≠ [] || fraction ≠ []) &&
        isExponent (text.dropWhile Decimal.isDigit)
  | text => whole ≠ [] && isExponent text

/-- The words for numbers without digits. -/
def numberWords : List String :=
  ["inf", "infinity", "nan"]

/-- Whether a text is a number without a sign. -/
def isNumber (text : List Char) : Bool :=
  isDecimal text ||
    numberWords.contains (String.ofList (text.map Char.toLower))

/--
Whether a field can be asked for a value, which is a truth value, a number or a
pattern. All truth values are patterns, and of the numbers those without a plus
sign in front.
-/
def isValue (text : List Char) : Bool :=
  Pattern.isValid text ||
    match text with
    | '+' :: number => isNumber number
    | _ => false

/--
The field that is demanded and whether it has to have a value, which ends at a
second equals sign.
-/
def readDemand? (text : List Char) : Option (String × Bool) :=
  let field := String.ofList (text.takeWhile (· ≠ '='))
  match text.dropWhile (· ≠ '=') with
  | [] => if text = [] then none else some (field, false)
  | _ :: rest =>
      if isValue (rest.takeWhile (· ≠ '=')) then some (field, true) else none

/-! ## Reading -/

/-- A character and its place, in bytes from the start. -/
structure Mark where
  place : Nat
  character : Char

/-- The characters of a text with their places, the first at a given one. -/
def marksFrom (place : Nat) : List Char → List Mark
  | [] => []
  | c :: rest => ⟨place, c⟩ :: marksFrom (place + c.utf8Size) rest

/-- The part of a text between two places, if both lie between characters. -/
def part? (text : String) (start stop : Nat) : Option String :=
  Text.decode? (text.toUTF8.extract start stop)

/-- Whether the origin or the level at the start can begin with a character. -/
def startsWord (c : Char) : Bool :=
  c == '-' || c == ':' || c == '_' || Text.isAlphanumeric c

/-- The level at the end of a directive: an equals sign and a word. -/
def readLevel? (text : String) : List Mark → Option (Option LogLevel)
  | [] => some everything
  | mark :: _ =>
      if mark.character = '=' then do
        let word ← part? text (mark.place + 1) text.utf8ByteSize
        if word = "" then some everything else level? word
      else
        none

/-- The span of a directive and what follows it, after the opening bracket. -/
def readSpan?
    (text : String)
    (origin : Option String)
    (start : Nat)
    (marks : List Mark) :
    Option LogDirective :=
  match marks.dropWhile fun mark => mark.character ∉ [']', '\x7b'] with
  | [] => none
  | ⟨_, ']'⟩ :: marks => do
      let level ← readLevel? text marks
      return ⟨origin, none, true, level⟩
  | ⟨place, _⟩ :: marks => do
      let span ← part? text start place
      match marks.dropWhile (·.character ≠ '\x7d') with
      | close :: ⟨_, ']'⟩ :: marks => do
          let demand ← part? text (place + 1) close.place
          let (field, hasValue) ← readDemand? demand.toList
          let level ← readLevel? text marks
          return ⟨origin, some field, span ≠ "" || hasValue, level⟩
      | _ => none

/--
Read a directive. Its punctuation is found in the text without the blanks around
it, but its parts are cut out of the text as it is, at the same places: a blank
in front shifts them, and a word with a blank is no level but an origin.
-/
def read? (text : String) : Option LogDirective :=
  match marksFrom 0 (Text.trim text.toList) with
  | [] => none
  | ⟨_, '['⟩ :: marks => readSpan? text none 1 marks
  | first :: marks =>
      if !startsWord first.character then none
      else
        match marks.dropWhile fun mark => mark.character ∉ ['=', '['] with
        | [] =>
            match level? text with
            | some level => some ⟨none, none, false, level⟩
            | none => some ⟨some text, none, false, everything⟩
        | ⟨place, '['⟩ :: marks => do
            let origin ← part? text 0 place
            readSpan? text (some origin) (place + 1) marks
        | mark :: marks => do
            let origin ← part? text 0 mark.place
            let level ← readLevel? text (mark :: marks)
            return ⟨some origin, none, false, level⟩

end LogDirective
end IsaUsage
