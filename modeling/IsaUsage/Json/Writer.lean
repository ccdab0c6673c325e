import IsaUsage.Count

namespace IsaUsage.Json

/-!
# Writing JSON

Values are written in one line without white space, or spread over indented
lines. Strings escape the quotation mark, the backslash and the characters below
the space, and nothing else; fields keep their order.
-/

/-- The values that are written. -/
inductive Value where
  | number (count : Count)
  | string (text : String)
  | list (items : List Value)
  | record (fields : List (String × Value))

/-- A hexadecimal digit in lower case. -/
def hexDigit (n : Nat) : Char :=
  if n < 10 then Char.ofNat ('0'.toNat + n)
  else Char.ofNat ('a'.toNat + (n - 10))

/-- How a character stands in a string. -/
def escaped (c : Char) : List Char :=
  if c = '"' then ['\\', '"']
  else if c = '\\' then ['\\', '\\']
  else if c = '\x08' then ['\\', 'b']
  else if c = '\x0c' then ['\\', 'f']
  else if c = '\n' then ['\\', 'n']
  else if c = '\r' then ['\\', 'r']
  else if c = '\t' then ['\\', 't']
  else if c.toNat < 0x20 then
    ['\\', 'u', '0', '0', hexDigit (c.toNat / 16), hexDigit (c.toNat % 16)]
  else [c]

/-- A text as a string. -/
def writeString (text : String) : List Char :=
  '"' :: text.toList.flatMap escaped ++ ['"']

mutual

/-- A value in one line. -/
def Value.compact : Value → List Char
  | .number count => Decimal.write count.toNat
  | .string text => writeString text
  | .list items => '[' :: compactItems items ++ [']']
  | .record fields => '\x7b' :: compactFields fields ++ ['\x7d']

/-- Items in one line, with commas between them. -/
def compactItems : List Value → List Char
  | [] => []
  | [item] => item.compact
  | item :: items => item.compact ++ ',' :: compactItems items

/-- Fields in one line, with commas between them. -/
def compactFields : List (String × Value) → List Char
  | [] => []
  | [(name, value)] => writeString name ++ ':' :: value.compact
  | (name, value) :: fields =>
      writeString name ++ ':' :: value.compact ++ ',' :: compactFields fields

end

/-- A new line at a depth. -/
def newLine (depth : Nat) : List Char :=
  '\n' :: List.replicate (2 * depth) ' '

mutual

/-- A value over lines; those inside it are one deeper. -/
def Value.indented (depth : Nat) : Value → List Char
  | .number count => Decimal.write count.toNat
  | .string text => writeString text
  | .list [] => ['[', ']']
  | .list items =>
      '[' :: indentedItems (depth + 1) items ++ newLine depth ++ [']']
  | .record [] => ['\x7b', '\x7d']
  | .record fields =>
      '\x7b' :: indentedFields (depth + 1) fields ++ newLine depth ++ ['\x7d']

/-- Items on lines of their own. -/
def indentedItems (depth : Nat) : List Value → List Char
  | [] => []
  | [item] => newLine depth ++ item.indented depth
  | item :: items =>
      newLine depth ++ item.indented depth ++ ',' :: indentedItems depth items

/-- Fields on lines of their own. -/
def indentedFields (depth : Nat) : List (String × Value) → List Char
  | [] => []
  | [(name, value)] =>
      newLine depth ++ writeString name ++ ':' :: ' ' :: value.indented depth
  | (name, value) :: fields =>
      newLine depth ++ writeString name ++ ':' :: ' ' :: value.indented depth ++
        ',' :: indentedFields depth fields

end

/-- The text of a value in one line. -/
def Value.compactText (value : Value) : String :=
  String.ofList value.compact

/-- The text of a value over indented lines. -/
def Value.indentedText (value : Value) : String :=
  String.ofList (value.indented 0)

end IsaUsage.Json
