import IsaUsage.Json.Number
import IsaUsage.Text.Hexadecimal

namespace IsaUsage.Json

/-!
# JSON tokens

A text is cut into tokens up to its end or to the first place where no token
can be read. That place is a token too: it says what is wrong there, once for a
reader that wants the value and once for one that only passes over it, because
the two look at the inside of strings and numbers with different care.
-/

/-- What is wrong with a text: it ends too early, or it is no JSON. -/
inductive Fault where
  | endsEarly
  | malformed
  deriving DecidableEq, Repr

/-- The tokens of JSON, and the places where there is none. -/
inductive Token where
  | openObject
  | closeObject
  | openList
  | closeList
  | comma
  | colon
  | null
  | boolean (value : Bool)
  | number (literal : NumberLiteral)
  /-- A complete string; it has no text if it holds half a surrogate pair. -/
  | string (text : Option String)
  /-- A string that is broken inside. -/
  | brokenString (wanted skipped : Fault)
  /-- Any other place without a token. -/
  | broken (wanted skipped : Fault)
  deriving DecidableEq

/-- The white space of JSON. -/
def isSpace (c : Char) : Bool :=
  c == ' ' || c == '\t' || c == '\n' || c == '\r'

/-- The number that four hexadecimal digits stand for. -/
def codeUnit? (a b c d : Char) : Option Nat := do
  let a ← Text.hexDigit? a
  let b ← Text.hexDigit? b
  let c ← Text.hexDigit? c
  let d ← Text.hexDigit? d
  return ((a * 16 + b) * 16 + c) * 16 + d

/--
What is wrong with an escape that has not four hexadecimal digits: the text may
end within the four bytes they would take.
-/
def codeUnitFault (text : List Char) : Fault :=
  if (String.ofList (text.take 4)).utf8ByteSize < 4 then .endsEarly
  else .malformed

/-- Whether a code unit is the first half of a surrogate pair. -/
def isHighSurrogate (unit : Nat) : Bool :=
  0xD800 ≤ unit && unit ≤ 0xDBFF

/-- Whether a code unit is the second half of a surrogate pair. -/
def isLowSurrogate (unit : Nat) : Bool :=
  0xDC00 ≤ unit && unit ≤ 0xDFFF

/-- The character of a surrogate pair. -/
def surrogatePair (high low : Nat) : Char :=
  Char.ofNat ((high - 0xD800) * 0x400 + (low - 0xDC00) + 0x10000)

/-- The character that a letter after a backslash stands for. -/
def escapedCharacter? : Char → Option Char
  | '"' => some '"'
  | '\\' => some '\\'
  | '/' => some '/'
  | 'b' => some '\x08'
  | 'f' => some '\x0c'
  | 'n' => some '\n'
  | 'r' => some '\r'
  | 't' => some '\t'
  | _ => none

/-- The text of a string up to its closing mark. -/
def readString : List Char → Except Fault (List Char)
  | [] => .error .endsEarly
  | '"' :: _ => .ok []
  | '\\' :: 'u' :: a :: b :: c :: d :: rest =>
      match codeUnit? a b c d with
      | none => .error .malformed
      | some unit =>
          if isLowSurrogate unit then .error .malformed
          else if isHighSurrogate unit then
            match rest with
            | '\\' :: 'u' :: a :: b :: c :: d :: rest =>
                match codeUnit? a b c d with
                | none => .error .malformed
                | some second =>
                    if isLowSurrogate second then do
                      let text ← readString rest
                      return surrogatePair unit second :: text
                    else .error .malformed
            | '\\' :: 'u' :: short => .error (codeUnitFault short)
            | ['\\'] => .error .endsEarly
            | [] => .error .endsEarly
            | _ => .error .malformed
          else do
            let text ← readString rest
            return Char.ofNat unit :: text
  | '\\' :: 'u' :: short => .error (codeUnitFault short)
  | ['\\'] => .error .endsEarly
  | '\\' :: letter :: rest =>
      match escapedCharacter? letter with
      | none => .error .malformed
      | some c => do
          let text ← readString rest
          return c :: text
  | c :: rest =>
      if c.toNat < 0x20 then .error .malformed
      else do
        let text ← readString rest
        return c :: text

/-- What follows a string after its closing mark. -/
def skipString : List Char → Except Fault (List Char)
  | [] => .error .endsEarly
  | '"' :: rest => .ok rest
  | '\\' :: 'u' :: a :: b :: c :: d :: rest =>
      match codeUnit? a b c d with
      | none => .error .malformed
      | some _ => skipString rest
  | '\\' :: 'u' :: short => .error (codeUnitFault short)
  | ['\\'] => .error .endsEarly
  | '\\' :: letter :: rest =>
      match escapedCharacter? letter with
      | none => .error .malformed
      | some _ => skipString rest
  | c :: rest =>
      if c.toNat < 0x20 then .error .malformed else skipString rest

/-- A token and what follows it; after a fault nothing follows. -/
abbrev Lexeme := Token × List Char

/-- The string after an opening mark. -/
def lexString (text : List Char) : Lexeme :=
  match skipString text with
  | .ok rest =>
      match readString text with
      | .ok characters => (.string (some (String.ofList characters)), rest)
      | .error _ => (.string none, rest)
  | .error skipped =>
      match readString text with
      | .ok _ => (.brokenString skipped skipped, [])
      | .error wanted => (.brokenString wanted skipped, [])

/-- The fault where digits are wanted and there are none. -/
def digitsFault (text : List Char) : Token :=
  if text.isEmpty then .broken .endsEarly .malformed
  else .broken .malformed .malformed

/-- The rest of a number from its exponent on. -/
def lexExponent
    (negative : Bool)
    (whole : List Char)
    (fraction : Option (List Char))
    (text : List Char) :
    Lexeme :=
  let exponent (isNegative : Bool) (text : List Char) : Lexeme :=
    match text.takeWhile Decimal.isDigit with
    | [] => (digitsFault text, [])
    | digits =>
        (.number ⟨negative, whole, fraction, some (isNegative, digits)⟩,
          text.dropWhile Decimal.isDigit)
  match text with
  | c :: text =>
      if c = 'e' || c = 'E' then
        match text with
        | '+' :: text => exponent false text
        | '-' :: text => exponent true text
        | text => exponent false text
      else
        (.number ⟨negative, whole, fraction, none⟩, c :: text)
  | [] => (.number ⟨negative, whole, fraction, none⟩, [])

/-- The rest of a number from its fraction on. -/
def lexFraction
    (negative : Bool)
    (whole text : List Char) :
    Lexeme :=
  match text with
  | '.' :: text =>
      match text.takeWhile Decimal.isDigit with
      | [] => (digitsFault text, [])
      | digits =>
          lexExponent negative whole (some digits)
            (text.dropWhile Decimal.isDigit)
  | text => lexExponent negative whole none text

/-- A number after its sign. Only zero itself starts with a zero. -/
def lexNumber (negative : Bool) (text : List Char) : Lexeme :=
  match text.takeWhile Decimal.isDigit with
  | [] => (digitsFault text, [])
  | '0' :: _ :: _ => (.broken .malformed .malformed, [])
  | whole => lexFraction negative whole (text.dropWhile Decimal.isDigit)

/-- A word with a fixed spelling, after its first letter. -/
def lexWord (token : Token) : List Char → List Char → Lexeme
  | [], text => (token, text)
  | _ :: _, [] => (.broken .endsEarly .endsEarly, [])
  | expected :: spelling, c :: text =>
      if expected = c then lexWord token spelling text
      else (.broken .malformed .malformed, [])

/-- The token that starts with a given character. -/
def lexAt (c : Char) (text : List Char) : Lexeme :=
  match c with
  | '\x7b' => (.openObject, text)
  | '\x7d' => (.closeObject, text)
  | '[' => (.openList, text)
  | ']' => (.closeList, text)
  | ',' => (.comma, text)
  | ':' => (.colon, text)
  | '"' => lexString text
  | '-' => lexNumber true text
  | 'n' => lexWord .null ['u', 'l', 'l'] text
  | 't' => lexWord (.boolean true) ['r', 'u', 'e'] text
  | 'f' => lexWord (.boolean false) ['a', 'l', 's', 'e'] text
  | c =>
      if Decimal.isDigit c then lexNumber false (c :: text)
      else (.broken .malformed .malformed, [])

/-- Passing over a string leaves no more text than there was. -/
theorem length_of_skipString
    {text rest : List Char}
    (skipped : skipString text = .ok rest) :
    rest.length ≤ text.length := by
  fun_induction skipString text <;> simp_all <;> omega

/-- A string leaves no more text than there was. -/
theorem length_lexString (text : List Char) :
    (lexString text).2.length ≤ text.length := by
  unfold lexString
  cases skipped : skipString text with
  | error fault =>
      cases readString text <;> simp
  | ok rest =>
      have shorter := length_of_skipString skipped
      cases readString text <;> simpa using shorter

/-- The digits of a number and what follows are no more than the text. -/
theorem length_dropWhile_isDigit (text : List Char) :
    (text.dropWhile Decimal.isDigit).length ≤ text.length :=
  (List.dropWhile_sublist Decimal.isDigit).length_le

/-- Digits at the start of a text leave less text than there was. -/
theorem length_dropWhile_isDigit_lt
    {text digits : List Char}
    {digit : Char}
    (taken : text.takeWhile Decimal.isDigit = digit :: digits) :
    (text.dropWhile Decimal.isDigit).length < text.length := by
  have whole := congrArg List.length
    (List.takeWhile_append_dropWhile (p := Decimal.isDigit) (l := text))
  rw [taken] at whole
  simp only [List.length_append, List.length_cons] at whole
  omega

/-- An exponent leaves no more text than there was. -/
theorem length_lexExponent
    (negative : Bool)
    (whole : List Char)
    (fraction : Option (List Char))
    (text : List Char) :
    (lexExponent negative whole fraction text).2.length ≤ text.length := by
  have digits := length_dropWhile_isDigit
  unfold lexExponent
  grind

/-- A fraction leaves no more text than there was. -/
theorem length_lexFraction
    (negative : Bool)
    (whole text : List Char) :
    (lexFraction negative whole text).2.length ≤ text.length := by
  have digits := length_dropWhile_isDigit
  have exponent := length_lexExponent
  unfold lexFraction
  grind

/-- A word leaves no more text than there was. -/
theorem length_lexWord
    (token : Token)
    (spelling text : List Char) :
    (lexWord token spelling text).2.length ≤ text.length := by
  fun_induction lexWord token spelling text with grind

/-- A token takes at least the character it starts with. -/
theorem length_lexAt (c : Char) (text : List Char) :
    (lexAt c text).2.length < (c :: text).length := by
  have digits := length_dropWhile_isDigit
  have fraction := length_lexFraction
  have word := length_lexWord
  have number (text : List Char) :
      (lexNumber true text).2.length ≤ text.length := by
    unfold lexNumber
    grind
  have unsigned (isDigit : Decimal.isDigit c = true) :
      (lexNumber false (c :: text)).2.length < text.length + 1 := by
    have taken : (c :: text).takeWhile Decimal.isDigit =
        c :: text.takeWhile Decimal.isDigit := by
      simp [isDigit]
    have shorter := length_dropWhile_isDigit_lt taken
    unfold lexNumber
    split
    · simp
    · simp
    · exact Nat.lt_of_le_of_lt (fraction _ _ _) shorter
  have string := length_lexString text
  unfold lexAt
  split <;> simp only [List.length_cons] <;> grind

/-- The tokens of a text, up to the first place without one. -/
def tokens (text : List Char) : List Token :=
  match text with
  | [] => []
  | c :: rest =>
      if isSpace c then tokens rest
      else (lexAt c rest).1 :: tokens (lexAt c rest).2
termination_by text.length
decreasing_by
  · simp
  · exact length_lexAt c rest

end IsaUsage.Json
