import IsaUsage.Json.Token
import IsaUsage.Json.Writer
import Mathlib.Tactic.SplitIfs

namespace IsaUsage.Json

/-!
# Strings are read as they were written

A character stands in a string as itself or as an escape (`Escapes`), and either
way a reader finds the same character again. So a string that was written is one
token, and the token holds the text of the string (`lexString_escaped`).
-/

/-- The ways in which a character can stand in a string. -/
inductive Escapes (c : Char) : List Char → Prop where
  | letter {letter : Char} :
      letter ≠ 'u' → escapedCharacter? letter = some c →
        Escapes c ['\\', letter]
  | control :
      c.toNat < 0x20 →
        Escapes c
          ['\\', 'u', '0', '0', hexDigit (c.toNat / 16), hexDigit (c.toNat % 16)]
  | plain :
      c ≠ '"' → c ≠ '\\' → ¬ c.toNat < 0x20 → Escapes c [c]

theorem escapes_escaped (c : Char) : Escapes c (escaped c) := by
  unfold escaped
  split_ifs with quote backslash back feed newline carriage tab control
  · exact .letter (by decide) (by simp [escapedCharacter?, quote])
  · exact .letter (by decide) (by simp [escapedCharacter?, backslash])
  · exact .letter (by decide) (by simp [escapedCharacter?, back])
  · exact .letter (by decide) (by simp [escapedCharacter?, feed])
  · exact .letter (by decide) (by simp [escapedCharacter?, newline])
  · exact .letter (by decide) (by simp [escapedCharacter?, carriage])
  · exact .letter (by decide) (by simp [escapedCharacter?, tab])
  · exact .control control
  · exact .plain quote backslash control

/-- The code unit in the escape of a control character is the character's. -/
theorem codeUnit?_of_control :
    ∀ n < 0x20,
      codeUnit? '0' '0' (hexDigit (n / 16)) (hexDigit (n % 16)) = some n := by
  decide

section Reading

variable {c : Char} {escape : List Char}

/-- Whatever a character stands as, it is read again. -/
theorem Escapes.readString (escapes : Escapes c escape) (text : List Char) :
    readString (escape ++ text) = (readString text).map (c :: ·) := by
  cases escapes with
  | letter notUnit stands =>
      simp only [List.cons_append, List.nil_append, Json.readString, notUnit,
        stands, false_implies, implies_true]
      cases Json.readString text <;> rfl
  | control control =>
      have notLow : isLowSurrogate c.toNat = false := by
        simp [isLowSurrogate]
        omega
      have notHigh : isHighSurrogate c.toNat = false := by
        simp [isHighSurrogate]
        omega
      simp only [List.cons_append, List.nil_append, Json.readString,
        codeUnit?_of_control c.toNat control, notLow, notHigh,
        Char.ofNat_toNat]
      cases Json.readString text <;> rfl
  | plain notQuote notBackslash printable =>
      simp only [List.cons_append, List.nil_append, Json.readString,
        notBackslash, printable, false_implies, implies_true, ↓reduceIte]
      cases Json.readString text <;> rfl

theorem Escapes.skipString (escapes : Escapes c escape) (text : List Char) :
    skipString (escape ++ text) = skipString text := by
  cases escapes with
  | letter notUnit stands =>
      simp [Json.skipString, notUnit, stands]
  | control control =>
      simp [Json.skipString, codeUnit?_of_control c.toNat control]
  | plain notQuote notBackslash printable =>
      simp [Json.skipString, notBackslash, printable]

end Reading

theorem readString_flatMap_escaped (characters rest : List Char) :
    readString (characters.flatMap escaped ++ '"' :: rest) =
      .ok characters := by
  induction characters with
  | nil =>
      simp [readString]
  | cons c characters inductionHypothesis =>
      rw [List.flatMap_cons, List.append_assoc, (escapes_escaped c).readString,
        inductionHypothesis]
      rfl

theorem skipString_flatMap_escaped (characters rest : List Char) :
    skipString (characters.flatMap escaped ++ '"' :: rest) = .ok rest := by
  induction characters with
  | nil =>
      simp [skipString]
  | cons c characters inductionHypothesis =>
      rw [List.flatMap_cons, List.append_assoc, (escapes_escaped c).skipString,
        inductionHypothesis]

/-- A string that was written is one token. -/
theorem lexString_escaped (text : String) (rest : List Char) :
    lexString (text.toList.flatMap escaped ++ '"' :: rest) =
      (.string (some text), rest) := by
  simp [lexString, skipString_flatMap_escaped, readString_flatMap_escaped]

end IsaUsage.Json
