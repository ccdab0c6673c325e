namespace IsaUsage.Text

/-!
# Reading UTF-8

Bytes that are the UTF-8 form of a text read as that text. Of other bytes a
readable version is made: every longest start of a character that breaks off,
and every byte that can start none, becomes one replacement character.
-/

/-- The text whose UTF-8 form the bytes are, if they are one. -/
def decode? (bytes : ByteArray) : Option String :=
  String.fromUTF8? bytes

/-- The UTF-8 form of a text reads as that text. -/
theorem decode?_toUTF8 (text : String) :
    decode? text.toUTF8 = some text := by
  have valid : text.toUTF8.IsValidUTF8 := text.isValidUTF8
  simp only [decode?, String.fromUTF8?, dif_pos valid]
  rfl

/-- The character that stands for bytes that are no character. -/
def replacementCharacter : Char := '\uFFFD'

/-- A byte that continues a character, within the bounds for its place. -/
def continues (low high : Nat) (byte : UInt8) : Bool :=
  low ≤ byte.toNat && byte.toNat ≤ high

/-- The six bits a continuing byte adds. -/
def continuation (byte : UInt8) : Nat :=
  byte.toNat % 0x40

/--
The bounds of the second byte after a given first byte: they shut out forms
that are longer than needed, surrogates, and points past the last one.
-/
def secondBounds (first : Nat) : Nat × Nat :=
  if first = 0xE0 then (0xA0, 0xBF)
  else if first = 0xED then (0x80, 0x9F)
  else if first = 0xF0 then (0x90, 0xBF)
  else if first = 0xF4 then (0x80, 0x8F)
  else (0x80, 0xBF)

/--
The first character of some bytes, or the replacement character for the
longest start of a character, and how many further bytes it takes.
-/
def firstCharacter (first : UInt8) (rest : List UInt8) : Char × Nat :=
  let lead := first.toNat
  let bounds := secondBounds lead
  if lead < 0x80 then
    (Char.ofNat lead, 0)
  else if 0xC2 ≤ lead && lead ≤ 0xDF then
    match rest with
    | second :: _ =>
        if continues bounds.1 bounds.2 second then
          (Char.ofNat ((lead % 0x20) * 0x40 + continuation second), 1)
        else
          (replacementCharacter, 0)
    | [] => (replacementCharacter, 0)
  else if 0xE0 ≤ lead && lead ≤ 0xEF then
    match rest with
    | second :: rest =>
        if continues bounds.1 bounds.2 second then
          match rest with
          | third :: _ =>
              if continues 0x80 0xBF third then
                (Char.ofNat
                  (((lead % 0x10) * 0x40 + continuation second) * 0x40 +
                    continuation third), 2)
              else
                (replacementCharacter, 1)
          | [] => (replacementCharacter, 1)
        else
          (replacementCharacter, 0)
    | [] => (replacementCharacter, 0)
  else if 0xF0 ≤ lead && lead ≤ 0xF4 then
    match rest with
    | second :: rest =>
        if continues bounds.1 bounds.2 second then
          match rest with
          | third :: rest =>
              if continues 0x80 0xBF third then
                match rest with
                | fourth :: _ =>
                    if continues 0x80 0xBF fourth then
                      (Char.ofNat
                        ((((lead % 0x08) * 0x40 + continuation second) * 0x40 +
                          continuation third) * 0x40 +
                          continuation fourth), 3)
                    else
                      (replacementCharacter, 2)
                | [] => (replacementCharacter, 2)
              else
                (replacementCharacter, 1)
          | [] => (replacementCharacter, 1)
        else
          (replacementCharacter, 0)
    | [] => (replacementCharacter, 0)
  else
    (replacementCharacter, 0)

/-- The characters of some bytes, with replacements where there is none. -/
def decodeCharacters : List UInt8 → List Char
  | [] => []
  | first :: rest =>
      let (c, further) := firstCharacter first rest
      c :: decodeCharacters (rest.drop further)
termination_by bytes => bytes.length
decreasing_by
  simp only [List.length_drop, List.length_cons]
  omega

/-- A readable version of any bytes. -/
def decodeLossy (bytes : ByteArray) : String :=
  String.ofList (decodeCharacters bytes.data.toList)

end IsaUsage.Text
