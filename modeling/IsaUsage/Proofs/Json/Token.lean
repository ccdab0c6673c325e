import IsaUsage.Proofs.Json.String
import IsaUsage.Proofs.Text.Run

namespace IsaUsage.Json

/-!
# The tokens of a value that was written

A value has the same tokens however it is laid out, in one line or over several
(`lexes_compact`, `lexes_indented`). Only a number has to be told where it ends:
after it neither a digit nor a point nor an exponent may follow.
-/

mutual

/-- The tokens that stand for a value. -/
def Value.tokens : Value → List Token
  | .number count =>
      [.number ⟨false, Decimal.write count.toNat, none, none⟩]
  | .string text => [.string (some text)]
  | .list items => .openList :: itemTokens items ++ [.closeList]
  | .record fields => .openObject :: fieldTokens fields ++ [.closeObject]

/-- The tokens of items, with commas between them. -/
def itemTokens : List Value → List Token
  | [] => []
  | [item] => item.tokens
  | item :: items => item.tokens ++ .comma :: itemTokens items

/-- The tokens of fields, with commas between them. -/
def fieldTokens : List (String × Value) → List Token
  | [] => []
  | [(name, value)] => .string (some name) :: .colon :: value.tokens
  | (name, value) :: fields =>
      .string (some name) :: .colon :: value.tokens ++
        .comma :: fieldTokens fields

end

/-- Whether a character after a number belongs to it. -/
def continuesNumber (c : Char) : Bool :=
  Decimal.isDigit c || c == '.' || c == 'e' || c == 'E'

/-- No number can go on with a text. -/
def EndsNumber (text : List Char) : Prop :=
  ∀ c ∈ text.head?, continuesNumber c = false

/-- A text is cut into certain tokens, whatever follows it. -/
def Delimits (text : List Char) (cut : List Token) : Prop :=
  ∀ rest, tokens (text ++ rest) = cut ++ tokens rest

/-- A text is cut into certain tokens, unless a number goes on behind it. -/
def Lexes (text : List Char) (cut : List Token) : Prop :=
  ∀ rest, EndsNumber rest → tokens (text ++ rest) = cut ++ tokens rest

section Sequence

variable {left right : List Char} {leftCut rightCut : List Token}

theorem endsNumber_nil : EndsNumber [] := by
  simp [EndsNumber]

/-- A number ends before a character that does not continue it. -/
theorem endsNumber_cons
    {c : Char}
    (apart : continuesNumber c = false)
    (text : List Char) :
    EndsNumber (c :: text) := by
  simpa [EndsNumber] using apart

/-- A number ends before two texts if it ends before each of them. -/
theorem EndsNumber.append
    (leftEnds : EndsNumber left)
    (rightEnds : EndsNumber right) :
    EndsNumber (left ++ right) := by
  cases left with
  | nil =>
      exact rightEnds
  | cons c left =>
      simpa [EndsNumber] using leftEnds

theorem Delimits.nil : Delimits [] [] :=
  fun _ => rfl

/-- What delimits is cut wherever the text ends. -/
theorem Delimits.lexes (delimits : Delimits left leftCut) :
    Lexes left leftCut :=
  fun rest _ => delimits rest

theorem Delimits.append
    (first : Delimits left leftCut)
    (second : Delimits right rightCut) :
    Delimits (left ++ right) (leftCut ++ rightCut) := by
  intro rest
  rw [List.append_assoc, first, second, List.append_assoc]

/-- What follows a text that delimits is cut by itself. -/
theorem Delimits.append_lexes
    (first : Delimits left leftCut)
    (second : Lexes right rightCut) :
    Lexes (left ++ right) (leftCut ++ rightCut) := by
  intro rest ends
  rw [List.append_assoc, first, second rest ends, List.append_assoc]

theorem Lexes.append
    (first : Lexes left leftCut)
    (second : Lexes right rightCut)
    (apart : EndsNumber right) :
    Lexes (left ++ right) (leftCut ++ rightCut) := by
  intro rest ends
  rw [List.append_assoc, first _ (apart.append ends), second rest ends,
    List.append_assoc]

end Sequence

section Single

/-- A character that is a token by itself. -/
theorem delimits_of_lexAt
    {c : Char}
    {token : Token}
    (visible : isSpace c = false)
    (lexed : ∀ rest, lexAt c rest = (token, rest)) :
    Delimits [c] [token] := by
  intro rest
  rw [List.singleton_append, tokens]
  simp [visible, lexed]

/-- A blank is cut into nothing. -/
theorem delimits_of_isSpace {c : Char} (space : isSpace c = true) :
    Delimits [c] [] := by
  intro rest
  rw [List.singleton_append, tokens]
  simp [space]

/-- A new line with its indentation is cut into nothing. -/
theorem delimits_newLine (depth : Nat) : Delimits (newLine depth) [] := by
  have spaces (count : Nat) : Delimits (List.replicate count ' ') [] := by
    induction count with
    | zero =>
        exact .nil
    | succ count inductionHypothesis =>
        exact (delimits_of_isSpace (by decide)).append inductionHypothesis
  have feed : Delimits ['\n'] [] :=
    delimits_of_isSpace (by decide)
  exact feed.append (spaces _)

/-- A written string is one token, whatever follows it. -/
theorem delimits_writeString (text : String) :
    Delimits (writeString text) [.string (some text)] := by
  intro rest
  have lexed := lexString_escaped text rest
  simp only [writeString, List.cons_append, List.append_assoc,
    List.nil_append]
  rw [tokens]
  simp [isSpace, lexAt, lexed]

end Single

section Numbers

variable {n : Nat} {rest : List Char}

/-- A whole number that ends has no fraction and no exponent. -/
theorem lexFraction_of_endsNumber
    (ends : EndsNumber rest)
    (whole : List Char) :
    lexFraction false whole rest =
      (.number ⟨false, whole, none, none⟩, rest) := by
  cases rest with
  | nil =>
      rfl
  | cons c rest =>
      have apart : continuesNumber c = false := ends c (by simp)
      simp only [continuesNumber, Bool.or_eq_false_iff, beq_eq_false_iff_ne]
        at apart
      obtain ⟨⟨⟨-, noPoint⟩, noSmall⟩, noLarge⟩ := apart
      simp [lexFraction, lexExponent, noPoint, noSmall, noLarge]

/-- A written number is read up to where it ends. -/
theorem lexNumber_write (ends : EndsNumber rest) :
    lexNumber false (Decimal.write n ++ rest) =
      (.number ⟨false, Decimal.write n, none, none⟩, rest) := by
  have digits : ∀ c ∈ Decimal.write n, Decimal.isDigit c = true :=
    fun _ => Decimal.isDigit_of_mem_write
  have noDigit : ∀ c ∈ rest.head?, Decimal.isDigit c = false := by
    intro c first
    have apart := ends c first
    simp_all [continuesNumber]
  obtain ⟨taken, dropped⟩ :=
    Text.takeWhile_dropWhile_iff.mpr ⟨digits, noDigit, rfl⟩
  unfold lexNumber
  rw [taken, dropped]
  split
  · rename_i none
    exact absurd none (Decimal.write_ne_nil n)
  · rename_i c digits shape
    exact absurd shape (Decimal.write_ne_zero_cons n c digits)
  · exact lexFraction_of_endsNumber ends _

theorem isSpace_eq_false_of_isDigit
    {c : Char}
    (isDigit : Decimal.isDigit c = true) :
    isSpace c = false := by
  cases space : isSpace c with
  | false =>
      rfl
  | true =>
      simp only [isSpace, Bool.or_eq_true, beq_iff_eq] at space
      rcases space with ((rfl | rfl) | rfl) | rfl
      all_goals exact absurd isDigit (by decide)

/-- What begins with a digit is read as a number. -/
theorem lexAt_of_isDigit
    {c : Char}
    (isDigit : Decimal.isDigit c = true)
    (text : List Char) :
    lexAt c text = lexNumber false (c :: text) := by
  unfold lexAt
  split
  case h_12 =>
    simp [isDigit]
  -- The other tokens start with a fixed character that is no digit.
  all_goals exact absurd isDigit (by decide)

/-- A numeral is the token of its number. -/
theorem lexes_write (n : Nat) :
    Lexes (Decimal.write n)
      [.number ⟨false, Decimal.write n, none, none⟩] := by
  intro rest ends
  have lexed := @lexNumber_write n rest ends
  obtain ⟨c, digits, shape⟩ :=
    List.exists_cons_of_ne_nil (Decimal.write_ne_nil n)
  have isDigit : Decimal.isDigit c = true :=
    Decimal.isDigit_of_mem_write (n := n) (by simp [shape])
  rw [shape, List.cons_append] at lexed ⊢
  rw [tokens]
  simp [isSpace_eq_false_of_isDigit isDigit, lexAt_of_isDigit isDigit, lexed]

end Numbers

section Values

theorem delimits_comma : Delimits [','] [.comma] :=
  delimits_of_lexAt rfl fun _ => rfl

theorem delimits_colon : Delimits [':'] [.colon] :=
  delimits_of_lexAt rfl fun _ => rfl

theorem delimits_space : Delimits [' '] [] :=
  delimits_of_isSpace rfl

/-- What is between the brackets of a list is a list's. -/
theorem Lexes.inList
    {inside : List Char}
    {cut : List Token}
    (lexes : Lexes inside cut)
    {close : List Char}
    (closes : Delimits close [.closeList])
    (apart : EndsNumber close) :
    Lexes ('[' :: inside ++ close) (.openList :: cut ++ [.closeList]) := by
  have opens : Delimits ['['] [.openList] :=
    delimits_of_lexAt rfl fun _ => rfl
  exact opens.append_lexes (lexes.append closes.lexes apart)

/-- What is between the braces of a record is a record's. -/
theorem Lexes.inRecord
    {inside : List Char}
    {cut : List Token}
    (lexes : Lexes inside cut)
    {close : List Char}
    (closes : Delimits close [.closeObject])
    (apart : EndsNumber close) :
    Lexes ('\x7b' :: inside ++ close)
      (.openObject :: cut ++ [.closeObject]) := by
  have opens : Delimits ['\x7b'] [.openObject] :=
    delimits_of_lexAt rfl fun _ => rfl
  exact opens.append_lexes (lexes.append closes.lexes apart)

/-- A comma keeps a value apart from what follows. -/
theorem Lexes.beforeComma
    {left right : List Char}
    {leftCut rightCut : List Token}
    (first : Lexes left leftCut)
    (second : Lexes right rightCut) :
    Lexes (left ++ ',' :: right) (leftCut ++ .comma :: rightCut) :=
  first.append (delimits_comma.append_lexes second)
    (endsNumber_cons rfl right)

mutual

/-- A value in one line is cut into its tokens. -/
theorem lexes_compact : ∀ value : Value, Lexes value.compact value.tokens
  | .number count => lexes_write count.toNat
  | .string text => (delimits_writeString text).lexes
  | .list items =>
      (lexes_compactItems items).inList
        (delimits_of_lexAt rfl fun _ => rfl) (endsNumber_cons rfl [])
  | .record fields =>
      (lexes_compactFields fields).inRecord
        (delimits_of_lexAt rfl fun _ => rfl) (endsNumber_cons rfl [])

/-- Items written in short are cut into their tokens, with commas in between. -/
theorem lexes_compactItems :
    ∀ items : List Value, Lexes (compactItems items) (itemTokens items)
  | [] => Delimits.nil.lexes
  | [item] => lexes_compact item
  | item :: next :: items =>
      (lexes_compact item).beforeComma (lexes_compactItems (next :: items))

/--
Fields written in short are cut into their tokens, with commas in between.
-/
theorem lexes_compactFields :
    ∀ fields : List (String × Value),
      Lexes (compactFields fields) (fieldTokens fields)
  | [] => Delimits.nil.lexes
  | [(name, value)] =>
      (delimits_writeString name).append_lexes
        (delimits_colon.append_lexes (lexes_compact value))
  | (name, value) :: next :: fields =>
      ((delimits_writeString name).append_lexes
        (delimits_colon.append_lexes (lexes_compact value))).beforeComma
          (lexes_compactFields (next :: fields))

end

/-- White space before a text adds no token. -/
theorem Lexes.onNewLine
    {text : List Char}
    {cut : List Token}
    (lexes : Lexes text cut)
    (depth : Nat) :
    Lexes (newLine depth ++ text) cut :=
  (delimits_newLine depth).append_lexes lexes

/-- A name and a value over lines. -/
theorem Lexes.named
    {text : List Char}
    {cut : List Token}
    (lexes : Lexes text cut)
    (name : String)
    (depth : Nat) :
    Lexes (newLine depth ++ writeString name ++ ':' :: ' ' :: text)
      (.string (some name) :: .colon :: cut) := by
  rw [List.append_assoc]
  exact ((delimits_writeString name).append_lexes
    (delimits_colon.append_lexes
      (delimits_space.append_lexes lexes))).onNewLine depth

mutual

/-- A value over lines is cut into the same tokens. -/
theorem lexes_indented (depth : Nat) :
    ∀ value : Value, Lexes (value.indented depth) value.tokens
  | .number count => lexes_write count.toNat
  | .string text => (delimits_writeString text).lexes
  | .list [] =>
      Delimits.nil.lexes.inList (delimits_of_lexAt rfl fun _ => rfl)
        (endsNumber_cons rfl [])
  | .list (item :: items) => by
      rw [Value.indented, Value.tokens, List.append_assoc]
      · exact (lexes_indentedItems (depth + 1) (item :: items)).inList
          ((delimits_newLine depth).append
            (delimits_of_lexAt rfl fun _ => rfl))
          (endsNumber_cons rfl _)
      · simp
  | .record [] =>
      Delimits.nil.lexes.inRecord (delimits_of_lexAt rfl fun _ => rfl)
        (endsNumber_cons rfl [])
  | .record (field :: fields) => by
      rw [Value.indented, Value.tokens, List.append_assoc]
      · exact (lexes_indentedFields (depth + 1) (field :: fields)).inRecord
          ((delimits_newLine depth).append
            (delimits_of_lexAt rfl fun _ => rfl))
          (endsNumber_cons rfl _)
      · simp

/-- Items written on lines are cut into the same tokens. -/
theorem lexes_indentedItems (depth : Nat) :
    ∀ items : List Value, Lexes (indentedItems depth items) (itemTokens items)
  | [] => Delimits.nil.lexes
  | [item] => (lexes_indented depth item).onNewLine depth
  | item :: next :: items =>
      ((lexes_indented depth item).onNewLine depth).beforeComma
        (lexes_indentedItems depth (next :: items))

/-- Fields written on lines are cut into the same tokens. -/
theorem lexes_indentedFields (depth : Nat) :
    ∀ fields : List (String × Value),
      Lexes (indentedFields depth fields) (fieldTokens fields)
  | [] => Delimits.nil.lexes
  | [(name, value)] => (lexes_indented depth value).named name depth
  | (name, value) :: next :: fields =>
      ((lexes_indented depth value).named name depth).beforeComma
        (lexes_indentedFields depth (next :: fields))

end

/-- The tokens of the whole text of a value are the value's. -/
theorem tokens_eq_of_lexes
    {text : List Char}
    {cut : List Token}
    (lexes : Lexes text cut) :
    tokens text = cut := by
  have whole := lexes [] endsNumber_nil
  have none : tokens [] = [] := by
    rw [tokens]
  rwa [List.append_nil, none, List.append_nil] at whole

end Values
end IsaUsage.Json
