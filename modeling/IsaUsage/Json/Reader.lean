import IsaUsage.Count
import IsaUsage.Json.Fault

namespace IsaUsage.Json

/-!
# Reading values from tokens

A reader takes tokens from the front and leaves the rest, which is shorter.
Readers go strictly from left to right, so that of several problems the first
one is reported. Records are read from objects, whose unknown fields are passed
over, or from lists of their fields in order.
-/

/-- A value and the tokens after it. -/
structure Taken (α : Type) (input : List Token) where
  value : α
  rest : List Token
  shorter : rest.length < input.length

/-- What takes a value from the front of some tokens. -/
abbrev Reader (α : Type) : Type :=
  (input : List Token) → Except ReadFault (Taken α input)

/-- A fault of the text. -/
def textFault (fault : Fault) : Except ReadFault α :=
  .error (.text fault)

/-- Data that does not fit. -/
def dataFault (fault : DataFault) : Except ReadFault α :=
  .error (.data fault)

/-- Where punctuation is wanted and there is something else. -/
def punctuationFault : List Token → Except ReadFault α
  | [] => textFault .endsEarly
  | _ :: _ => textFault .malformed

/-- The fault of tokens that start with no value of the kind wanted. -/
def mismatch (wanted : Wanted) (input : List Token) : Except ReadFault α :=
  let found (found : Found) : Except ReadFault α :=
    dataFault (.wrongType found wanted)
  match input with
  | [] => textFault .endsEarly
  | .null :: _ => found .null
  | .boolean value :: _ => found (.boolean value)
  | .number literal :: _ =>
      match literal.value? with
      | some value => found (.number value)
      | none => textFault .malformed
  | .string (some text) :: _ => found (.string text)
  | .string none :: _ => textFault .malformed
  | .brokenString wanted _ :: _ => textFault wanted
  | .broken wanted _ :: _ => textFault wanted
  | .openList :: _ => found .list
  | .openObject :: _ => found .object
  | _ :: _ => textFault .malformed

/-- A reader whose value is put to use. -/
def Reader.map (use : α → β) (reader : Reader α) : Reader β :=
  fun input => do
    let taken ← reader input
    return ⟨use taken.value, taken.rest, taken.shorter⟩

/-- A text. -/
def readText (wanted : Wanted) : Reader String
  | .string (some text) :: rest => .ok ⟨text, rest, Nat.lt_succ_self _⟩
  | input => mismatch wanted input

/-- A count. Negative integers are of the right type but have no value. -/
def readCount : Reader Count
  | .number literal :: rest =>
      match literal.value? with
      | none => textFault .malformed
      | some (.natural value) =>
          match Count.ofNat? value with
          | some count => .ok ⟨count, rest, Nat.lt_succ_self _⟩
          | none => dataFault (.wrongValue (.number (.natural value)) .count)
      | some (.negative magnitude) =>
          dataFault (.wrongValue (.number (.negative magnitude)) .count)
      | some (.floating value) =>
          dataFault (.wrongType (.number (.floating value)) .count)
  | input => mismatch .count input

/-- Nothing but null. -/
def readUnit : Reader Unit
  | .null :: rest => .ok ⟨(), rest, Nat.lt_succ_self _⟩
  | input => mismatch .unit input

/-- What encloses a value that is passed over. -/
inductive Enclosure where
  | list
  | object

/-- The tokens after something passed over, no more than there were. -/
abbrev Skipped (input : List Token) : Type :=
  { rest : List Token // rest.length ≤ input.length }

/-- One more token was passed over. -/
def Skipped.after
    (token : Token)
    {input : List Token}
    (skipped : Except ReadFault (Skipped input)) :
    Except ReadFault (Skipped (token :: input)) :=
  skipped.map fun rest =>
    ⟨rest.val, Nat.le_succ_of_le rest.property⟩

mutual

/-- Pass over a value and what it is enclosed in. -/
def skipValue (enclosures : List Enclosure) :
    (input : List Token) → Except ReadFault (Skipped input)
  | [] => textFault .endsEarly
  | .openList :: rest => Skipped.after _ (skipFirst enclosures rest)
  | .openObject :: rest => Skipped.after _ (skipFirstKey enclosures rest)
  | .null :: rest => Skipped.after _ (skipRest enclosures rest)
  | .boolean _ :: rest => Skipped.after _ (skipRest enclosures rest)
  | .number _ :: rest => Skipped.after _ (skipRest enclosures rest)
  | .string _ :: rest => Skipped.after _ (skipRest enclosures rest)
  | .brokenString _ skipped :: _ => textFault skipped
  | .broken _ skipped :: _ => textFault skipped
  | .closeObject :: _ => textFault .malformed
  | .closeList :: _ => textFault .malformed
  | .comma :: _ => textFault .malformed
  | .colon :: _ => textFault .malformed

/-- Pass over a list after its bracket. -/
def skipFirst (enclosures : List Enclosure) :
    (input : List Token) → Except ReadFault (Skipped input)
  | [] => textFault .endsEarly
  | .closeList :: rest => Skipped.after _ (skipRest enclosures rest)
  | .openList :: rest =>
      Skipped.after _ (skipFirst (.list :: enclosures) rest)
  | .openObject :: rest =>
      Skipped.after _ (skipFirstKey (.list :: enclosures) rest)
  | .null :: rest => Skipped.after _ (skipRest (.list :: enclosures) rest)
  | .boolean _ :: rest => Skipped.after _ (skipRest (.list :: enclosures) rest)
  | .number _ :: rest => Skipped.after _ (skipRest (.list :: enclosures) rest)
  | .string _ :: rest => Skipped.after _ (skipRest (.list :: enclosures) rest)
  | .brokenString _ skipped :: _ => textFault skipped
  | .broken _ skipped :: _ => textFault skipped
  | .closeObject :: _ => textFault .malformed
  | .comma :: _ => textFault .malformed
  | .colon :: _ => textFault .malformed

/-- Pass over an object after its brace. -/
def skipFirstKey (enclosures : List Enclosure) :
    (input : List Token) → Except ReadFault (Skipped input)
  | .closeObject :: rest => Skipped.after _ (skipRest enclosures rest)
  | .string _ :: rest => Skipped.after _ (skipColon enclosures rest)
  | .brokenString _ skipped :: _ => textFault skipped
  | input => punctuationFault input

/-- Pass over an object from a key on. -/
def skipKey (enclosures : List Enclosure) :
    (input : List Token) → Except ReadFault (Skipped input)
  | .string _ :: rest => Skipped.after _ (skipColon enclosures rest)
  | .brokenString _ skipped :: _ => textFault skipped
  | input => punctuationFault input

/-- Pass over an object from the colon after a key on. -/
def skipColon (enclosures : List Enclosure) :
    (input : List Token) → Except ReadFault (Skipped input)
  | .colon :: rest =>
      Skipped.after _ (skipValue (.object :: enclosures) rest)
  | input => punctuationFault input

/-- Pass over what remains of the enclosures after a value. -/
def skipRest :
    List Enclosure →
    (input : List Token) →
    Except ReadFault (Skipped input)
  | [], input => .ok ⟨input, Nat.le_refl _⟩
  | .list :: enclosures, .closeList :: rest =>
      Skipped.after _ (skipRest enclosures rest)
  | .list :: enclosures, .comma :: rest =>
      Skipped.after _ (skipValue (.list :: enclosures) rest)
  | .object :: enclosures, .closeObject :: rest =>
      Skipped.after _ (skipRest enclosures rest)
  | .object :: enclosures, .comma :: rest =>
      Skipped.after _ (skipKey enclosures rest)
  | _, input => punctuationFault input

end

/-- A field of a record: its name and how its value is read. -/
structure Field (α : Type) where
  name : String
  set : Reader (α → α)

/--
How a record is read: its name, its fields in order, and a record to set the
fields of. All fields have to be set.
-/
structure RecordFormat (α : Type) where
  name : String
  fields : List (Field α)
  blank : α

/-- A record in the making, and the names of the fields set so far. -/
structure Draft (α : Type) where
  record : α
  seen : List String

namespace RecordFormat

/-- What is wanted when a record is. -/
def wanted (format : RecordFormat α) : Wanted :=
  .record format.name

/-- The finished record, if all its fields are set. -/
def finish (format : RecordFormat α) (draft : Draft α) :
    Except ReadFault α :=
  match format.fields.find? fun field => !(draft.seen.contains field.name) with
  | some field => dataFault (.missingField field.name)
  | none => .ok draft.record

/-- Read the value of a field after its key and colon. -/
def readMember
    (format : RecordFormat α)
    (draft : Draft α)
    (key : String) :
    Reader (Draft α)
  | .colon :: rest =>
      match format.fields.find? fun field => field.name == key with
      | some field => do
          let taken ← field.set rest
          return ⟨⟨taken.value draft.record, key :: draft.seen⟩, taken.rest,
            Nat.lt_succ_of_lt taken.shorter⟩
      | none => do
          let skipped ← skipValue [] rest
          return ⟨draft, skipped.val, Nat.lt_succ_of_le skipped.property⟩
  | input => punctuationFault input

/-- Read the fields of an object from a key on, up to its brace. -/
def readMembers
    (format : RecordFormat α)
    (draft : Draft α) :
    Reader (Draft α)
  | .string (some key) :: rest =>
      if draft.seen.contains key then
        dataFault (.duplicateField key)
      else do
        let member ← format.readMember draft key rest
        match atEnd : member.rest with
        | .closeObject :: after =>
            return ⟨member.value, after, by
              have := member.shorter
              simp_all only [List.length_cons]
              omega⟩
        | .comma :: after =>
            have nearer : after.length < rest.length + 1 := by
              have := member.shorter
              simp_all only [List.length_cons]
              omega
            let others ← format.readMembers member.value after
            return ⟨others.value, others.rest, by
              have := others.shorter
              simp only [List.length_cons]
              omega⟩
        | after => punctuationFault after
  | .string none :: _ => textFault .malformed
  | .brokenString wanted _ :: _ => textFault wanted
  | input => punctuationFault input
termination_by input => input.length

/-- Read the fields of a record in order, from a list after its bracket. -/
def readInOrder
    (format : RecordFormat α)
    (record : α)
    (given : Nat) :
    List (Field α) →
    (input : List Token) →
    Except ReadFault (Taken α input)
  | [], .closeList :: rest => .ok ⟨record, rest, Nat.lt_succ_self _⟩
  | [], input => punctuationFault input
  | _ :: _, .closeList :: _ =>
      dataFault (.tooFew given format.wanted format.fields.length)
  | field :: fields, input =>
      if given = 0 then do
        let taken ← field.set input
        let others ←
          format.readInOrder (taken.value record) (given + 1) fields taken.rest
        return ⟨others.value, others.rest,
          Nat.lt_trans others.shorter taken.shorter⟩
      else
        match input with
        | .comma :: .closeList :: _ => textFault .malformed
        | .comma :: rest => do
            let taken ← field.set rest
            let others ←
              format.readInOrder (taken.value record) (given + 1) fields
                taken.rest
            return ⟨others.value, others.rest,
              Nat.lt_trans others.shorter
                (Nat.lt_succ_of_lt taken.shorter)⟩
        | input => punctuationFault input

/-- Read a record from an object or from a list. -/
def read (format : RecordFormat α) : Reader α
  | .openObject :: .closeObject :: rest => do
      let record ← format.finish ⟨format.blank, []⟩
      return ⟨record, rest, by simp only [List.length_cons]; omega⟩
  | .openObject :: rest => do
      let taken ← format.readMembers ⟨format.blank, []⟩ rest
      let record ← format.finish taken.value
      return ⟨record, taken.rest, Nat.lt_succ_of_lt taken.shorter⟩
  | .openList :: rest => do
      let taken ← format.readInOrder format.blank 0 format.fields rest
      return ⟨taken.value, taken.rest, Nat.lt_succ_of_lt taken.shorter⟩
  | input => mismatch format.wanted input

end RecordFormat

/-- Read the items of a list from one on, up to its bracket. -/
def readItems (item : Reader α) (input : List Token) :
    Except ReadFault (Taken (List α) input) := do
  let first ← item input
  match atEnd : first.rest with
  | .closeList :: after =>
      return ⟨[first.value], after, by
        have := first.shorter
        simp_all only [List.length_cons]
        omega⟩
  | .comma :: .closeList :: _ => textFault .malformed
  | .comma :: after =>
      have nearer : after.length < input.length := by
        have := first.shorter
        simp_all only [List.length_cons]
        omega
      let others ← readItems item after
      return ⟨first.value :: others.value, others.rest,
        Nat.lt_trans others.shorter nearer⟩
  | after => punctuationFault after
termination_by input.length

/-- A list of items. -/
def readList (item : Reader α) : Reader (List α)
  | .openList :: .closeList :: rest =>
      .ok ⟨[], rest, by simp only [List.length_cons]; omega⟩
  | .openList :: rest => do
      let taken ← readItems item rest
      return ⟨taken.value, taken.rest, Nat.lt_succ_of_lt taken.shorter⟩
  | input => mismatch .list input

/-- One of several names. -/
def chooseName
    (choose? : String → Option α)
    (known : List String)
    (name : String) :
    Except ReadFault α :=
  match choose? name with
  | some choice => .ok choice
  | none => dataFault (.unknownChoice name known)

/-- A choice by name: the name alone, or the only key of an object, for null. -/
def readChoice
    (choose? : String → Option α)
    (known : List String) :
    Reader α
  | .string text :: rest =>
      match text with
      | some name => do
          let choice ← chooseName choose? known name
          return ⟨choice, rest, Nat.lt_succ_self _⟩
      | none => textFault .malformed
  | .brokenString wanted _ :: _ => textFault wanted
  | .openObject :: .string (some name) :: .colon :: rest => do
      let choice ← chooseName choose? known name
      let unit ← readUnit rest
      match atEnd : unit.rest with
      | .closeObject :: after =>
          return ⟨choice, after, by
            have := unit.shorter
            simp_all only [List.length_cons]
            omega⟩
      | after => punctuationFault after
  | .openObject :: .string (some name) :: rest => do
      let _ ← chooseName choose? known name
      punctuationFault rest
  | .openObject :: .brokenString wanted _ :: _ => textFault wanted
  | .openObject :: rest => punctuationFault rest
  | input => punctuationFault input

/-- Read a whole text as one value. -/
def readAll (reader : Reader α) (text : String) : Except ReadFault α := do
  let taken ← reader (tokens text.toList)
  match taken.rest with
  | [] => return taken.value
  | _ :: _ => textFault .malformed

end IsaUsage.Json
