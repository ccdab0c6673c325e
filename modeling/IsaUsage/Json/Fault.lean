import IsaUsage.Json.Token
import IsaUsage.Text.Quoted

namespace IsaUsage.Json

/-!
# Why a value cannot be read

Either the text is at fault, or it holds data that does not fit what is wanted.
The first problem from the left counts, of whichever sort it is.
-/

/-- What was found in place of what was wanted. -/
inductive Found where
  | null
  | boolean (value : Bool)
  | number (value : Number)
  | string (text : String)
  | list
  | object

/-- What was wanted. -/
inductive Wanted where
  | count
  | string
  | path
  | list
  | unit
  | record (name : String)
  deriving DecidableEq

/-- Data that does not fit. -/
inductive DataFault where
  | wrongType (found : Found) (wanted : Wanted)
  | wrongValue (found : Found) (wanted : Wanted)
  | missingField (name : String)
  | duplicateField (name : String)
  | tooFew (given : Nat) (wanted : Wanted) (needed : Nat)
  | unknownChoice (name : String) (known : List String)

/-- Why a value cannot be read. -/
inductive ReadFault where
  | text (fault : Fault)
  | data (fault : DataFault)

/-- A word as messages mark it. -/
def marked (text : String) : String :=
  "`" ++ text ++ "`"

/-- What was found, in words. -/
def Found.description : Found → String
  | .null => "null"
  | .boolean value => "boolean " ++ marked (if value then "true" else "false")
  | .number (.natural value) => "integer " ++ marked (Decimal.text value)
  | .number (.negative magnitude) =>
      "integer " ++ marked ("-" ++ Decimal.text magnitude)
  | .number (.floating value) =>
      "floating point " ++ marked (floatingFormat.writeFloat value)
  | .string text => "string " ++ Text.quoted text
  | .list => "sequence"
  | .object => "map"

/-- What was wanted, in words. -/
def Wanted.description : Wanted → String
  | .count => "u64"
  | .string => "a string"
  | .path => "path string"
  | .list => "a sequence"
  | .unit => "unit"
  | .record name => "struct " ++ name

/-- Alternatives in words. -/
def alternatives : List String → String
  | [] => "nothing"
  | [only] => marked only
  | [first, second] => marked first ++ " or " ++ marked second
  | several => "one of " ++ ", ".intercalate (several.map marked)

/-- The text of data that does not fit. -/
def DataFault.message : DataFault → String
  | .wrongType found wanted =>
      "invalid type: " ++ found.description ++ ", expected " ++
        wanted.description
  | .wrongValue found wanted =>
      "invalid value: " ++ found.description ++ ", expected " ++
        wanted.description
  | .missingField name => "missing field " ++ marked name
  | .duplicateField name => "duplicate field " ++ marked name
  | .tooFew given wanted needed =>
      "invalid length " ++ Decimal.text given ++ ", expected " ++
        wanted.description ++ " with " ++ Decimal.text needed ++
        (if needed = 1 then " element" else " elements")
  | .unknownChoice name known =>
      "unknown variant " ++ marked name ++ ", expected " ++ alternatives known

end IsaUsage.Json
