import Forwarding.Decimal.Layout
import Forwarding.Json.Token
import Forwarding.Text.Quoted

/-!
# Why a document cannot be read

* `Found`: what stands where something else is wanted;
* `DataFault`: well-formed text that does not say what is wanted, with its wording;
* `ReadFault`: that, or a fault of the text.
-/

namespace Forwarding.Json

/-- What stands in a document. -/
inductive Found where
  | null
  | bool (value : Bool)
  | number (value : NumberValue)
  | string (text : String)
  | sequence
  | map

/-- Numbers in messages: positional from `0.00001` to below `10 ^ 16`, and otherwise with a signed
exponent. -/
def numberLayout : Decimal.Layout := ⟨-5, 15⟩

/-- A number in a message. -/
def NumberValue.description : NumberValue → String
  | .natural n => "integer `" ++ toString n ++ "`"
  | .negative n => "integer `-" ++ toString n ++ "`"
  | .float value => "floating point `" ++ numberLayout.float value ++ "`"

/-- What was found, in a message. -/
def Found.description : Found → String
  | .null => "null"
  | .bool value => "boolean `" ++ toString value ++ "`"
  | .number value => value.description
  | .string text => "string " ++ Text.quoted text
  | .sequence => "sequence"
  | .map => "map"

/-- Why well-formed text does not say what is wanted. -/
inductive DataFault where
  | wrongType (found : Found) (expected : String)
  | wrongLength (length : Nat) (expected : String)
  | unknownVariant (name : String) (known : List String)
  | variantOutOfRange (index count : Nat)
  | duplicateField (key : String)
  | missingField (key : String)

/-- A number of things, in a message. -/
def elements (count : Nat) : String :=
  toString count ++ if count = 1 then " element" else " elements"

/-- The wording of a fault. -/
def DataFault.message : DataFault → String
  | .wrongType found expected =>
      "invalid type: " ++ found.description ++ ", expected " ++ expected
  | .wrongLength length expected =>
      "invalid length " ++ toString length ++ ", expected " ++ expected
  | .unknownVariant name known =>
      "unknown variant `" ++ name ++ "`, expected one of " ++
        ", ".intercalate (known.map fun name => "`" ++ name ++ "`")
  | .variantOutOfRange index count =>
      "invalid value: integer `" ++ toString index ++ "`, expected variant index 0 <= i < " ++
        toString count
  | .duplicateField key => "duplicate field `" ++ key ++ "`"
  | .missingField key => "missing field `" ++ key ++ "`"

/-- Why a document cannot be read. -/
inductive ReadFault where
  | text (fault : TextFault)
  | data (fault : DataFault)

/-- The wording of a fault in the data. -/
def ReadFault.message? : ReadFault → Option String
  | .text _ => none
  | .data fault => some fault.message

end Forwarding.Json
