import Forwarding.Json.Fault
import Forwarding.Json.Value

/-!
# Reading typed data from values

Faults are reported in the order of the text, whatever their kind.

* `Place`: where a value stands, and whether all of it was gone through before (`buffered`);
* `readString`, `readBool`, `readOption`, `readList`: the simple types;
* `Shape`, `readRecord`: records, written as objects or as arrays of their fields in order;
* `readKeyed`: the objects that hold the fields of another record beside their own.
-/

namespace Forwarding.Json

/-- Where a value stands: inside how many containers, and whether it was gone through before. -/
structure Place where
  depth : Nat := 0
  buffered : Bool := false
  deriving DecidableEq, Repr

/-- A reader of a type. -/
abbrev Reader (α : Type) := Place → Value → Except ReadFault α

/-- A fault of the text. -/
def textFault {α : Type} (fault : TextFault) : Except ReadFault α := .error (.text fault)

/-- A fault of the data. -/
def dataFault {α : Type} (fault : DataFault) : Except ReadFault α := .error (.data fault)

/-- Goes through a value that is kept for later. -/
def Value.buffer (value : Value) (place : Place) : Except ReadFault Unit :=
  (value.check (.reading place.depth)).mapError .text

/-- Goes past a value that nobody wants. -/
def Value.skip (value : Value) : Except ReadFault Unit := (value.check .skipping).mapError .text

/-- The place inside one more container. -/
def Place.enter (place : Place) : Except ReadFault Place :=
  if place.depth < depthLimit then .ok { place with depth := place.depth + 1 }
  else textFault .malformed

/-- The end of a container. -/
def finish : Option Break → Except ReadFault Unit
  | none => .ok ()
  | some fault => textFault fault.read

/-- What a value that is not wanted is. -/
def Value.found : Value → Except ReadFault Found
  | .null => .ok .null
  | .bool flag => .ok (.bool flag)
  | .number digits =>
      match digits.value? with
      | some value => .ok (.number value)
      | none => textFault .malformed
  | .string (some text) => .ok (.string text)
  | .string none => textFault .malformed
  | .array .. => .ok .sequence
  | .object .. => .ok .map
  | .broken fault => textFault fault.read

/-- The fault of a value where something else is expected. -/
def Value.unexpected {α : Type} (value : Value) (expected : String) : Except ReadFault α := do
  let found ← value.found
  dataFault (.wrongType found expected)

/-- A string. -/
def readString : Reader String := fun _ value =>
  match value with
  | .string (some text) => .ok text
  | value => value.unexpected "a string"

/-- A truth value. -/
def readBool : Reader Bool := fun _ value =>
  match value with
  | .bool value => .ok value
  | value => value.unexpected "a boolean"

/-- A value that may be null. -/
def readOption {α : Type} (read : Reader α) : Reader (Option α) := fun place value =>
  match value with
  | .null => .ok none
  | value => (read place value).map some

/-- A list. -/
def readList {α : Type} (read : Reader α) : Reader (List α) := fun place value =>
  match value with
  | .array items ending => do
      let inner ← place.enter
      let items ← items.mapM (read inner)
      finish ending
      return items
  | value => value.unexpected "a sequence"

/-! ### Records -/

/-- The fields of a record: its title in messages, the keys in declaration order, and which of
them have to be there. -/
structure Shape (κ : Type) where
  title : String
  keys : List κ
  text : κ → String
  required : κ → Bool

/-- The values that the fields have so far. -/
abbrev Fields {κ : Type} (α : κ → Type) := (key : κ) → Option (α key)

namespace Shape

variable {κ : Type} [DecidableEq κ] {α : κ → Type}

/-- The key with a given spelling. -/
def key? (shape : Shape κ) (text : String) : Option κ :=
  shape.keys.find? fun key => shape.text key = text

/-- The fields with one more value. -/
def set (fields : Fields α) (key : κ) (value : α key) : Fields α := fun other =>
  if same : other = key then some (same ▸ value) else fields other

/-- The value of a field that has to be there. -/
def require (shape : Shape κ) (fields : Fields α) (key : κ) : Except ReadFault (α key) :=
  match fields key with
  | some value => .ok value
  | none => dataFault (.missingField (shape.text key))

/-- The title with the number of fields. -/
def lengthTitle (shape : Shape κ) : String := shape.title ++ " with " ++ elements shape.keys.length

/-- Entries of an object.  Keys of the record occur once; what becomes of the values of other
keys is up to `other`. -/
def readEntries (shape : Shape κ) (read : (key : κ) → Value → Except ReadFault (α key))
    (other : Value → Except ReadFault Unit) (fields : Fields α) :
    List (Option String × Value) → Except ReadFault (Fields α)
  | [] => .ok fields
  | (none, _) :: _ => textFault .malformed
  | (some text, value) :: rest =>
      match shape.key? text with
      | none => do
          other value
          shape.readEntries read other fields rest
      | some key =>
          if (fields key).isSome then dataFault (.duplicateField text)
          else do
            let field ← read key value
            shape.readEntries read other (set fields key field) rest

/-- Items of an array, one for each of the keys.  Items that are not required may be missing at the
end. -/
def readItems (shape : Shape κ) (read : (key : κ) → Value → Except ReadFault (α key))
    (ending : Option Break) (index : Nat) (fields : Fields α) :
    List κ → List Value → Except ReadFault (Fields α × List Value)
  | [], items => .ok (fields, items)
  | key :: keys, value :: items => do
      let field ← read key value
      shape.readItems read ending (index + 1) (set fields key field) keys items
  | key :: keys, [] => do
      finish ending
      if shape.required key then dataFault (.wrongLength index shape.lengthTitle)
      else shape.readItems read ending (index + 1) fields keys []

/-- What follows the items of a record: nothing.  The length of an array that was gone through
before is known. -/
def finishItems (shape : Shape κ) (place : Place) (ending : Option Break) (rest : List Value) :
    Except ReadFault Unit :=
  if rest.isEmpty then finish ending
  else if place.buffered then
    dataFault (.wrongLength (shape.keys.length + rest.length)
      (elements shape.keys.length ++ " in sequence"))
  else textFault .malformed

/-- The fields of a record that is written as an object or as an array. -/
def readRecord (shape : Shape κ) (read : (key : κ) → Reader (α key)) : Reader (Fields α) :=
  fun place value =>
    match value with
    | .object entries ending => do
        let inner ← place.enter
        let fields ← shape.readEntries (read · inner) Value.skip (fun _ => none) entries
        finish ending
        return fields
    | .array items ending => do
        let inner ← place.enter
        let (fields, rest) ← shape.readItems (read · inner) ending 0 (fun _ => none)
          shape.keys items
        shape.finishItems place ending rest
        return fields
    | value => value.unexpected shape.title

/-- The fields of a record that is written as an object together with those of another record:
the own fields, and the object of all other entries, which are kept for later. -/
def readKeyed (shape : Shape κ) (read : (key : κ) → Reader (α key)) : Reader (Fields α × Value) :=
  fun place value =>
    match value with
    | .object entries ending => do
        let inner ← place.enter
        let fields ← shape.readEntries (read · inner) (·.buffer inner) (fun _ => none) entries
        finish ending
        let others := entries.filter fun entry => (entry.1.bind shape.key?).isNone
        return (fields, .object others none)
    | value => value.unexpected shape.title

end Shape

/-! ### Documents -/

/-- A text that holds one value and nothing else. -/
def readDocument {α : Type} (read : Reader α) (text : String) : Except ReadFault α :=
  match document (tokens text.toList) with
  | (value, rest) => do
      let result ← read {} value
      if rest.isEmpty then return result else textFault .malformed

end Forwarding.Json
