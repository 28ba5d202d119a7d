import Forwarding.Json.Token

/-!
# Values of JSON

* `Value`: a value as far as the text goes; objects keep all entries in the order of the text;
* `document`: the value that a list of tokens begins with, and the tokens after it;
* `Value.check`: the first fault that one meets who reads the whole value, or who skips it.

The value is built on a stack of the containers that are open (`Frame`), one token at a time.
-/

namespace Forwarding.Json

/-- A value.  A container may break off before it is closed. -/
inductive Value where
  | null
  | bool (value : Bool)
  | number (number : Number)
  | string (text : Option String)
  | array (items : List Value) (ending : Option Break)
  | object (entries : List (Option String × Value)) (ending : Option Break)
  | broken (fault : Break)

/-- A container that is open, with what it holds so far, last first.  An object also has the key
whose value is awaited. -/
inductive Frame where
  | array (items : List Value)
  | object (entries : List (Option String × Value)) (key : Option String)

/-- What may come next. -/
inductive Awaiting where
  | value
  | itemOrEnd
  | keyOrEnd
  | key
  | colon
  | commaOrEnd
  deriving DecidableEq, Repr

/-- What comes of one more token. -/
inductive Step where
  | more (frames : List Frame) (awaiting : Awaiting)
  | done (value : Value)
  | fault (fault : Break)

/-- A value is complete. -/
def complete (value : Value) : List Frame → Step
  | [] => .done value
  | .array items :: frames => .more (.array (value :: items) :: frames) .commaOrEnd
  | .object entries key :: frames =>
      .more (.object ((key, value) :: entries) none :: frames) .commaOrEnd

/-- The innermost container is closed. -/
def close : List Frame → Step
  | [] => .fault (.of .malformed)
  | .array items :: frames => complete (.array items.reverse none) frames
  | .object entries _ :: frames => complete (.object entries.reverse none) frames

/-- A token where a value is awaited. -/
def valueStep (frames : List Frame) : Token → Step
  | .openObject => .more (.object [] none :: frames) .keyOrEnd
  | .openArray => .more (.array [] :: frames) .itemOrEnd
  | .null => complete .null frames
  | .bool value => complete (.bool value) frames
  | .number number => complete (.number number) frames
  | .string text => complete (.string text) frames
  | .brokenString fault => .fault fault
  | .broken fault => .fault fault
  | _ => .fault (.of .malformed)

/-- A token where a key is awaited. -/
def keyStep (frames : List Frame) : Token → Step
  | .string text =>
      match frames with
      | .object entries _ :: frames => .more (.object entries text :: frames) .colon
      | _ => .fault (.of .malformed)
  | .brokenString fault => .fault fault
  | _ => .fault (.of .malformed)

/-- One more token. -/
def step (frames : List Frame) (token : Token) : Awaiting → Step
  | .value => valueStep frames token
  | .itemOrEnd => if token = .closeArray then close frames else valueStep frames token
  | .key => keyStep frames token
  | .keyOrEnd => if token = .closeObject then close frames else keyStep frames token
  | .colon => if token = .colon then .more frames .value else .fault (.of .malformed)
  | .commaOrEnd =>
      match frames, token with
      | .array _ :: _, .comma => .more frames .value
      | .object .. :: _, .comma => .more frames .key
      | .array _ :: _, .closeArray => close frames
      | .object .. :: _, .closeObject => close frames
      | _, _ => .fault (.of .malformed)

/-- The document whose innermost value is the one given and whose containers break off after it. -/
def breakOff (fault : Break) (value : Value) : List Frame → Value
  | [] => value
  | .array items :: frames =>
      breakOff fault (.array (value :: items).reverse (some fault)) frames
  | .object entries key :: frames =>
      breakOff fault (.object ((key, value) :: entries).reverse (some fault)) frames

/-- The document that breaks off at a place. -/
def stop (fault : Break) : Awaiting → List Frame → Value
  | .value, frames => breakOff fault (.broken fault) frames
  | .colon, frames => breakOff fault (.broken fault) frames
  | _, [] => .broken fault
  | _, .array items :: frames => breakOff fault (.array items.reverse (some fault)) frames
  | _, .object entries _ :: frames =>
      breakOff fault (.object entries.reverse (some fault)) frames

/-- The document that tokens go on with, and the tokens after it. -/
def documentFrom (frames : List Frame) (awaiting : Awaiting) : List Token → Value × List Token
  | [] => (stop (.of .truncated) awaiting frames, [])
  | token :: rest =>
      match step frames token awaiting with
      | .more frames awaiting => documentFrom frames awaiting rest
      | .done value => (value, rest)
      | .fault fault => (stop fault awaiting frames, rest)

/-- The document that tokens begin with, and the tokens after it. -/
def document (tokens : List Token) : Value × List Token := documentFrom [] .value tokens

/-- The most containers that a reader has open at once. -/
def depthLimit : Nat := 127

/-- How a value is gone through: read inside so many containers, or skipped. -/
inductive Care where
  | reading (depth : Nat)
  | skipping
  deriving DecidableEq, Repr

/-- The care inside one more container.  Only a reader has a limit. -/
def Care.enter : Care → Except TextFault Care
  | .reading depth =>
      if depth < depthLimit then .ok (.reading (depth + 1)) else .error .malformed
  | .skipping => .ok .skipping

/-- The fault of a break. -/
def Care.fault (care : Care) (fault : Break) : TextFault :=
  match care with
  | .reading _ => fault.read
  | .skipping => fault.skip

/-- The end of a container. -/
def Care.finish (care : Care) : Option Break → Except TextFault Unit
  | none => .ok ()
  | some fault => .error (care.fault fault)

/-- A string or key.  One without a text can only be skipped. -/
def Care.string (care : Care) (text : Option String) : Except TextFault Unit :=
  if text.isNone ∧ care ≠ .skipping then .error .malformed else .ok ()

/-- A number.  One without a value can only be skipped. -/
def Care.number (care : Care) (number : Number) : Except TextFault Unit :=
  if care ≠ .skipping ∧ number.value?.isNone then .error .malformed else .ok ()

mutual

/-- Goes through a value up to its first fault. -/
def Value.check (care : Care) : Value → Except TextFault Unit
  | .null => .ok ()
  | .bool _ => .ok ()
  | .number number => care.number number
  | .string text => care.string text
  | .broken fault => .error (care.fault fault)
  | .array items ending => do
      let inner ← care.enter
      checkItems inner items
      inner.finish ending
  | .object entries ending => do
      let inner ← care.enter
      checkEntries inner entries
      inner.finish ending

/-- Goes through items up to the first fault. -/
def checkItems (care : Care) : List Value → Except TextFault Unit
  | [] => .ok ()
  | value :: rest => do
      value.check care
      checkItems care rest

/-- Goes through entries up to the first fault. -/
def checkEntries (care : Care) : List (Option String × Value) → Except TextFault Unit
  | [] => .ok ()
  | (key, value) :: rest => do
      care.string key
      value.check care
      checkEntries care rest

end

end Forwarding.Json
