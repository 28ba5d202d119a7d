import Forwarding.Json.Number
import Forwarding.Text.SnakeCase

/-!
# Tokens of JSON

The tokens of a text, up to the first place where the text is none.  Faults are part of the result,
for whether they matter depends on who reads: a value that nobody wants is skipped with less care.

* `TextFault`, `Break`: what is wrong with a text, for a reader and for one who skips;
* `Token`, `tokens`: the tokens of a text, by an automaton that takes one character at a time
  (`Mode`, `tokensFrom`).
-/

namespace Forwarding.Json

/-- What is wrong with a text: it cannot be continued to a document, or it ends too early. -/
inductive TextFault where
  | malformed
  | truncated
  deriving DecidableEq, Repr

/-- The fault at which a text breaks off, for a reader and for one who skips. -/
structure Break where
  read : TextFault
  skip : TextFault
  deriving DecidableEq, Repr

/-- A text that breaks off in the same way for all. -/
def Break.of (fault : TextFault) : Break := ⟨fault, fault⟩

/-- A token. -/
inductive Token where
  | openObject
  | closeObject
  | openArray
  | closeArray
  | comma
  | colon
  | null
  | bool (value : Bool)
  | number (number : Number)
  /-- A string; it has no text if an escape for half of a character stands alone. -/
  | string (text : Option String)
  /-- A string that breaks off. -/
  | brokenString (fault : Break)
  /-- Anything else that breaks off or begins no token. -/
  | broken (fault : Break)
  deriving DecidableEq, Repr

/-! ### Strings -/

/-- Where one stands in a string.  An escape may follow one for the first half of a character. -/
inductive StringPart where
  | plain
  | escape (high : Option Nat)
  | hex (missing : Nat) (value : Nat) (high : Option Nat)
  | half (high : Nat)
  deriving DecidableEq, Repr

/-- What comes of one more character. -/
inductive StringStep where
  | more (part : StringPart) (text : Option (List Char))
  | done (text : Option (List Char))
  | fault (fault : TextFault)

/-- The value of a hexadecimal digit. -/
def hexValue? (c : Char) : Option Nat :=
  if c.isDigit then some (c.toNat - 48)
  else if 'a' ≤ c ∧ c ≤ 'f' then some (c.toNat - 87)
  else if 'A' ≤ c ∧ c ≤ 'F' then some (c.toNat - 55)
  else none

/-- The character that a backslash and a letter stand for. -/
def escaped? : Char → Option Char
  | '"' => some '"'
  | '\\' => some '\\'
  | '/' => some '/'
  | 'b' => some (Char.ofNat 8)
  | 'f' => some (Char.ofNat 12)
  | 'n' => some '\n'
  | 'r' => some '\r'
  | 't' => some '\t'
  | _ => none

/-- Whether a code unit is the first half of a character. -/
def isHighUnit (unit : Nat) : Bool := 0xd800 ≤ unit && unit < 0xdc00

/-- Whether a code unit is the second half of a character. -/
def isLowUnit (unit : Nat) : Bool := 0xdc00 ≤ unit && unit < 0xe000

/-- The text, last character first, with one more character. -/
def push (text : Option (List Char)) (c : Char) : Option (List Char) := text.map (c :: ·)

/-- After the last digit of an escape. -/
def unitStep (text : Option (List Char)) (unit : Nat) : Option Nat → StringStep
  | none =>
      if isLowUnit unit then .more .plain none
      else if isHighUnit unit then .more (.half unit) text
      else .more .plain (push text (Char.ofNat unit))
  | some high =>
      if isLowUnit unit then
        .more .plain
          (push text (Char.ofNat (0x10000 + (high - 0xd800) * 0x400 + (unit - 0xdc00))))
      else .more .plain none

/-- One more character of a string; `rest` is what follows it. -/
def stringStep (text : Option (List Char)) (c : Char) (rest : List Char) :
    StringPart → StringStep
  | .plain =>
      if c = '"' then .done text
      else if c = '\\' then .more (.escape none) text
      else if c.toNat < 32 then .fault .malformed
      else .more .plain (push text c)
  | .half high =>
      if c = '\\' then .more (.escape (some high)) text
      else if c = '"' then .done none
      else if c.toNat < 32 then .fault .malformed
      else .more .plain none
  | .escape high =>
      if c = 'u' then
        if Text.byteLength (rest.take 4) < 4 then .fault .truncated else .more (.hex 4 0 high) text
      else
        match escaped? c with
        | some d => .more .plain (if high.isSome then none else push text d)
        | none => .fault .malformed
  | .hex missing value high =>
      match hexValue? c with
      | none => .fault .malformed
      | some digit =>
          if missing ≤ 1 then unitStep text (value * 16 + digit) high
          else .more (.hex (missing - 1) (value * 16 + digit) high) text

/-- The token of a string that breaks off.  If half of a character stood alone before, the reader
has met that fault first. -/
def brokenString (text : Option (List Char)) (fault : TextFault) : Token :=
  .brokenString ⟨if text.isNone then .malformed else fault, fault⟩

/-! ### Numbers -/

/-- Where one stands in a number. -/
inductive NumberPart where
  | sign
  | zero
  | whole
  | point
  | fraction
  | exponent
  | exponentSign
  | exponentDigits
  deriving DecidableEq, Repr

/-- Whether a number may end here. -/
def NumberPart.isEnd : NumberPart → Bool
  | .zero | .whole | .fraction | .exponentDigits => true
  | _ => false

/-- The part of a number that one more character leads to, if it belongs to the number. -/
def NumberPart.next? (part : NumberPart) (c : Char) : Option NumberPart :=
  match part with
  | .sign => if c = '0' then some .zero else if c.isDigit then some .whole else none
  | .zero => if c = '.' then some .point else if c = 'e' ∨ c = 'E' then some .exponent else none
  | .whole =>
      if c.isDigit then some .whole else if c = '.' then some .point
      else if c = 'e' ∨ c = 'E' then some .exponent else none
  | .point => if c.isDigit then some .fraction else none
  | .fraction =>
      if c.isDigit then some .fraction else if c = 'e' ∨ c = 'E' then some .exponent else none
  | .exponent =>
      if c = '+' ∨ c = '-' then some .exponentSign
      else if c.isDigit then some .exponentDigits else none
  | .exponentSign | .exponentDigits => if c.isDigit then some .exponentDigits else none

/-- The number with one more character, which belongs to the part given. -/
def Number.extend (number : Number) (c : Char) : NumberPart → Number
  | .zero | .whole => { number with whole := number.whole ++ [c] }
  | .fraction => { number with fraction := number.fraction ++ [c] }
  | .exponentSign => { number with exponentNegative := c == '-' }
  | .exponentDigits => { number with exponent := number.exponent ++ [c] }
  | .sign | .point | .exponent => number

/-! ### The automaton -/

/-- Where one stands in a text. -/
inductive Mode where
  | between
  /-- In a word, of which these letters are missing. -/
  | word (missing : List Char) (token : Token)
  | number (part : NumberPart) (number : Number)
  | string (part : StringPart) (text : Option (List Char))
  | stopped
  deriving DecidableEq, Repr

/-- White space between tokens. -/
def isSpace (c : Char) : Bool := c == ' ' || c == '\t' || c == '\n' || c == '\r'

/-- A character outside of tokens: the token that it is, if it is one, and where it leads. -/
def opening (c : Char) : List Token × Mode :=
  if isSpace c then ([], .between)
  else if c = '"' then ([], .string .plain (some []))
  else if c = '-' then ([], .number .sign { negative := true })
  else if c = '0' then ([], .number .zero { whole := [c] })
  else if c.isDigit then ([], .number .whole { whole := [c] })
  else match c with
    | '\x7b' => ([.openObject], .between)
    | '\x7d' => ([.closeObject], .between)
    | '[' => ([.openArray], .between)
    | ']' => ([.closeArray], .between)
    | ',' => ([.comma], .between)
    | ':' => ([.colon], .between)
    | 'n' => ([], .word "ull".toList .null)
    | 't' => ([], .word "rue".toList (.bool true))
    | 'f' => ([], .word "alse".toList (.bool false))
    | _ => ([.broken (.of .malformed)], .stopped)

/-- One more character: the tokens that it completes, and where it leads. -/
def advance (c : Char) (rest : List Char) : Mode → List Token × Mode
  | .between => opening c
  | .stopped => ([], .stopped)
  | .word [] token => ([token], .stopped)
  | .word (expected :: missing) token =>
      if c ≠ expected then ([.broken (.of .malformed)], .stopped)
      else if missing = [] then ([token], .between)
      else ([], .word missing token)
  | .number part number =>
      match part.next? c with
      | some next => ([], .number next (number.extend c next))
      | none =>
          if part.isEnd ∧ !(part = .zero ∧ c.isDigit) then
            let (tokens, mode) := opening c
            (.number number :: tokens, mode)
          else ([.broken (.of .malformed)], .stopped)
  | .string part text =>
      match stringStep text c rest part with
      | .more part text => ([], .string part text)
      | .done text => ([.string (text.map fun text => String.ofList text.reverse)], .between)
      | .fault fault => ([brokenString text fault], .stopped)

/-- The tokens that the end of the text completes. -/
def Mode.finish : Mode → List Token
  | .between | .stopped => []
  | .word _ _ => [.broken (.of .truncated)]
  | .number part digits =>
      if part.isEnd then [.number digits] else [.broken ⟨.truncated, .malformed⟩]
  | .string _ text => [brokenString text .truncated]

/-- The tokens of what is left of a text. -/
def tokensFrom (mode : Mode) : List Char → List Token
  | [] => mode.finish
  | c :: rest =>
      let (tokens, next) := advance c rest mode
      tokens ++ tokensFrom next rest

/-- The tokens of a text. -/
def tokens (text : List Char) : List Token := tokensFrom .between text

end Forwarding.Json
