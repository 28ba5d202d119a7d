import Forwarding.Text.Printable

/-!
# Quoted texts in messages

A text is quoted by double quotes.  Inside, the double quote and the backslash have a backslash
before them; line ends, tab and NUL have an escape of one letter; other characters that are not
printable, and marks that attach to the character before them, are given by their code point.
-/

namespace Forwarding.Text

/-- A digit of a code point. -/
def hexDigit (n : Nat) : Char := if n < 10 then Char.ofNat (48 + n) else Char.ofNat (87 + n)

/-- The hexadecimal digits of a code point, which has at most six. -/
def hexDigits (n : Nat) : List Char :=
  let weights := [0x100000, 0x10000, 0x1000, 0x100, 0x10, 1]
  let digits := weights.map fun weight => hexDigit (n / weight % 16)
  match digits.dropWhile (· == '0') with
  | [] => ['0']
  | significant => significant

/-- A character as it stands inside quotes. -/
def quotedChar (c : Char) : List Char :=
  if c = '"' ∨ c = '\\' then ['\\', c]
  else if c = '\n' then ['\\', 'n']
  else if c = '\r' then ['\\', 'r']
  else if c = '\t' then ['\\', 't']
  else if c = Char.ofNat 0 then ['\\', '0']
  else if isPrintable c && !extendsGrapheme c then [c]
  else '\\' :: 'u' :: '\x7b' :: hexDigits c.toNat ++ ['\x7d']

/-- A text in quotes. -/
def quoted (text : String) : String :=
  String.ofList ('"' :: text.toList.flatMap quotedChar ++ ['"'])

end Forwarding.Text
