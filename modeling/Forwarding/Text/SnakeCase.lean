import Forwarding.Text.LetterCase
import Forwarding.Text.Pieces

/-!
# Snake case

A name is cut into words, which are written in lower case and joined by underscores.

* A name is first cut at every hyphen, underscore and blank.
* Each piece is then cut between letters of different kinds: from lower to upper case, between
  digits and other characters, and before the last of several capitals if a small letter follows
  it (`cuts`).
* The places of the cuts are counted in characters, except that the last pair of characters is
  placed from the end in bytes; all are applied as byte offsets.  So beyond ASCII a cut can move,
  and one that falls inside a character makes the name unusable (`cutAt`).

`snakeCase` is the whole rule.
-/

namespace Forwarding.Text

/-- A character that separates words and belongs to none. -/
def isWordSeparator (c : Char) : Bool := c == '-' || c == '_' || c == ' '

/-- The marks of ASCII, underscore included. -/
def isAsciiMark (c : Char) : Bool :=
  33 ≤ c.toNat && c.toNat < 127 && !c.isAlphanum

/-- Neither a digit nor a mark of ASCII. -/
def isWordLetter (c : Char) : Bool := !c.isDigit && !isAsciiMark c

/-- Whether a word ends between two neighbours: before a capital after a small letter, and between
a digit and a letter. -/
def splitsBetween (c d : Char) : Bool :=
  (isLowercase c && isUppercase d) || (c.isDigit && isWordLetter d) ||
    (isWordLetter c && d.isDigit)

/-- Whether a word ends before the second of three neighbours. -/
def splitsWithin (c d e : Char) : Bool :=
  (isUppercase c && isUppercase d && isLowercase e) || splitsBetween c d

/-- The cuts before characters that have another one after them, counted in characters; `index`
is the place of the first character given. -/
def innerCuts (index : Nat) : List Char → List Nat
  | c :: d :: e :: rest =>
      let others := innerCuts (index + 1) (d :: e :: rest)
      if splitsWithin c d e then (index + 1) :: others else others
  | _ => []

/-- The length of a text in bytes. -/
def byteLength : List Char → Nat
  | [] => 0
  | c :: rest => c.utf8Size + byteLength rest

/-- Whether a word ends before the last character. -/
def splitsLast (piece : List Char) : Bool :=
  match piece.reverse with
  | d :: c :: _ => splitsBetween c d
  | _ => false

/-- All cuts of a piece, in ascending order. -/
def cuts (piece : List Char) : List Nat :=
  innerCuts 0 piece ++ if splitsLast piece then [byteLength piece - 1] else []

/-- The byte offsets at which characters start. -/
def characterStarts (offset : Nat) : List Char → List Nat
  | [] => []
  | c :: rest => offset :: characterStarts (offset + c.utf8Size) rest

/-- The text cut before each character that starts at one of the places. -/
def cutBefore (places : List Nat) (offset : Nat) : List Char → List (List Char)
  | [] => [[]]
  | c :: rest =>
      let words :=
        match cutBefore places (offset + c.utf8Size) rest with
        | [] => [[c]]
        | word :: others => (c :: word) :: others
      if places.contains offset then [] :: words else words

/-- The text cut at byte offsets, if each of them is the start of a character. -/
def cutAt (places : List Nat) (text : List Char) : Option (List (List Char)) :=
  if places.all (characterStarts 0 text).contains then some (cutBefore places 0 text) else none

/-- The words of a name in snake case, if no cut falls inside a character. -/
def snakeWords (name : List Char) : Option (List (List Char)) := do
  let words ← (pieces isWordSeparator name).mapM fun piece => cutAt (cuts piece) piece
  return (words.flatten.filter (· ≠ [])).map lower

/-- A name in snake case, if no cut falls inside a character. -/
def snakeCase (name : String) : Option String :=
  (snakeWords name.toList).map fun words => String.ofList (['_'].intercalate words)

end Forwarding.Text
