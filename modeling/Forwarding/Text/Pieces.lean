/-!
# Cutting texts apart

* `pieces`: the pieces of a text between its separators, one more than there are separators;
* `splitLast`: the text before and after the last separator;
* `beforeSuffix`: what precedes a given ending.
-/

namespace Forwarding.Text

/-- The pieces between separators, empty ones included. -/
def pieces (isSeparator : Char → Bool) : List Char → List (List Char)
  | [] => [[]]
  | c :: rest =>
      if isSeparator c then [] :: pieces isSeparator rest
      else match pieces isSeparator rest with
        | [] => [[c]]
        | piece :: others => (c :: piece) :: others

theorem pieces_ne_nil (isSeparator : Char → Bool) (text : List Char) :
    pieces isSeparator text ≠ [] := by
  induction text with
  | nil => simp [pieces]
  | cons c rest _ =>
    unfold pieces
    split
    · simp
    · split <;> simp

/-- The text before and the text after the last separator, if there is one. -/
def splitLast (separator : Char) : List Char → Option (List Char × List Char)
  | [] => none
  | c :: rest =>
      match splitLast separator rest with
      | some (before, after) => some (c :: before, after)
      | none => if c = separator then some ([], rest) else none

/-- What is left of a text when it ends in `suffix` and this is taken away. -/
def beforeSuffix (suffix text : List Char) : Option (List Char) :=
  if suffix.isSuffixOf text then some (text.take (text.length - suffix.length)) else none

/-- The pieces of a string between occurrences of a character. -/
def stringPieces (separator : Char) (text : String) : List String :=
  (pieces (· == separator) text.toList).map String.ofList

end Forwarding.Text
