import Forwarding.Text.CodeRanges

/-!
# White space

* `isBlank`: the characters with the property White_Space;
* `trimEnd`: a text without the white space at its end.
-/

namespace Forwarding.Text

/-- The characters beyond ASCII with the property White_Space. -/
def blankRanges : CodeRanges := [
  (0x85, 0x85), (0xa0, 0xa0), (0x1680, 0x1680), (0x2000, 0x200a), (0x2028, 0x2029),
  (0x202f, 0x202f), (0x205f, 0x205f), (0x3000, 0x3000)]

/-- The property White_Space: tab to carriage return, the blank, and 19 characters beyond ASCII. -/
def isBlank : Char → Bool :=
  ofRule (fun c => c == ' ' || (9 ≤ c.toNat && c.toNat ≤ 13)) blankRanges

/-- The text without the white space at its end. -/
def trimEnd (text : List Char) : List Char :=
  (text.reverse.dropWhile isBlank).reverse

end Forwarding.Text
