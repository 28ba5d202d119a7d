/-!
# Ranges of code points

A property of characters beyond ASCII is a table of ranges of code points, both ends
included and in ascending order.  ASCII is left out of the tables: each property states its
ASCII part by a rule, so that statements about ASCII names never look into a table.

* `CodeRanges`, `CodeRanges.contains`;
* `ofRule`: a property from its ASCII rule and its table.
-/

namespace Forwarding.Text

/-- Ranges of code points, first and last included. -/
abbrev CodeRanges := List (Nat × Nat)

/-- Whether a character lies in one of the ranges. -/
def CodeRanges.contains (ranges : CodeRanges) (c : Char) : Bool :=
  ranges.any fun range => range.1 ≤ c.toNat && c.toNat ≤ range.2

/-- The property given on ASCII by `ascii` and beyond it by `ranges`. -/
def ofRule (ascii : Char → Bool) (ranges : CodeRanges) (c : Char) : Bool :=
  if c.toNat < 128 then ascii c else ranges.contains c

theorem ofRule_ascii {ascii : Char → Bool} {ranges : CodeRanges} {c : Char}
    (h : c.toNat < 128) : ofRule ascii ranges c = ascii c := by
  simp [ofRule, h]

end Forwarding.Text
