/-!
# Numbers of JSON

* `Number`: a number by its digits;
* `Number.value?`: its value.  Integers of 64 bits are exact; all others are floating point, made
  from the first digits that fit into 64 bits and a power of ten, which is not always the nearest
  value.
-/

namespace Forwarding.Json

/-- A number as it is written. -/
structure Number where
  negative : Bool := false
  whole : List Char := []
  fraction : List Char := []
  exponentNegative : Bool := false
  exponent : List Char := []
  deriving DecidableEq, Repr

/-- The value of a number. -/
inductive NumberValue where
  | natural (n : Nat)
  /-- The number `-n`, where `n` is not zero. -/
  | negative (n : Nat)
  | float (value : Float)

/-- The greatest natural number of 64 bits. -/
def greatestNatural : Nat := 0xffffffffffffffff

/-- The greatest exponent that is told from others. -/
def greatestExponent : Nat := 0x7fffffff

/-- The value of a digit. -/
def digitValue (c : Char) : Nat := c.toNat - 48

/-- The digits joined to a number as long as it fits into 64 bits, and the digits left over. -/
def accumulate (significand : Nat) : List Char → Nat × List Char
  | [] => (significand, [])
  | c :: rest =>
      let next := significand * 10 + digitValue c
      if next > greatestNatural then (significand, c :: rest) else accumulate next rest

/-- A value times a power of ten, if it is not too great.  A power beyond the table is applied in
parts, at most `count` of them. -/
def scaled : Nat → Float → Int → Option Float
  | 0, value, _ => some value
  | count + 1, value, exponent =>
      if exponent.natAbs ≤ 308 then
        let power := Float.ofScientific 1 false exponent.natAbs
        if exponent < 0 then some (value / power)
        else if (value * power).isInf then none
        else some (value * power)
      else if value == 0 then some value
      else if exponent ≥ 0 then none
      else scaled count (value / Float.ofScientific 1 false 308) (exponent + 308)

/-- The floating-point value of a significand with a power of ten and the written exponent.  Three
parts take any significand to zero. -/
def Number.float? (number : Number) (significand : Nat) (power : Int) : Option Float :=
  let written := (accumulate 0 number.exponent).1
  let magnitude :=
    if written > greatestExponent then
      if significand ≠ 0 ∧ !number.exponentNegative then none else some 0
    else
      scaled 4 significand.toUInt64.toFloat
        (if number.exponentNegative then power - written else power + written)
  magnitude.map fun value => if number.negative then -value else value

/-- The value of a number, unless it is too great for a floating-point value. -/
def Number.value? (number : Number) : Option NumberValue :=
  let (significand, dropped) := accumulate 0 number.whole
  if dropped = [] ∧ number.fraction = [] ∧ number.exponent = [] then
    if !number.negative then some (.natural significand)
    else if significand ≠ 0 ∧ significand ≤ 0x8000000000000000 then some (.negative significand)
    else some (.float (-significand.toUInt64.toFloat))
  else
    let (significand, ignored) := accumulate significand number.fraction
    let kept : Int := number.fraction.length - ignored.length
    (number.float? significand (dropped.length - kept)).map .float

end Forwarding.Json
