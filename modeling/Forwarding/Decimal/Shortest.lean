/-!
# The fewest digits that name a binary fraction

A finite binary64 value stands for all reals that round to it, an interval around `m * 2 ^ q`
whose ends belong to it exactly when `m` is even.

* `Binary`: a value by `m` and `q`;
* `Binary.covers`: whether a decimal lies in the interval;
* `Binary.shortest`: a decimal of the fewest digits in the interval, and of those the nearest.
-/

namespace Forwarding.Decimal

/-- The value `mantissa * 2 ^ exponent`.  Just above a power of two the neighbour below is nearer
than the one above. -/
structure Binary where
  mantissa : Nat
  exponent : Int
  narrowBelow : Bool

/-- Two to a power; one for a negative exponent. -/
def twos (exponent : Int) : Nat := Nat.pow 2 exponent.toNat

/-- Ten to a power; one for a negative exponent. -/
def tens (exponent : Int) : Nat := Nat.pow 10 exponent.toNat

/-- A finite binary64 value, its sign left out, from its bits. -/
def Binary.ofBits (bits : UInt64) : Binary :=
  let exponent := ((bits >>> 52) &&& 0x7FF).toNat
  let fraction := (bits &&& 0xFFFFFFFFFFFFF).toNat
  if exponent = 0 then ⟨fraction, -1074, false⟩
  else ⟨twos 52 + fraction, exponent - 1075, fraction == 0 && exponent > 1⟩

/-- The decimal `digits * 10 ^ exponent`. -/
structure Scaled where
  digits : Nat
  exponent : Int
  deriving DecidableEq, Repr

/-- Compares `quarters / 4 * 2 ^ q` with a decimal. -/
def Binary.compareQuarters (value : Binary) (quarters : Nat) (decimal : Scaled) : Ordering :=
  let q := value.exponent - 2
  compare (quarters * twos q * tens (-decimal.exponent))
    (decimal.digits * tens decimal.exponent * twos (-q))

/-- Whether the decimal rounds to the value. -/
def Binary.covers (value : Binary) (decimal : Scaled) : Bool :=
  let m := value.mantissa
  let below := value.compareQuarters (if value.narrowBelow then 4 * m - 1 else 4 * m - 2) decimal
  let above := value.compareQuarters (4 * m + 2) decimal
  let even := m % 2 == 0
  (below == .lt || (even && below == .eq)) && (above == .gt || (even && above == .eq))

/-- The greatest multiple of `10 ^ exponent` that does not exceed the value, divided by it. -/
def Binary.floor (value : Binary) (exponent : Int) : Nat :=
  value.mantissa * twos value.exponent * tens (-exponent) /
    (twos (-value.exponent) * tens exponent)

/-- The least `k` with the value less than `10 ^ k`. -/
def Binary.magnitude (value : Binary) : Int :=
  if value.floor 0 ≠ 0 then (Nat.toDigits 10 (value.floor 0)).length
  else
    match (List.range 324).find? fun (place : Nat) => value.floor (-(place : Int) - 1) ≠ 0 with
    | some place => -(place : Int)
    | none => 0

/-- The nearer of the two multiples of `10 ^ exponent` around the value that rounds to it. -/
def Binary.onGrid (value : Binary) (exponent : Int) : Option Scaled :=
  let low : Scaled := ⟨value.floor exponent, exponent⟩
  let high : Scaled := ⟨value.floor exponent + 1, exponent⟩
  match value.covers low, value.covers high with
  | true, true =>
      match value.compareQuarters (8 * value.mantissa) ⟨low.digits + high.digits, exponent⟩ with
      | .lt => some low
      | .gt => some high
      | .eq => some (if low.digits % 2 = 0 then low else high)
  | true, false => some low
  | false, true => some high
  | false, false => none

/-- The decimal of the fewest digits that rounds to the value.  Seventeen digits are enough. -/
def Binary.shortest (value : Binary) : Scaled :=
  match (List.range 17).findSome? fun (count : Nat) =>
      value.onGrid (value.magnitude - count - 1) with
  | some decimal => decimal
  | none => ⟨value.floor value.exponent, value.exponent⟩

end Forwarding.Decimal
