import Forwarding.Decimal.Shortest

/-!
# How decimals are laid out

* `Layout`: the decisions of a format;
* `Layout.float`: a finite binary64 value in a format.
-/

namespace Forwarding.Decimal

/-- The decisions of a format: the exponents from `least` to `greatest` are written positionally,
and the others with their sign. -/
structure Layout where
  least : Int
  greatest : Int

/-- The digits with a point after the first `before` of them, filled up by zeros, and at least one
digit on either side. -/
def positional (digits : List Char) (before : Int) : List Char :=
  let whole := digits.take before.toNat ++ List.replicate (before.toNat - digits.length) '0'
  let fraction := List.replicate (-before).toNat '0' ++ digits.drop before.toNat
  (if whole = [] then ['0'] else whole) ++ '.' :: (if fraction = [] then ['0'] else fraction)

/-- The first digit, the others after a point, and the exponent with its sign. -/
def scientific (digits : List Char) (exponent : Int) : List Char :=
  digits.take 1 ++ (if digits.length ≤ 1 then [] else '.' :: digits.drop 1) ++
    'e' :: (if exponent < 0 then '-' else '+') :: Nat.toDigits 10 exponent.natAbs

/-- A finite value, written with the fewest digits that name it. -/
def Layout.float (layout : Layout) (value : Float) : String :=
  let bits := value.toBits
  let sign := if bits >>> 63 = 0 then [] else ['-']
  let binary := Binary.ofBits bits
  let text :=
    if binary.mantissa = 0 then ['0', '.', '0']
    else
      let decimal := binary.shortest
      let all := Nat.toDigits 10 decimal.digits
      let digits := (all.reverse.dropWhile (· == '0')).reverse
      let exponent := decimal.exponent + all.length - 1
      if layout.least ≤ exponent ∧ exponent ≤ layout.greatest then
        positional digits (exponent + 1)
      else scientific digits exponent
  String.ofList (sign ++ text)

end Forwarding.Decimal
