import AirQuality.Number.Nearest

/-!
# Shortest decimals

The decimal with the fewest digits that rounds to a given double, and of those with that many
digits the nearest to it (a tie goes to the even digit). A decimal rounds to a double if it lies in
the interval between the midpoints to its neighbours; the midpoints belong to it when the double
has an even mantissa. Seventeen digits always suffice.

* `Decimal`: an integer times a power of ten
* `shortest`: the shortest decimal of the magnitude of a double
-/

namespace AirQuality.Number

/-- `digits * 10 ^ exponent`. -/
structure Decimal where
  digits : Nat
  exponent : Int
deriving Repr, DecidableEq

/-- How many decimal digits a natural number has; zero has one. -/
def decimalLength (n : Nat) : Nat := (Nat.toDigits 10 n).length

/-- The greatest `e` with `10 ^ e ≤ num / den`, for positive arguments. -/
def decimalExponent (num den : Nat) : Int :=
  if den ≤ num then (decimalLength (num / den) : Int) - 1
  else -(decimalLength ((den - 1) / num) : Int)

/-- An interval of quotients over one denominator, with the ends in it or not. -/
structure Interval where
  low : Nat
  high : Nat
  den : Nat
  closed : Bool

/-- Whether `c * 10 ^ p` lies in the interval. -/
def Interval.containsDecimal (i : Interval) (c : Nat) (p : Int) : Bool :=
  let left := c * tenTo p.toNat * i.den
  let scale := tenTo (-p).toNat
  if i.closed then decide (i.low * scale ≤ left) && decide (left ≤ i.high * scale)
  else decide (i.low * scale < left) && decide (left < i.high * scale)

/-- The decimals with `n` digits next to `num / den`, below or equal and above, as far as they are
in the interval: the nearer one, or the even one if both are equally near. -/
def pick? (i : Interval) (num : Nat) (p : Int) : Option Decimal :=
  let scaledNum := num * tenTo (-p).toNat
  let scaledDen := i.den * tenTo p.toNat
  let below := scaledNum / scaledDen
  let rest := scaledNum % scaledDen
  match i.containsDecimal below p, i.containsDecimal (below + 1) p with
  | true, true =>
    let up := decide (scaledDen < 2 * rest) || (decide (2 * rest = scaledDen) && below % 2 == 1)
    some ⟨if up then below + 1 else below, p⟩
  | true, false => some ⟨below, p⟩
  | false, true => some ⟨below + 1, p⟩
  | false, false => none

/-- The reals that round to the magnitude of a double: its neighbours' midpoints and, over the same
denominator, the magnitude itself. -/
def roundingInterval (d : Dyadic) : Interval × Nat :=
  -- In quarters of the last bit the midpoints are whole numbers.
  let q := d.exponent - 2
  let unit := 1 <<< q.toNat
  let value := 4 * d.mantissa
  let low := if d.onBinade then value - 1 else value - 2
  (⟨low * unit, (value + 2) * unit, 1 <<< (-q).toNat, d.mantissa % 2 == 0⟩, value * unit)

/-- The same number without zeros at the end of its digits. -/
def Decimal.trimmed (d : Decimal) : Decimal :=
  if h : 0 < d.digits ∧ d.digits % 10 = 0 then Decimal.trimmed ⟨d.digits / 10, d.exponent + 1⟩
  else d
termination_by d.digits
decreasing_by omega

/-- The shortest decimal that rounds to the magnitude of a double. -/
def shortest (d : Dyadic) : Decimal :=
  if d.mantissa = 0 then ⟨0, 0⟩
  else
    let (interval, num) := roundingInterval d
    let top := decimalExponent num interval.den
    let found := (List.range 17).findSome? fun n : Nat => pick? interval num (top - (n : Int))
    (found.getD ⟨num / interval.den, 0⟩).trimmed

end AirQuality.Number
