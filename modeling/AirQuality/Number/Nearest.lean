import AirQuality.Number.Power

/-!
# Rounding quotients to floating-point numbers

A quotient of natural numbers is rounded to the nearest double-precision number, a half to the even
neighbour, by exact integer arithmetic. Integers, quotients of integers, decimal numerals and
roundings to a few places are all read off this one function.

* `roundHalfEven num den`: the nearest natural number to `num / den`
* `nearest num den`: the nearest double to `num / den`, infinity when it is too large
-/

namespace AirQuality.Number

/-- The nearest natural number to `num / den`; a half goes to the even neighbour. -/
def roundHalfEven (num den : Nat) : Nat :=
  let q := num / den
  let r := num % den
  if 2 * r < den then q
  else if den < 2 * r then q + 1
  else q + q % 2

/-- The rounded quotient is one of the two integers around the quotient. -/
theorem roundHalfEven_bounds (num den : Nat) :
    num / den ≤ roundHalfEven num den ∧ roundHalfEven num den ≤ num / den + 1 := by
  unfold roundHalfEven
  simp only
  have := Nat.mod_two_eq_zero_or_one (num / den)
  split
  · omega
  · split <;> omega

/-- The exponent of the last bit that a double has room for, for numbers in `[2 ^ e, 2 ^ (e +
1))`. -/
def lastBit (e : Int) : Int :=
  max (e - 52) (-1074)

/-- The greatest `e` with `2 ^ e ≤ num / den`, for positive arguments. -/
def binaryExponent (num den : Nat) : Int :=
  -- The difference of the bit lengths is right or one too great.
  let e : Int := (num.log2 : Int) - (den.log2 : Int)
  let fits : Bool :=
    if 0 ≤ e then decide (den <<< e.toNat ≤ num) else decide (den ≤ num <<< (-e).toNat)
  if fits then e else e - 1

/-- The bits of the nearest double to a positive quotient. Carries out of the fraction run into the
exponent on their own, because the bits of positive doubles count upwards with their values. -/
def nearestBits (num den : Nat) : Nat :=
  let last := lastBit (binaryExponent num den)
  -- The quotient in units of the last bit; the hidden bit adds one to the exponent field.
  let units :=
    if 0 ≤ last then roundHalfEven num (den <<< last.toNat)
    else roundHalfEven (num <<< (-last).toNat) den
  (last + 1074).toNat * twoTo 52 + units

/-- The bits of positive infinity, above those of every finite double. -/
def infinityBits : Nat := 0x7ff * twoTo 52

/-- Positive infinity. -/
def infinity : Float := Float.ofBits infinityBits.toUInt64

/-- The number that is not a number. -/
def notANumber : Float := Float.ofBits 0x7ff8000000000000

/-- The nearest double to `num / den` for positive `den`: infinity from half a unit above the
greatest finite double. -/
def nearest (num den : Nat) : Float :=
  if num = 0 then 0.0 else Float.ofBits (min (nearestBits num den) infinityBits).toUInt64

/-- The number with its sign changed if asked for; zero gets a sign as well. -/
def withSign (negative : Bool) (x : Float) : Float :=
  if negative then -x else x

/-- The nearest double to an integer, if it is finite. -/
def floatOfInt? (n : Int) : Option Float :=
  let x := nearest n.natAbs 1
  if x.isInf then none else some (withSign (n < 0) x)

/-- The nearest double to a quotient of integers, if it is finite. -/
def quotient? (n : Int) (d : Nat) : Option Float :=
  let x := nearest n.natAbs d
  if x.isInf then none else some (withSign (n < 0) x)

/-- A finite double taken apart: plus or minus `mantissa * 2 ^ exponent`. -/
structure Dyadic where
  negative : Bool
  mantissa : Nat
  exponent : Int
  /-- The fraction field is zero and the exponent field is not the least: the next double towards
  zero is nearer than the next one away from it. -/
  onBinade : Bool
deriving Repr, DecidableEq

/-- Takes a double apart; `none` for infinities and for what is not a number. -/
def Dyadic.ofFloat? (x : Float) : Option Dyadic :=
  let bits := x.toBits.toNat
  let negative := decide (twoTo 63 ≤ bits)
  let field : Nat := bits / twoTo 52 % twoTo 11
  let fraction : Nat := bits % twoTo 52
  if field = 2047 then none
  -- Below the normal range there is no hidden bit.
  else if field = 0 then some ⟨negative, fraction, -1074, false⟩
  else some ⟨negative, fraction + twoTo 52, (field : Int) - 1075, fraction == 0 && field != 1⟩

/-- Numerator of the magnitude, over `Dyadic.den`. -/
def Dyadic.num (d : Dyadic) : Nat := d.mantissa <<< d.exponent.toNat

/-- Denominator of the magnitude. -/
def Dyadic.den (d : Dyadic) : Nat := 1 <<< (-d.exponent).toNat

/-- The nearest double to the number rounded to a count of decimal places; a half goes to the even
digit. The sign of zero is kept, and what is not finite stays as it is. -/
def roundPlaces (places : Nat) (x : Float) : Float :=
  match Dyadic.ofFloat? x with
  | none => x
  | some d =>
    withSign d.negative (nearest (roundHalfEven (d.num * tenTo places) d.den) (tenTo places))

end AirQuality.Number
