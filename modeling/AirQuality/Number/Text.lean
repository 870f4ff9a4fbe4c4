import AirQuality.Number.Shortest

/-!
# Texts of floating-point numbers

The digits are those of the shortest decimal. They are written positionally when the first digit
stands at a place from `10 ^ -4` up to `10 ^ 15`, and with an exponent of at least two digits
otherwise. What differs from one kind of output to the next is a `FloatStyle`.
-/

namespace AirQuality.Number

/-- The choices of an output format: whether whole numbers keep `.0`, and the texts of what is not
finite. -/
structure FloatStyle where
  keepsPointZero : Bool
  notANumber : String
  infinity : String
  negativeInfinity : String

/-- How numbers are shown in messages and turned into texts. -/
def plainStyle : FloatStyle := ⟨true, "nan", "inf", "-inf"⟩

/-- The place of the first digit from which on numbers get an exponent. -/
def firstExponentPlace : Int := 16

/-- The lowest place of the first digit that is written positionally. -/
def lastPositionalPlace : Int := -4

/-- The exponent with its sign and at least two digits. -/
def exponentChars (e : Int) : List Char :=
  let ds := Nat.toDigits 10 e.natAbs
  (if e < 0 then '-' else '+') :: (List.replicate (2 - ds.length) '0' ++ ds)

/-- Lays out a decimal whose first digit stands at the place `10 ^ place`. -/
def layOut (style : FloatStyle) (ds : List Char) (place : Int) : List Char :=
  if place < lastPositionalPlace ∨ firstExponentPlace ≤ place then
    -- One digit stands in front of the point.
    let fraction := ds.drop 1
    ds.take 1 ++ (if fraction.isEmpty then [] else '.' :: fraction) ++ 'e' :: exponentChars place
  else if place < 0 then
    '0' :: '.' :: (List.replicate (-place - 1).toNat '0' ++ ds)
  else
    let whole := place.toNat + 1
    let fraction := ds.drop whole
    let shown := ds.take whole ++ List.replicate (whole - ds.length) '0'
    if fraction.isEmpty then shown ++ (if style.keepsPointZero then ['.', '0'] else [])
    else shown ++ '.' :: fraction

/-- The text of a double. -/
def floatText (style : FloatStyle) (x : Float) : String :=
  match Dyadic.ofFloat? x with
  | none =>
    if x.isNaN then style.notANumber
    else if x < 0 then style.negativeInfinity else style.infinity
  | some d =>
    let shown := shortest d
    let ds := Nat.toDigits 10 shown.digits
    let place : Int := shown.exponent + (ds.length : Int) - 1
    String.ofList ((if d.negative then ['-'] else []) ++ layOut style ds place)

end AirQuality.Number
