import AirQuality.Number.Nearest

/-!
# Numbers

A number is an unbounded integer or a double. Integers and doubles are compared by their exact
values, and whatever is not a number compares neither below nor above anything.

* `lt`: the strict order
* `least`, `greatest`, `clamp`: keep the earlier of two numbers unless the later one is strictly
  smaller or greater
* `sum`, `mean`: exact as long as only integers are added
-/

namespace AirQuality

/-- An unbounded integer or a double. -/
inductive Number where
  | int (n : Int)
  | float (x : Float)

namespace Number

/-- How an integer lies to a double, with `none` for what is not a number. -/
def compareInt (n : Int) (x : Float) : Option Ordering :=
  match Dyadic.ofFloat? x with
  | some d =>
    let magnitude : Int := d.num
    some (compare (n * d.den) (if d.negative then -magnitude else magnitude))
  | none => if x.isNaN then none else if x < 0 then some .gt else some .lt

/-- The strict order of numbers. -/
def lt : Number → Number → Bool
  | int a, int b => a < b
  | float a, float b => a < b
  | int a, float b => compareInt a b == some .lt
  | float a, int b => compareInt b a == some .gt

/-- The order of numbers. -/
def le : Number → Number → Bool
  | int a, int b => a ≤ b
  | float a, float b => a ≤ b
  | int a, float b => match compareInt a b with | some .gt | none => false | _ => true
  | float a, int b => match compareInt b a with | some .lt | none => false | _ => true

/-- Of two items the second one if its number is strictly smaller, else the first. -/
def leastBy {α : Type} (number : α → Number) (a b : α) : α :=
  if lt (number b) (number a) then b else a

/-- Of two items the second one if its number is strictly greater, else the first. -/
def greatestBy {α : Type} (number : α → Number) (a b : α) : α :=
  if lt (number a) (number b) then b else a

/-- The one of three items whose number is that of the first one brought between those of the
others. -/
def clampBy {α : Type} (number : α → Number) (value lower upper : α) : α :=
  greatestBy number lower (leastBy number upper value)

/-- The second number if it is strictly smaller, else the first. -/
def least (a b : Number) : Number := leastBy id a b

/-- The second number if it is strictly greater, else the first. -/
def greatest (a b : Number) : Number := greatestBy id a b

/-- The number brought between two bounds. What is not a number becomes the upper bound. -/
def clamp (value lower upper : Number) : Number := clampBy id value lower upper

/-- The nearest double, if it is finite or the number is a double already. -/
def toFloat? : Number → Option Float
  | int n => floatOfInt? n
  | float x => some x

/-- Addition; `none` if an integer is too large to be added to a double. -/
def add? : Number → Number → Option Number
  | int a, int b => some (int (a + b))
  | a, b => do return float ((← a.toFloat?) + (← b.toFloat?))

/-- Subtraction; `none` if an integer is too large to be taken together with a double. -/
def sub? : Number → Number → Option Number
  | int a, int b => some (int (a - b))
  | a, b => do return float ((← a.toFloat?) - (← b.toFloat?))

/-- The sum from left to right, starting at the integer zero. -/
def sum? (xs : List Number) : Option Number :=
  xs.foldlM add? (int 0)

/-- The sum divided by the count, for a list that is not empty; `none` if it is out of range. -/
def mean? (xs : List Number) : Option Float := do
  match ← sum? xs with
  | int n => quotient? n xs.length
  | float x => return x / Float.ofNat xs.length

/-- The integer part, for a finite number. -/
def truncate? : Number → Option Int
  | int n => some n
  | float x =>
    (Dyadic.ofFloat? x).map fun d =>
      let whole : Int := d.num / d.den
      if d.negative then -whole else whole

end Number

end AirQuality
