import AirQuality.Number.Nearest
import AirQuality.Text.Blank
import AirQuality.Text.Digit

/-!
# Reading numerals

A numeral has an optional sign and digits; a single underscore may stand between two of them. White
space around it is overlooked. Which characters are digits is a parameter: those of Basic Latin, or
those of any script.

* `integer?`: sign and digits of any script, at most 4300 of them
* `hasNumeral`: whether an integer has so few digits
* `float?`: optional fraction and exponent, or a word for infinity or for what is not a number;
  rounded to the nearest double
-/

namespace AirQuality.Number

open AirQuality.Text (isWhite stripBy digitValue?)

/-- Longer numerals are not read as integers, and longer integers have no numeral. -/
def maxIntegerDigits : Nat := 4300

/-- Whether an integer has a numeral. -/
def hasNumeral (n : Int) : Bool := n.natAbs < tenTo maxIntegerDigits

/-- Reads an optional sign. -/
def takeSign : List Char → Bool × List Char
  | '-' :: cs => (true, cs)
  | '+' :: cs => (false, cs)
  | cs => (false, cs)

/-- A run of digits with single underscores between them, after the digits `ds` read so far (the
last one first). Stops in front of the first character that does not continue the run. -/
def continueDigits (digit? : Char → Option Nat) (ds : List Nat) : List Char → List Nat × List Char
  | [] => (ds, [])
  | c :: cs =>
    match digit? c with
    | some d => continueDigits digit? (d :: ds) cs
    | none =>
      -- An underscore continues the run only between two digits.
      match c, ds, cs with
      | '_', _ :: _, c' :: cs' =>
        match digit? c' with
        | some d => continueDigits digit? (d :: ds) cs'
        | none => (ds, c :: cs)
      | _, _, _ => (ds, c :: cs)

/-- A run of digits from the start of the characters, first digit first, and what follows it. -/
def takeDigits (digit? : Char → Option Nat) (cs : List Char) : List Nat × List Char :=
  let (ds, rest) := continueDigits digit? [] cs
  (ds.reverse, rest)

/-- The number written by some decimal digits. -/
def ofDigits (ds : List Nat) : Nat :=
  ds.foldl (fun n d => 10 * n + d) 0

/-- The integer with a sign and a magnitude. -/
def signed (negative : Bool) (n : Nat) : Int :=
  if negative then -(n : Int) else n

/-- A signed run of digits of any script that fills the text. -/
def integer? (s : String) : Option Int :=
  let (negative, cs) := takeSign (stripBy isWhite s.toList)
  match takeDigits digitValue? cs with
  | ([], _) => none
  | (ds, []) => if maxIntegerDigits < ds.length then none else some (signed negative (ofDigits ds))
  | (_, _ :: _) => none

/-- The nearest double to `ofDigits ds * 10 ^ e`. Exponents beyond the range of doubles are cut off
before any power is computed. -/
def ofScientific (ds : List Nat) (e : Int) : Float :=
  let significant := ds.dropWhile (· == 0)
  -- The number is less than ten to this place.
  let place := (significant.length : Int) + e
  if significant.isEmpty || decide (place < -330) then 0.0
  else if 310 < place then infinity
  else nearest (ofDigits significant * tenTo e.toNat) (tenTo (-e).toNat)

/-- The words that may stand for a number, in lower case. -/
def wordValue? (cs : List Char) : Option Float :=
  match String.ofList (cs.map Char.toLower) with
  | "inf" | "infinity" => some infinity
  | "nan" => some notANumber
  | _ => none

/-- The exponent part of a numeral, if there is one. -/
def exponent? (digit? : Char → Option Nat) : List Char → Option Int
  | [] => some 0
  | c :: cs =>
    if c = 'e' ∨ c = 'E' then
      let (negative, cs) := takeSign cs
      match takeDigits digit? cs with
      | ([], _) => none
      | (ds, []) => some (signed negative (ofDigits ds))
      | (_, _ :: _) => none
    else none

/-- An unsigned numeral that fills the characters. -/
def magnitude? (digit? : Char → Option Nat) (cs : List Char) : Option Float :=
  match wordValue? cs with
  | some x => some x
  | none =>
    let (whole, rest) := takeDigits digit? cs
    let (fraction, rest) :=
      match rest with
      | '.' :: rest => takeDigits digit? rest
      | _ => ([], rest)
    if whole.isEmpty && fraction.isEmpty then none
    else (exponent? digit? rest).map fun e => ofScientific (whole ++ fraction) (e - fraction.length)

/-- A signed numeral that fills the characters. -/
def floatOfChars? (digit? : Char → Option Nat) (cs : List Char) : Option Float :=
  let (negative, cs) := takeSign cs
  (magnitude? digit? cs).map (withSign negative)

/-- A signed numeral with digits of any script that fills the text. -/
def float? (s : String) : Option Float := floatOfChars? digitValue? (stripBy isWhite s.toList)

end AirQuality.Number
