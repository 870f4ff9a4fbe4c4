import AirQuality.Number.Reader

/-!
# Numerals in records

Records and requests have numerals with digits of Basic Latin. An integer may have leading zeros and
a fraction of zeros. Single underscores are overlooked wherever they stand between two characters,
and among the leading zeros any number of them.

* `recordInteger`: the integer of a text
* `recordFloat?`: the double of a text
* `pointedFloat?`: the double of a numeral with a point
-/

namespace AirQuality.Number

open AirQuality.Text (isWhite stripBy latinDigitValue?)

/-- The characters without underscores, if there are any, each of them stands alone, and none is the
first or the last character. -/
def withoutUnderscores? (cs : List Char) : Option (List Char) :=
  if ungrouped true cs || !cs.contains '_' then none else some (cs.filter (· != '_'))
where
  /-- Whether an underscore follows another one or stands at an end. -/
  ungrouped (afterBreak : Bool) : List Char → Bool
    | [] => false
    | [c] => c == '_'
    | c :: cs => (afterBreak && c == '_') || ungrouped (c == '_') cs

/-- The significant part of a numeral that starts with a digit: leading zeros and the underscores
among them are dropped, but for the last one if nothing else stands in front of the point or the
end. A minus sign may follow the zeros. -/
def dropZeros? : List Char → Option (List Char)
  | '0' :: cs => go '0' cs
  | c :: cs => if (latinDigitValue? c).isSome then some (c :: cs) else none
  | [] => none
where
  go (last : Char) : List Char → Option (List Char)
    | [] => some [last]
    | c :: cs =>
      if c = '0' ∨ c = '_' then go c cs
      else if c = '.' then some (last :: c :: cs)
      else if c = '-' ∨ (latinDigitValue? c).isSome then some (c :: cs)
      else none

/-- The characters without a fraction of zeros. -/
def dropZeroFraction (cs : List Char) : List Char :=
  match cs.dropWhile (· != '.') with
  | _ :: zero :: zeros =>
    if (zero :: zeros).all (· == '0') then cs.takeWhile (· != '.') else cs
  | _ => cs

/-- The result of reading an integer from a record. -/
inductive RecordInteger where
  | value (n : Int)
  | tooLong
  | malformed
deriving Repr, DecidableEq

/-- The integer of a plain numeral: a minus sign, if there is one, and digits without leading zeros.
Too many digits are noticed before what may follow them. -/
def plainInteger (cs : List Char) : RecordInteger :=
  let (negative, cs) :=
    match cs with
    | '-' :: cs => (true, cs)
    | cs => (false, cs)
  let (ds, rest) := cs.span fun c => (latinDigitValue? c).isSome
  let digits := ds.filterMap latinDigitValue?
  match digits with
  | [] | 0 :: _ :: _ => .malformed
  | _ =>
    if maxIntegerDigits < digits.length then .tooLong
    else if rest.isEmpty then .value (signed negative (ofDigits digits))
    else .malformed

/-- The plain numeral behind one with a plus sign, leading zeros, a fraction of zeros or
underscores, and white space around it. -/
def cleaned? (cs : List Char) : Option (List Char) :=
  let (sign, unsigned) :=
    match stripBy isWhite cs with
    | '-' :: cs => (['-'], cs)
    | '+' :: cs => ([], cs)
    | cs => ([], cs)
  (dropZeros? unsigned).map fun significant =>
    let numeral := sign ++ dropZeroFraction significant
    (withoutUnderscores? numeral).getD numeral

/-- The integer that a text stands for. Only a plain numeral is known to be too long. -/
def recordInteger (s : String) : RecordInteger :=
  match plainInteger s.toList with
  | .malformed =>
    match (cleaned? s.toList).map plainInteger with
    | some (.value n) => .value n
    | _ => .malformed
  | found => found

/-- The double that a text stands for. White space around it is overlooked, unless the text has
underscores. -/
def recordFloat? (s : String) : Option Float :=
  if s.toList.contains '_' then
    (withoutUnderscores? s.toList).bind (floatOfChars? latinDigitValue?)
  else floatOfChars? latinDigitValue? (stripBy isWhite s.toList)

/-- The double of a numeral that has a point behind its sign and whole digits, and neither
underscores nor white space. -/
def pointedFloat? (cs : List Char) : Option Float :=
  match ((takeSign cs).2.dropWhile fun c => (latinDigitValue? c).isSome) with
  | '.' :: _ => if cs.contains '_' then none else floatOfChars? latinDigitValue? cs
  | _ => none

end AirQuality.Number
