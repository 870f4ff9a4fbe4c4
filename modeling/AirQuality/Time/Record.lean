import AirQuality.Time.Moment
import AirQuality.Number.Basic
import AirQuality.Number.Record

/-!
# Moments in records

A record gives a moment as a text or as a number. A text is a day, optionally followed by a
separator and a time with or without an offset; a day alone stands for its midnight. A number, also
one written as a text, counts seconds since 1970 at UTC, or milliseconds if its magnitude is above
twenty thousand million. The texts of the year 0 can be read, but no moment lies in it.

* `Record.momentOfText`: reading a text
* `Record.momentOfNumber?`: reading a number
-/

namespace AirQuality.Time.Record

open AirQuality.Text (latinDigitValue?)

/-- Reads exactly two digits. -/
def pair? : List Char → Option (Nat × List Char)
  | a :: b :: rest => do return (10 * (← latinDigitValue? a) + (← latinDigitValue? b), rest)
  | _ => none

/-- Reads a given character. -/
def mark? (mark : Char) : List Char → Option (List Char)
  | c :: cs => if c = mark then some cs else none
  | [] => none

/-- Reads a day. -/
def civil? (cs : List Char) : Option (Civil × List Char) := do
  let (century, cs) ← pair? cs
  let (year, cs) ← pair? cs
  let cs ← mark? '-' cs
  let (month, cs) ← pair? cs
  let cs ← mark? '-' cs
  let (day, cs) ← pair? cs
  return (⟨100 * century + year, month, day⟩, cs)

/-- Reads a fraction, if its mark follows; six digits count. -/
def fraction? : List Char → Option (Nat × List Char)
  | c :: cs =>
    if c = '.' ∨ c = ',' then
      let ds := (cs.takeWhile fun c => (latinDigitValue? c).isSome).filterMap latinDigitValue?
      if ds.isEmpty then none
      else
        let kept := ds.take 6
        some (Number.ofDigits kept * Number.tenTo (6 - kept.length), cs.drop ds.length)
    else some (0, c :: cs)
  | [] => some (0, [])

/-- Reads a time of day; seconds may be absent. -/
def dayTime? (cs : List Char) : Option (DayTime × List Char) := do
  let (hour, cs) ← pair? cs
  let cs ← mark? ':' cs
  let (minute, cs) ← pair? cs
  match cs with
  | ':' :: cs =>
    let (second, cs) ← pair? cs
    let (micro, cs) ← fraction? cs
    return (⟨hour, minute, second, micro⟩, cs)
  | cs => return (⟨hour, minute, 0, 0⟩, cs)

/-- Reads an offset that fills the characters. -/
def offset? : List Char → Option (Option UtcOffset)
  | [] => some none
  | ['Z'] | ['z'] => some (some .zero)
  | sign :: cs => do
    let negative ←
      if sign = '+' then some false
      else if sign = '-' ∨ sign.toNat = 0x2212 then some true
      else none
    let (hour, cs) ← pair? cs
    let cs := match cs with
      | ':' :: rest => rest
      | cs => cs
    let (minute, cs) ← pair? cs
    if cs.isEmpty && decide (minute < 60) then
      let n : Int := (hour * 60 + minute) * minuteMicros
      (UtcOffset.ofMicros? (if negative then -n else n)).map some
    else none

/-- Whether a character may stand between a day and a time. -/
def isSeparator (c : Char) : Bool := c == 'T' || c == 't' || c == ' ' || c == '_'

/-- The result of reading a moment from a text. -/
inductive RecordMoment where
  | value (m : Moment)
  /-- The text is well formed, but the calendar lacks the moment. -/
  | outside
  | malformed
deriving DecidableEq

/-- The moment, if the calendar has it. -/
def RecordMoment.ofOption : Option Moment → RecordMoment
  | some m => value m
  | none => outside

/-- Reads a day with an optional time and offset. -/
def calendarText? (cs : List Char) : Option (Civil × DayTime × Option UtcOffset) := do
  let (day, rest) ← civil? cs
  match rest with
  | [] => return (day, .first, none)
  | c :: rest =>
    if isSeparator c then
      let (time, rest) ← dayTime? rest
      return (day, time, ← offset? rest)
    else none

/-- The moment of a day with an optional time and offset. -/
def calendarMoment (cs : List Char) : RecordMoment :=
  match calendarText? cs with
  | some (day, time, offset) =>
    if day.isInMonth && time.exists then
      .ofOption ((WallTime.of? day time).map fun w => ⟨w, offset⟩)
    else .malformed
  | none => .malformed

/-- Above this magnitude a number counts milliseconds. -/
def millisecondThreshold : Int := 20000000000

/-- The microseconds of what a number counts, a millisecond or a second. -/
def unitMicros (large : Bool) : Nat := if large then 1000 else secondMicros

/-- What a number counts, in microseconds since the year 1970 began. The whole part of a double is
rounded down; its distance to the double is added, in the nearest microseconds. -/
def countedMicros? : Number → Option Int
  | .int n => some (n * unitMicros (millisecondThreshold < n.natAbs))
  | .float x =>
    (Number.Dyadic.ofFloat? x).bind fun d =>
      let unit := unitMicros (millisecondThreshold * d.den < d.num)
      let count := Number.signed d.negative d.num
      let rest := Number.nearest (count.fmod d.den).toNat d.den * Float.ofNat unit
      (Number.Dyadic.ofFloat? rest).map fun r =>
        count.fdiv d.den * unit + (2 * r.num + r.den) / (2 * r.den)

/-- The moment of a number. -/
def momentOfNumber? (n : Number) : Option Moment :=
  (countedMicros? n).bind fun micros => Moment.ofInstant? (epochMicros + micros)

/-- The number that a text of digits with an optional sign stands for; with a point it may also have
a fraction and an exponent. -/
def numeral? (cs : List Char) : Option Number :=
  let (negative, digits) := Number.takeSign cs
  let ds := digits.filterMap latinDigitValue?
  if !ds.isEmpty && ds.length == digits.length then
    some (.int (Number.signed negative (Number.ofDigits ds)))
  else (Number.pointedFloat? cs).map .float

/-- The days of the year 0, which lies before the calendar. -/
def daysOfYearZero : Nat := 366

/-- The moment of a numeral. A count that is reached before the year 0 or after the calendar is
malformed. -/
def numeralMoment (cs : List Char) : RecordMoment :=
  match (numeral? cs).bind countedMicros? with
  | some micros =>
    let instant := epochMicros + micros
    if -((daysOfYearZero * dayMicros : Nat) : Int) ≤ instant ∧ instant < calendarMicros then
      .ofOption (Moment.ofInstant? instant)
    else .malformed
  | none => .malformed

/-- The moment of a text. -/
def momentOfText (s : String) : RecordMoment :=
  match calendarMoment s.toList with
  | .malformed => numeralMoment s.toList
  | found => found

end AirQuality.Time.Record
