import AirQuality.Time.Moment
import AirQuality.Text.Blank
import AirQuality.Text.Digit

/-!
# Reading stamps

A stamp has a fixed layout: `YYYY-MM-DD HH:MM:SS`, or the day alone. All fields but the year may
lack their leading zero, and the day of the month may have a space in its place. The year and the
second of two digits may be digits of any script, and any blanks may stand between day and time.

* `Stamp.civil?`: the day of a day stamp
* `Stamp.wall?`: the wall time of a full stamp
-/

namespace AirQuality.Time.Stamp

open AirQuality.Text (digitValue? latinDigitValue? isBlank)

/-- Reads one digit of Basic Latin in a range. -/
def latinIn? (low high : Nat) : List Char → Option (Nat × List Char)
  | [] => none
  | c :: cs =>
    match latinDigitValue? c with
    | some d => if low ≤ d ∧ d ≤ high then some (d, cs) else none
    | none => none

/-- Reads one digit of any script. -/
def anyDigit? : List Char → Option (Nat × List Char)
  | [] => none
  | c :: cs => (digitValue? c).map fun d => (d, cs)

/-- Reads a first digit in a range and a second one with a given reader. -/
def twoDigits? (low high : Nat) (second : List Char → Option (Nat × List Char)) (cs : List Char) :
    Option (Nat × List Char) := do
  let (a, rest) ← latinIn? low high cs
  let (b, rest) ← second rest
  return (10 * a + b, rest)

/-- Reads four digits of any script. -/
def year? (cs : List Char) : Option (Nat × List Char) := do
  let (a, cs) ← anyDigit? cs
  let (b, cs) ← anyDigit? cs
  let (c, cs) ← anyDigit? cs
  let (d, cs) ← anyDigit? cs
  return (((a * 10 + b) * 10 + c) * 10 + d, cs)

/-- Reads a month. -/
def month? (cs : List Char) : Option (Nat × List Char) :=
  twoDigits? 1 1 (latinIn? 0 2) cs <|> twoDigits? 0 0 (latinIn? 1 9) cs <|> latinIn? 1 9 cs

/-- Reads a day of the month. -/
def day? (cs : List Char) : Option (Nat × List Char) :=
  twoDigits? 3 3 (latinIn? 0 1) cs <|> twoDigits? 1 2 anyDigit? cs <|>
    twoDigits? 0 0 (latinIn? 1 9) cs <|> latinIn? 1 9 cs <|>
    match cs with
    | ' ' :: rest => latinIn? 1 9 rest
    | _ => none

/-- Reads an hour. -/
def hour? (cs : List Char) : Option (Nat × List Char) :=
  twoDigits? 2 2 (latinIn? 0 3) cs <|> twoDigits? 0 1 anyDigit? cs <|> anyDigit? cs

/-- Reads a minute or a second. -/
def sixtieth? (cs : List Char) : Option (Nat × List Char) :=
  twoDigits? 0 5 anyDigit? cs <|> anyDigit? cs

/-- Reads a given character. -/
def mark? (mark : Char) : List Char → Option (List Char)
  | c :: cs => if c = mark then some cs else none
  | [] => none

/-- Reads a day from the start of the characters. -/
def takeCivil? (cs : List Char) : Option (Civil × List Char) := do
  let (year, cs) ← year? cs
  let cs ← mark? '-' cs
  let (month, cs) ← month? cs
  let cs ← mark? '-' cs
  let (day, cs) ← day? cs
  return (⟨year, month, day⟩, cs)

/-- Reads a time of day that fills the characters. -/
def dayTime? (cs : List Char) : Option DayTime := do
  let (hour, cs) ← hour? cs
  let cs ← mark? ':' cs
  let (minute, cs) ← sixtieth? cs
  let cs ← mark? ':' cs
  let (second, cs) ← sixtieth? cs
  if cs.isEmpty then return ⟨hour, minute, second, 0⟩ else none

/-- The day of a day stamp. -/
def civil? (s : String) : Option Civil := do
  let (day, rest) ← takeCivil? s.toList
  if rest.isEmpty && day.exists then return day else none

/-- The wall time of a full stamp. -/
def wall? (s : String) : Option WallTime := do
  let (day, rest) ← takeCivil? s.toList
  match rest with
  | c :: _ =>
    if isBlank c then
      let time ← dayTime? (rest.dropWhile isBlank)
      WallTime.of? day time
    else none
  | [] => none

end AirQuality.Time.Stamp
