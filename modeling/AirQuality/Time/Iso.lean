import AirQuality.Time.Moment
import AirQuality.Number.Reader
import AirQuality.Text.Basic

/-!
# Reading ISO 8601

Calendar and week dates, basic and extended, and times of day with an optional offset. The day may
be written as `YYYY-MM-DD`, `YYYYMMDD`, `YYYY-Www`, `YYYYWww`, `YYYY-Www-D` or `YYYYWwwD`. Any
character may separate it from the time, also half of a surrogate pair. The time is `HH`, `HH:MM`
or `HH:MM:SS`, with colons or without them, and then a fraction, of which six digits count. An
offset is a sign and a time, or `Z`.

The reader is generous in front of an offset: a Basic Latin character that does not belong to the
time is tolerated there, and so is anything after six digits of a fraction. A null character counts
as the end of the text wherever the time, a fraction of at least six digits, the offset or the
letter `Z` could end.

* `Iso.moment?`, `Iso.day?`: the moment and the day that a text stands for
-/

namespace AirQuality.Time.Iso

open AirQuality.Text (latinDigitValue?)

/-- Reads exactly `n` digits. -/
def digits? : Nat → List Char → Option (Nat × List Char)
  | n, cs => go 0 n cs
where
  go (value : Nat) : Nat → List Char → Option (Nat × List Char)
    | 0, cs => some (value, cs)
    | _ + 1, [] => none
    | n + 1, c :: cs =>
      match latinDigitValue? c with
      | some d => go (10 * value + d) n cs
      | none => none

/-- Reads a given character if one is due. -/
def mark? (due : Bool) (mark : Char) (cs : List Char) : Option (List Char) :=
  if due then
    match cs with
    | c :: rest => if c = mark then some rest else none
    | [] => none
  else some cs

/-- Reads a day that fills the characters but for what follows it; a week date without weekday must
fill them. -/
def civil? (cs : List Char) : Option Civil := do
  let (year, rest) ← digits? 4 cs
  let extended := rest.head? == some '-'
  let rest := if extended then rest.drop 1 else rest
  match rest with
  | 'W' :: rest =>
    let (week, rest) ← digits? 2 rest
    if rest.isEmpty then ofWeek? year week 1
    else
      let rest ← mark? extended '-' rest
      let (day, _) ← digits? 1 rest
      ofWeek? year week day
  | rest =>
    let (month, rest) ← digits? 2 rest
    let rest ← mark? extended '-' rest
    let (day, _) ← digits? 2 rest
    return ⟨year, month, day⟩

/-- How many characters of a text are taken for the day. A hyphen after a week is a separator if a
digit follows two places on, and else announces the weekday. An unbroken run of digits after a week
holds a weekday if its length is odd. -/
def dayLength (cs : List Char) : Nat :=
  let digitAt (i : Nat) : Bool := (cs[i]?.bind latinDigitValue?).isSome
  if cs.length = 7 then 7
  else if cs[4]? = some '-' then
    if cs[5]? = some 'W' then
      if 8 < cs.length ∧ cs[8]? = some '-' then
        if digitAt 10 then 8 else 10
      else 8
    else 10
  else if cs[4]? = some 'W' then
    let run := 7 + ((cs.drop 7).takeWhile fun c => (latinDigitValue? c).isSome).length
    if run < 9 then run else if run % 2 = 0 then 7 else 8
  else 8

/-- What a time text gives: the time, and whether it was read to the end. -/
structure Clock where
  hour : Nat
  minute : Nat
  second : Nat
  micro : Nat
  complete : Bool
deriving Repr, DecidableEq

/-- Puts the parts of a time together. -/
def Clock.ofParts (parts : List Nat) (micro : Nat) (complete : Bool) : Clock :=
  ⟨parts.getD 0 0, parts.getD 1 0, parts.getD 2 0, micro, complete⟩

/-- Whether the text ends here: nothing follows, or a null character. -/
def isEnd (cs : List Char) : Bool := cs.head?.all (· == '\x00')

/-- Reads a fraction; its first six digits count. -/
def fraction? (parts : List Nat) (cs : List Char) : Option Clock := do
  let width := min cs.length 6
  let (n, rest) ← digits? width cs
  let rest := rest.dropWhile fun c => (latinDigitValue? c).isSome
  return .ofParts parts (n * Number.tenTo (6 - width)) (isEnd rest)

/-- Reads the parts of a time from one of them on: `parts` are the ones in front, `left` counts the
ones that may follow, and `colons` tells whether colons stand between them, once that is known. -/
def clockFrom? (parts : List Nat) (colons : Option Bool) : Nat → List Char → Option Clock
  | 0, cs => fraction? parts cs
  | left + 1, cs =>
    match digits? 2 cs with
    | none => none
    | some (n, rest) =>
      let parts := parts ++ [n]
      match rest with
      | [] => some (.ofParts parts 0 true)
      | [c] => if c.toNat < 0x80 then some (.ofParts parts 0 (isEnd rest)) else none
      | c :: more =>
        let separated := colons.getD (c == ':')
        if separated && c == ':' then clockFrom? parts (some separated) left more
        else if c == '.' || c == ',' then fraction? parts more
        else if separated then none
        else clockFrom? parts (some separated) left rest

/-- Reads a time of day or an offset. -/
def clock? (cs : List Char) : Option Clock := clockFrom? [] none 3 cs

/-- Whether a character ends the time and starts an offset. -/
def startsOffset (c : Char) : Bool := c == '+' || c == '-' || c == 'Z'

/-- Reads an offset from behind its sign. The fraction of an offset of less than a second is
dropped. -/
def offset? (negative : Bool) (cs : List Char) : Option UtcOffset := do
  let t ← clock? cs
  if t.complete then
    let seconds := (t.hour * 60 + t.minute) * 60 + t.second
    if seconds = 0 then some .zero
    else
      let n : Int := seconds * secondMicros + t.micro
      UtcOffset.ofMicros? (if negative then -n else n)
  else none

/-- Reads a time of day with an optional offset. -/
def dayTime? (cs : List Char) : Option (DayTime × Option UtcOffset) := do
  let body := cs.takeWhile fun c => !startsOffset c
  let t ← clock? body
  let time : DayTime := ⟨t.hour, t.minute, t.second, t.micro⟩
  match cs.dropWhile fun c => !startsOffset c with
  | [] => if t.complete then some (time, none) else none
  | 'Z' :: rest => if isEnd rest then some (time, some .zero) else none
  | sign :: rest => (offset? (sign == '-') rest).map fun o => (time, some o)

/-- Reads a moment from characters. -/
def momentOfChars? (cs : List Char) : Option Moment := do
  let n := dayLength cs
  let day ← civil? (cs.take n)
  match cs.drop n with
  | [] => (WallTime.of? day .first).map fun w => ⟨w, none⟩
  | _ :: rest =>
    let (time, offset) ← dayTime? rest
    (WallTime.of? day time).map fun w => ⟨w, offset⟩

/-- The day that a text of seven, eight or ten bytes stands for. -/
def day? (s : String) : Option Civil :=
  if s.utf8ByteSize = 7 ∨ s.utf8ByteSize = 8 ∨ s.utf8ByteSize = 10 then
    (civil? s.toList).filter Civil.exists
  else none

/-- The places at which a separator may stand. -/
def separatorPlaces : List Nat := [7, 8, 10]

/-- The text with an ordinary separator for the half of a surrogate pair that stands in the place of
one. -/
def withSeparator (t : Text) : Text :=
  match separatorPlaces.find? fun i => t.points[i]?.any fun p => !p.isChar with
  | some i => ⟨t.points.set i (.char 'T')⟩
  | none => t

/-- The moment that a text stands for. -/
def moment? (t : Text) : Option Moment := (withSeparator t).chars?.bind momentOfChars?

end AirQuality.Time.Iso
