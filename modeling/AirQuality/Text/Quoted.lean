import AirQuality.Text.Basic
import AirQuality.Text.Printable

/-!
# Quoted texts

How a text is shown inside a message: between single quotes, or between double quotes if it holds
single ones and no double one. The quote in use and the backslash are escaped, line feed, carriage
return and tabulator are written as `\n`, `\r` and `\t`, and every other character that is not
printable by its code point in two, four or eight hexadecimal digits. Halves of surrogate pairs are
not printable.
-/

namespace AirQuality.Text

/-- The lower-case hexadecimal digits of a number, with zeros in front up to a width. -/
def hexDigits (width n : Nat) : List Char :=
  let ds := Nat.toDigits 16 n
  List.replicate (width - ds.length) '0' ++ ds

private def backslash : Char := Char.ofNat 0x5c

/-- The single quotation mark. -/
def singleQuote : Char := Char.ofNat 0x27

/-- The double quotation mark. -/
def doubleQuote : Char := Char.ofNat 0x22

/-- A character as it is written between the quotes `mark`. -/
def escapeChar (mark c : Char) : List Char :=
  if c == mark || c == backslash then [backslash, c]
  else if c == '\n' then [backslash, 'n']
  else if c == '\r' then [backslash, 'r']
  else if c == '\t' then [backslash, 't']
  else if isPrintable c then [c]
  else if c.toNat ≤ 0xff then backslash :: 'x' :: hexDigits 2 c.toNat
  else if c.toNat ≤ 0xffff then backslash :: 'u' :: hexDigits 4 c.toNat
  else backslash :: 'U' :: hexDigits 8 c.toNat

/-- The number of a half of a surrogate pair as an escape. -/
def escapeHalf (n : Fin 2048) : List Char :=
  backslash :: 'u' :: hexDigits 4 (CodePoint.firstHalf + n)

/-- A code point as it is written between the quotes `mark`. -/
def escapePoint (mark : Char) : CodePoint → List Char
  | .char c => escapeChar mark c
  | .half n => escapeHalf n

/-- The quotation mark that a text is shown with. -/
def quoteMark (t : Text) : Char :=
  if t.points.contains (.char singleQuote) && !t.points.contains (.char doubleQuote) then
    doubleQuote
  else singleQuote

/-- The text between quotation marks. -/
def quoted (t : Text) : String :=
  let mark := quoteMark t
  String.ofList (mark :: t.points.flatMap (escapePoint mark) ++ [mark])

end AirQuality.Text
