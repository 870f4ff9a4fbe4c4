import AirQuality.Json.Basic
import AirQuality.Number.Text
import AirQuality.Text.Quoted

/-!
# Writing JSON

Two layouts: everything on one line without blanks, and one item a line, indented by two spaces a
level. Only quotation marks, backslashes, control characters and halves of surrogate pairs are
escaped.
-/

namespace AirQuality.Json

/-- Doubles as they are written in documents. -/
def numberStyle : Number.FloatStyle := ⟨true, "NaN", "Infinity", "-Infinity"⟩

/-- A character as it is written in a string. -/
def escapeChar (c : Char) : List Char :=
  let backslash := Char.ofNat 0x5c
  match c.toNat with
  | 0x22 => [backslash, c]
  | 0x5c => [backslash, c]
  | 0x08 => [backslash, 'b']
  | 0x09 => [backslash, 't']
  | 0x0a => [backslash, 'n']
  | 0x0c => [backslash, 'f']
  | 0x0d => [backslash, 'r']
  | n => if n < 0x20 then backslash :: 'u' :: Text.hexDigits 4 n else [c]

/-- A code point as it is written in a string. -/
def escapePoint : CodePoint → List Char
  | .char c => escapeChar c
  | .half n => Text.escapeHalf n

/-- A string with its quotation marks. -/
def stringText (t : Text) : String :=
  String.ofList ('"' :: t.points.flatMap escapePoint ++ ['"'])

/-- A number. -/
def numberText : Number → String
  | .int n => toString n
  | .float x => Number.floatText numberStyle x

/-- Opening brace of an object. -/
def openBrace : String := "\x7b"

/-- Closing brace of an object. -/
def closeBrace : String := "\x7d"

mutual

/-- The document on one line. -/
def compact : Json → String
  | null => "null"
  | bool b => if b then "true" else "false"
  | num n => numberText n
  | str t => stringText t
  | arr items => "[" ++ ",".intercalate (compactItems items) ++ "]"
  | obj pairs => openBrace ++ ",".intercalate (compactPairs pairs) ++ closeBrace

/-- The items of an array on one line. -/
def compactItems : List Json → List String
  | [] => []
  | v :: rest => compact v :: compactItems rest

/-- The pairs of an object on one line. -/
def compactPairs : List (Text × Json) → List String
  | [] => []
  | (k, v) :: rest => (stringText k ++ ":" ++ compact v) :: compactPairs rest

end

/-- A line end and the indentation of a level. -/
def lineBreak (level : Nat) : String :=
  String.ofList ('\n' :: List.replicate (2 * level) ' ')

/-- Items between an opening and a closing bracket, one a line. -/
def block (level : Nat) (left right : String) (items : List String) : String :=
  if items.isEmpty then left ++ right
  else
    left ++ lineBreak (level + 1) ++ ("," ++ lineBreak (level + 1)).intercalate items ++
      lineBreak level ++ right

mutual

/-- The document with one item a line, at a level of indentation. -/
def indented (level : Nat) : Json → String
  | null => "null"
  | bool b => if b then "true" else "false"
  | num n => numberText n
  | str t => stringText t
  | arr items => block level "[" "]" (indentedItems (level + 1) items)
  | obj pairs => block level openBrace closeBrace (indentedPairs (level + 1) pairs)

/-- The items of an array, one a line. -/
def indentedItems (level : Nat) : List Json → List String
  | [] => []
  | v :: rest => indented level v :: indentedItems level rest

/-- The pairs of an object, one a line. -/
def indentedPairs (level : Nat) : List (Text × Json) → List String
  | [] => []
  | (k, v) :: rest => (stringText k ++ ": " ++ indented level v) :: indentedPairs level rest

end

end AirQuality.Json
