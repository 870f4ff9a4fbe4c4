import AirQuality.Json.Shown
import AirQuality.Number.Reader
import AirQuality.Record.Check

/-!
# Lenient scalars

The feed writes numbers as numbers or as texts, with a decimal point or a comma and blanks around
them. What cannot be used is dropped, or is zero for a coordinate.
-/

namespace AirQuality.Feed

/-- The text with points for commas. -/
def pointsForCommas (t : Text) : Text := t.substitute fun c => if c = ',' then ['.'] else [c]

/-- The double that a value stands for when it is turned into a text. -/
def floatOfText? (v : Json) : Option Float :=
  (pointsForCommas v.asText.stripped).string?.bind Number.float?

/-- A coordinate; zero if it cannot be used. -/
def coordinate : Json → Float
  | .null => 0.0
  | v => (floatOfText? v).getD 0.0

/-- An integer; truth values are none. -/
def integer? : Json → Option Int
  | .null | .bool _ => none
  | v => v.asText.stripped.string?.bind Number.integer?

/-- A double; truth values are none. -/
def float? : Json → Option Float
  | .null | .bool _ => none
  | v => floatOfText? v

/-- The text of a scalar. -/
def text? : Json → Option Text
  | .null | .arr _ | .obj _ => none
  | v => some v.asText

end AirQuality.Feed
