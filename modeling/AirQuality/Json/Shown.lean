import AirQuality.Json.Basic
import AirQuality.Number.Text
import AirQuality.Text.Quoted

/-!
# Values inside messages

How a value is shown in a message, and the text that a value turns into where a text is needed. The
two differ for texts only: a message quotes them.
-/

namespace AirQuality.Json

/-- A number in a message. -/
def shownNumber : Number → String
  | .int n => toString n
  | .float x => Number.floatText Number.plainStyle x

mutual

/-- A value as it is shown in a message. -/
def shown : Json → String
  | null => "None"
  | bool b => if b then "True" else "False"
  | num n => shownNumber n
  | str t => Text.quoted t
  | arr items => "[" ++ ", ".intercalate (shownItems items) ++ "]"
  | obj pairs => "\x7b" ++ ", ".intercalate (shownPairs pairs) ++ "\x7d"

/-- The items of an array in a message. -/
def shownItems : List Json → List String
  | [] => []
  | v :: rest => shown v :: shownItems rest

/-- The pairs of an object in a message. -/
def shownPairs : List (Text × Json) → List String
  | [] => []
  | (k, v) :: rest => (Text.quoted k ++ ": " ++ shown v) :: shownPairs rest

end

/-- The text that a value turns into. -/
def asText : Json → Text
  | str t => t
  | v => shown v

end AirQuality.Json
