import AirQuality.Text.Blank

/-!
# Splitting texts

* `splitAtChar`: the pieces between separators
* `trimmedLines`: the lines that are not blank, without the blanks at their ends
-/

namespace AirQuality.Text

/-- The characters between the separators. -/
def splitAtChar (sep : Char) : List Char → List (List Char)
  | [] => [[]]
  | c :: cs =>
    if c = sep then [] :: splitAtChar sep cs
    else match splitAtChar sep cs with
      | piece :: rest => (c :: piece) :: rest
      | [] => [[c]]

/-- The lines of a text that are not blank, without the blanks at their ends. -/
def trimmedLines (s : String) : List String :=
  let lines := (splitAtChar '\n' s.toList).map (stripBy isBlank)
  (lines.filter fun cs => !cs.isEmpty).map String.ofList

end AirQuality.Text
