import AirQuality.Record.Check
import AirQuality.Text.Split
import AirQuality.Web.Percent

/-!
# Parameters of requests

Parameters come after the path of a request: pairs of a name and a value, with `&` between them. A
plus sign stands for a blank. Of several values under a name the last one counts.

* `Parameters.read`: the parameters of a query text
* `Parameters.required`, `Parameters.optional`: a parameter as a checked value
-/

namespace AirQuality.Web

/-- Names and values. -/
abbrev Parameters := List (String × String)

namespace Parameters

/-- A name or a value with plus signs and escapes resolved. -/
def plain (cs : List Char) : String :=
  Percent.decode (cs.map fun c => if c = '+' then ' ' else c)

/-- A name and a value; the value is empty if it is left out. -/
def pair (cs : List Char) : String × String :=
  let isName (c : Char) : Bool := c != '='
  (plain (cs.takeWhile isName), plain ((cs.dropWhile isName).drop 1))

/-- The parameters of a query text. What is not of Basic Latin should be escaped; if it is not,
every byte of it counts as a character. -/
def read (query : String) : Parameters :=
  let cs := (Text.encode query).map fun b => Char.ofNat b.toNat
  ((Text.splitAtChar '&' cs).filter fun piece => !piece.isEmpty).map pair

/-- The last value under a name. -/
def last? (ps : Parameters) (name : String) : Option String :=
  (ps.reverse.find? fun p => p.1 == name).map Prod.snd

/-- A value with its place in the request. -/
def located {α : Type} (place name : String) (c : Checked α) : Checked α :=
  (c.within (.field name)).within (.field place)

/-- A parameter that has to be there. -/
def required {α : Type} (ps : Parameters) (name : String) (check : Json → Checked α) : Checked α :=
  located "query" name (match ps.last? name with
    | some s => check (.str s)
    | none => Checked.problem .missing)

/-- A parameter with a value of its own when it is left out. -/
def optional {α : Type} (ps : Parameters) (name : String) (absent : α) (check : Json → Checked α) :
    Checked α :=
  match ps.last? name with
  | some s => located "query" name (check (.str s))
  | none => .valid absent

end Parameters

end AirQuality.Web
