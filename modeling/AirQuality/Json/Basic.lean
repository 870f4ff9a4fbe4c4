import AirQuality.Number.Basic
import AirQuality.Text.Basic

/-!
# JSON values

An object is the list of its pairs in document order. The reader never produces a key twice, so the
first pair with a key is the only one.

* `Json.get?`: the value under a key of an object
* `setPair`: a repeated key keeps its place and takes the new value
* `Json.isWellFormed`: whether all strings and keys are
-/

namespace AirQuality

/-- A JSON value. Numbers written with a point or an exponent are doubles, others integers. -/
inductive Json where
  | null
  | bool (b : Bool)
  | num (n : Number)
  | str (t : Text)
  | arr (items : List Json)
  | obj (pairs : List (Text × Json))

namespace Json

/-- The first value under a key. -/
def lookup? (key : Text) (pairs : List (Text × Json)) : Option Json :=
  (pairs.find? fun p => p.1 == key).map Prod.snd

/-- The value under a key of an object. -/
def get? (key : Text) : Json → Option Json
  | obj pairs => lookup? key pairs
  | _ => none

/-- The pairs with the value under a key replaced, or with a new pair at the end. -/
def setPair (key : Text) (value : Json) : List (Text × Json) → List (Text × Json)
  | [] => [(key, value)]
  | (k, v) :: rest => if k = key then (k, value) :: rest else (k, v) :: setPair key value rest

theorem lookup?_cons (key k : Text) (v : Json) (pairs : List (Text × Json)) :
    lookup? key ((k, v) :: pairs) = if k = key then some v else lookup? key pairs := by
  by_cases h : k = key <;> simp [lookup?, h]

theorem lookup?_setPair_self (key : Text) (value : Json) (pairs : List (Text × Json)) :
    lookup? key (setPair key value pairs) = some value := by
  induction pairs with
  | nil => simp [setPair, lookup?]
  | cons p rest ih =>
    obtain ⟨k, v⟩ := p
    by_cases h : k = key
    · simp [setPair, lookup?, h]
    · simpa [setPair, lookup?, h] using ih

/-- An integer. -/
def ofInt (n : Int) : Json := num (.int n)

/-- A double. -/
def ofFloat (x : Float) : Json := num (.float x)

/-- A text, or null. -/
def ofText? : Option Text → Json
  | some t => str t
  | none => null

/-- A double, or null. -/
def ofFloat? : Option Float → Json
  | some x => ofFloat x
  | none => null

/-- The number that a value counts as; truth values count as one and zero. -/
def number? : Json → Option Number
  | num n => some n
  | bool b => some (.int (if b then 1 else 0))
  | _ => none

mutual

/-- Whether all strings and keys of a value are well formed. -/
def isWellFormed : Json → Bool
  | str t => t.isWellFormed
  | arr items => areWellFormed items
  | obj pairs => arePairsWellFormed pairs
  | _ => true

/-- Whether all strings and keys of some values are well formed. -/
def areWellFormed : List Json → Bool
  | [] => true
  | v :: rest => isWellFormed v && areWellFormed rest

/-- Whether all strings and keys of some pairs are well formed. -/
def arePairsWellFormed : List (Text × Json) → Bool
  | [] => true
  | (k, v) :: rest => k.isWellFormed && isWellFormed v && arePairsWellFormed rest

end

end Json

end AirQuality
