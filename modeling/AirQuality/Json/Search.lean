import AirQuality.Fault
import AirQuality.Json.Basic

/-!
# Searching by key

A key is searched at every depth, in document order: the pairs of an object one after the other, the
content of a value before the next pair. The first hit counts, whatever its value is.

The search calls itself for every value inside a value, and calls cannot be nested without end. With
room for so many calls, the search either answers what it would with any room, or fails.

* `entries`: all pairs at any depth, in document order
* `findKey`: the value under the first occurrence of a key
* `findFirstKey`: the first of several keys that occurs at all
* `height`: how many values are inside one another
* `findKeyWithin`, `findFirstKeyWithin`: the searches with room for so many calls
-/

namespace AirQuality.Json

mutual

/-- All pairs of a value at any depth, in document order: a pair before the pairs inside its value,
those before the next pair. -/
def entries : Json → List (Text × Json)
  | obj pairs => entriesOfPairs pairs
  | arr items => entriesOfItems items
  | _ => []

/-- The pairs of an object's pair list, at any depth. -/
def entriesOfPairs : List (Text × Json) → List (Text × Json)
  | [] => []
  | (k, v) :: rest => (k, v) :: (entries v ++ entriesOfPairs rest)

/-- The pairs inside the items of an array, at any depth. -/
def entriesOfItems : List Json → List (Text × Json)
  | [] => []
  | v :: rest => entries v ++ entriesOfItems rest

end

mutual

/-- The value under the first occurrence of a key, at any depth. -/
def findKey (key : Text) : Json → Option Json
  | obj pairs => findInPairs key pairs
  | arr items => findInItems key items
  | _ => none

/-- The search through the pairs of an object. -/
def findInPairs (key : Text) : List (Text × Json) → Option Json
  | [] => none
  | (k, v) :: rest =>
    if k = key then some v
    else match findKey key v with
      | some found => some found
      | none => findInPairs key rest

/-- The search through the items of an array. -/
def findInItems (key : Text) : List Json → Option Json
  | [] => none
  | v :: rest =>
    match findKey key v with
    | some found => some found
    | none => findInItems key rest

end

/-- The value under the first key of the list that occurs anywhere in the document. -/
def findFirstKey (keys : List Text) (root : Json) : Option Json :=
  keys.findSome? fun key => findKey key root

/-! ## Room for calls -/

mutual

/-- How many values are inside one another, from a value down to the deepest one in it. -/
def height : Json → Nat
  | obj pairs => heightOfPairs pairs + 1
  | arr items => heightOfItems items + 1
  | _ => 1

/-- The height of the values of some pairs. -/
def heightOfPairs : List (Text × Json) → Nat
  | [] => 0
  | (_, v) :: rest => max (height v) (heightOfPairs rest)

/-- The height of some items. -/
def heightOfItems : List Json → Nat
  | [] => 0
  | v :: rest => max (height v) (heightOfItems rest)

end

mutual

/-- The search with room for so many calls inside one another. -/
def findKeyWithin (key : Text) : Nat → Json → Except Fault (Option Json)
  | 0, _ => .error .tooDeep
  | room + 1, obj pairs => findInPairsWithin key room pairs
  | room + 1, arr items => findInItemsWithin key room items
  | _ + 1, _ => .ok none

/-- The search through the pairs of an object, with room for the calls inside. -/
def findInPairsWithin (key : Text) (room : Nat) : List (Text × Json) → Except Fault (Option Json)
  | [] => .ok none
  | (k, v) :: rest =>
    if k = key then .ok (some v)
    else match findKeyWithin key room v with
      | .ok none => findInPairsWithin key room rest
      | decided => decided

/-- The search through the items of an array, with room for the calls inside. -/
def findInItemsWithin (key : Text) (room : Nat) : List Json → Except Fault (Option Json)
  | [] => .ok none
  | v :: rest =>
    match findKeyWithin key room v with
    | .ok none => findInItemsWithin key room rest
    | decided => decided

end

/-- The value under the first key of the list that occurs anywhere, with room for so many calls. -/
def findFirstKeyWithin (room : Nat) : List Text → Json → Except Fault (Option Json)
  | [], _ => .ok none
  | key :: keys, root =>
    match findKeyWithin key room root with
    | .ok none => findFirstKeyWithin room keys root
    | decided => decided

end AirQuality.Json
