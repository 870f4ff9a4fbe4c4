import AirQuality.Json.Search
import Mathlib.Data.List.Basic

/-!
# Document order

The place of a pair in a value is the way there from outside, and places are compared entry by entry:
a pair comes before those inside its value, and these come before the next pair. The search for a key
ends at the first place where the key stands, whatever its value is.

## Key results

- `enumerates_entries`: the entries of a value are the pairs at all its places, in order
- `findKey_eq_lookup?`: the search finds the first entry with the key
- `findKey_eq_none_iff`: it finds nothing only if no object at any depth has the key
- `first_in_document_order`: the search for a key, and for the first of several keys
-/

namespace AirQuality.Json

/-! ## Places -/

/-- The pair at a place. A place is the way there from outside: at each depth the number of a pair of
the object, or of an item of the array. -/
def pairAt? : Json → List Nat → Option (Text × Json)
  | obj pairs, [i] => pairs[i]?
  | obj pairs, i :: j :: place => pairs[i]?.bind fun p => p.2.pairAt? (j :: place)
  | arr items, i :: place => items[i]?.bind fun v => v.pairAt? place
  | _, _ => none

/-- Whether an object at any depth has a key. -/
def Holds (key : Text) (root : Json) : Prop :=
  ∃ place value, root.pairAt? place = some (key, value)

/-- No pair stands outside all objects. -/
private theorem pairAt?_nil (v : Json) : v.pairAt? [] = none := by cases v <;> rfl

/-- The place behind a place, on the outermost level. -/
def nextPlace : List Nat → List Nat
  | [] => []
  | i :: place => (i + 1) :: place

/-- Places keep their order when they are moved on. -/
private theorem lex_nextPlace {place place' : List Nat} (before : List.Lex (· < ·) place place') :
    List.Lex (· < ·) (nextPlace place) (nextPlace place') := by
  -- The order is decided by the first entry, which grows on both sides, or behind it.
  cases before with
  | nil => exact .nil
  | rel less => exact .rel (Nat.succ_lt_succ less)
  | cons before => exact .cons before

/-- A place that was moved on does not begin with a zero. -/
private theorem mem_map_nextPlace {places : List (List Nat)} (inside : [] ∉ places)
    {place : List Nat} :
    place ∈ places.map nextPlace ↔ ∃ i rest, place = (i + 1) :: rest ∧ i :: rest ∈ places := by
  rw [List.mem_map]
  constructor
  -- There is no place without an entry to be moved on.
  · rintro ⟨earlier, mem, rfl⟩
    cases earlier with
    | nil => exact absurd mem inside
    | cons i rest => exact ⟨i, rest, rfl, mem⟩
  · rintro ⟨i, rest, rfl, mem⟩
    exact ⟨i :: rest, mem, rfl⟩

/-! ## Enumerations -/

/-- Whether a list is what stands at all places, in the order of the places. -/
def Enumerates {α : Type} (at? : List Nat → Option α) (listed : List α) : Prop :=
  ∃ places : List (List Nat), places.Pairwise (List.Lex (· < ·)) ∧
    (∀ place, place ∈ places ↔ (at? place).isSome = true) ∧ places.map at? = listed.map some

namespace Enumerates

variable {α : Type} {at? inside later : List Nat → Option α} {x : α} {xs ys : List α}

/-- What is listed stands at some place, and what stands at some place is listed. -/
theorem mem_iff (h : Enumerates at? xs) : x ∈ xs ↔ ∃ place, at? place = some x := by
  obtain ⟨places, -, all, found⟩ := h
  have listed : some x ∈ xs.map some ↔ x ∈ xs := by simp
  rw [← listed, ← found, List.mem_map]
  -- The listed places are all that have something standing at them.
  constructor
  · rintro ⟨place, -, stands⟩
    exact ⟨place, stands⟩
  · rintro ⟨place, stands⟩
    exact ⟨place, (all place).mpr (by rw [stands]; rfl), stands⟩

/-- Where nothing stands anywhere, nothing is enumerated. -/
theorem nil (nowhere : ∀ place, at? place = none) : Enumerates at? [] :=
  ⟨[], .nil, fun place => by simp [nowhere place], rfl⟩

/-- What stands outside comes before what stands inside. -/
theorem cons (outside : at? [] = some x)
    (below : ∀ i place, at? (i :: place) = inside (i :: place)) (nothing : inside [] = none)
    (h : Enumerates inside xs) : Enumerates at? (x :: xs) := by
  obtain ⟨places, ordered, all, found⟩ := h
  have entered : [] ∉ places := by simp [all, nothing]
  -- The place outside is the empty one, and comes first of all.
  refine ⟨[] :: places, List.pairwise_cons.mpr ⟨fun place mem => ?_, ordered⟩, fun place => ?_, ?_⟩
  · cases place with
    | nil => exact absurd mem entered
    | cons i place => exact .nil
  · cases place with
    | nil => simp [outside]
    | cons i place => simp [all, below]
  · rw [List.map_cons, List.map_cons, outside, ← found]
    congr 1
    refine List.map_congr_left fun place mem => ?_
    cases place with
    | nil => exact absurd mem entered
    | cons i place => exact below i place

/-- What is inside the first entry comes before what is inside the later ones. -/
theorem append (outside : at? [] = none)
    (shifted : ∀ i place, at? ((i + 1) :: place) = later (i :: place)) (nothing : later [] = none)
    (h : Enumerates (fun place => at? (0 :: place)) xs) (h' : Enumerates later ys) :
    Enumerates at? (xs ++ ys) := by
  obtain ⟨places, ordered, all, found⟩ := h
  obtain ⟨places', ordered', all', found'⟩ := h'
  have entered : [] ∉ places' := by simp [all', nothing]
  refine ⟨places.map (0 :: ·) ++ places'.map nextPlace, ?_, fun place => ?_, ?_⟩
  -- Places inside the first entry begin with a zero, and those behind it with more.
  · refine List.pairwise_append.mpr
      ⟨ordered.map _ fun _ _ => .cons, ordered'.map _ fun _ _ => lex_nextPlace, ?_⟩
    intro place mem place' mem'
    obtain ⟨rest, -, rfl⟩ := List.mem_map.mp mem
    obtain ⟨i, rest', rfl, -⟩ := (mem_map_nextPlace entered).mp mem'
    exact .rel (Nat.succ_pos i)
  · rw [List.mem_append, List.mem_map, mem_map_nextPlace entered]
    -- A place is outside, inside the first entry, or inside a later one.
    match place with
    | [] => simp [outside]
    | 0 :: rest => simp [all]
    | (i + 1) :: rest => simp [shifted, all']
  -- Places that were moved on are looked up among the later entries.
  · rw [List.map_append, List.map_append, List.map_map, List.map_map, ← found, ← found']
    congr 1
    refine List.map_congr_left fun place mem => ?_
    cases place with
    | nil => exact absurd mem entered
    | cons i rest => exact shifted i rest

end Enumerates

mutual

/-- The entries of a value are the pairs at all its places, in order. -/
theorem enumerates_entries : ∀ root, Enumerates root.pairAt? (entries root)
  | obj pairs => enumerates_entriesOfPairs pairs
  | arr items => enumerates_entriesOfItems items
  | null => .nil fun place => by cases place <;> rfl
  | bool _ => .nil fun place => by cases place <;> rfl
  | num _ => .nil fun place => by cases place <;> rfl
  | str _ => .nil fun place => by cases place <;> rfl

/-- The entries of an object are those at all places of the object, in order. -/
private theorem enumerates_entriesOfPairs :
    ∀ pairs, Enumerates (obj pairs).pairAt? (entriesOfPairs pairs)
  | [] => .nil fun place => by rcases place with _ | ⟨_, _ | _⟩ <;> rfl
  | (k, v) :: rest => by
    -- Pairs come before what is inside their values, and this before the next pair.
    -- The pair itself stands outside of what is inside its value.
    have first : Enumerates (fun place => (obj ((k, v) :: rest)).pairAt? (0 :: place))
        ((k, v) :: entries v) :=
      .cons rfl (fun _ _ => rfl) v.pairAt?_nil (enumerates_entries v)
    exact first.append rfl (fun _ place => by cases place <;> rfl) rfl
      (enumerates_entriesOfPairs rest)

/-- The entries of an array are those at all places of the array, in order. -/
private theorem enumerates_entriesOfItems :
    ∀ items, Enumerates (arr items).pairAt? (entriesOfItems items)
  | [] => .nil fun place => by cases place <;> rfl
  | v :: rest => by
    -- An item is no pair itself, so there is only what is inside of it.
    have first : Enumerates (fun place => (arr (v :: rest)).pairAt? (0 :: place)) (entries v) :=
      enumerates_entries v
    exact first.append rfl (fun _ _ => rfl) rfl (enumerates_entriesOfItems rest)

end

/-! ## Searches -/

/-- A key is looked up in the second of two lists only if the first one does not have it. -/
private theorem lookup?_append (key : Text) (pairs more : List (Text × Json)) :
    lookup? key (pairs ++ more) = (lookup? key pairs).or (lookup? key more) := by
  rw [lookup?, List.find?_append]
  cases found : pairs.find? fun p => p.1 == key <;> simp [lookup?, found]

/-- Nothing is found only if there is no pair with the key. -/
theorem lookup?_eq_none_iff {key : Text} {pairs : List (Text × Json)} :
    lookup? key pairs = none ↔ ∀ value, (key, value) ∉ pairs := by
  rw [lookup?, Option.map_eq_none_iff, List.find?_eq_none]
  -- The first pair with the key is the one that is found.
  constructor
  · intro others value mem
    exact others (key, value) mem (beq_self_eq_true key)
  · rintro absent ⟨k, value⟩ mem same
    obtain rfl := eq_of_beq same
    exact absent value mem

mutual

/-- The search finds the value of the first entry with the key. -/
theorem findKey_eq_lookup? (key : Text) : ∀ root, findKey key root = lookup? key (entries root)
  | obj pairs => findInPairs_eq_lookup? key pairs
  | arr items => findInItems_eq_lookup? key items
  | null => rfl
  | bool _ => rfl
  | num _ => rfl
  | str _ => rfl

/-- The search among pairs finds the first entry of the object with the key. -/
private theorem findInPairs_eq_lookup? (key : Text) :
    ∀ pairs, findInPairs key pairs = lookup? key (entriesOfPairs pairs)
  | [] => rfl
  | (k, v) :: rest => by
    rw [findInPairs, entriesOfPairs, lookup?_cons, lookup?_append, ← findKey_eq_lookup? key v,
      ← findInPairs_eq_lookup? key rest]
    -- The search goes on only if there is nothing in the value; a null that is found ends it.
    cases findKey key v <;> rfl

/-- The search among items finds the first entry of the array with the key. -/
private theorem findInItems_eq_lookup? (key : Text) :
    ∀ items, findInItems key items = lookup? key (entriesOfItems items)
  | [] => rfl
  | v :: rest => by
    rw [findInItems, entriesOfItems, lookup?_append, ← findKey_eq_lookup? key v,
      ← findInItems_eq_lookup? key rest]
    -- Nothing in the first item: the search goes on among the others.
    cases findKey key v <;> rfl

end

/-- The search finds nothing only if no object at any depth has the key. -/
theorem findKey_eq_none_iff {key : Text} {root : Json} :
    findKey key root = none ↔ ¬ root.Holds key := by
  rw [findKey_eq_lookup?, lookup?_eq_none_iff, Holds, not_exists]
  -- An enumerated entry stands at a place, and the other way round.
  simp only [(enumerates_entries root).mem_iff, not_exists]
  exact forall_comm

/-- The search for several keys finds nothing only if no object has any of them. -/
theorem findFirstKey_eq_none_iff {keys : List Text} {root : Json} :
    findFirstKey keys root = none ↔ ∀ key ∈ keys, ¬ root.Holds key := by
  simp only [findFirstKey, List.findSome?_eq_none_iff, findKey_eq_none_iff]

/-- Keys that no object has are passed over, and what comes after one that some object has does not
matter. -/
private theorem findFirstKey_append_cons {before : List Text} {key : Text} {root : Json}
    (absent : ∀ k ∈ before, ¬ root.Holds k) (holds : root.Holds key) (after : List Text) :
    findFirstKey (before ++ key :: after) root = findKey key root := by
  -- The keys in front are passed over, one after the other.
  have passed : findFirstKey before root = none := findFirstKey_eq_none_iff.mpr absent
  obtain ⟨value, found⟩ : ∃ value, findKey key root = some value :=
    Option.ne_none_iff_exists'.mp fun missing => findKey_eq_none_iff.mp missing holds
  rw [findFirstKey] at passed ⊢
  rw [List.findSome?_append, passed, List.findSome?_cons, found]
  rfl

/-- The entries of a value are the pairs of all objects at any depth, in document order. The search
for a key finds the value of the first entry with the key, be it null or not, and nothing only if no
object has the key. The search for several keys is that for the first one that some object has, at
whatever depth the others are, and finds nothing only if there is none. -/
theorem first_in_document_order (root : Json) :
    Enumerates root.pairAt? (entries root) ∧
    (∀ key, findKey key root = lookup? key (entries root) ∧
      (findKey key root = none ↔ ¬ root.Holds key)) ∧
    (∀ before key after, (∀ k ∈ before, ¬ root.Holds k) → root.Holds key →
      findFirstKey (before ++ key :: after) root = findKey key root) ∧
    ∀ keys, findFirstKey keys root = none ↔ ∀ key ∈ keys, ¬ root.Holds key := by
  -- The enumeration comes first, as both searches are stated about it.
  refine ⟨enumerates_entries root, fun key => ?_, fun before key after => ?_, fun keys => ?_⟩
  · exact ⟨findKey_eq_lookup? key root, findKey_eq_none_iff⟩
  · exact fun absent holds => findFirstKey_append_cons absent holds after
  · exact findFirstKey_eq_none_iff

/-- A key with a null deep inside, and the same key with a list behind it. -/
def nullInside : Json :=
  obj [("meta", arr [obj [("values", null)]]), ("data", ofInt 2), ("values", arr [ofInt 1])]

/-- The null comes first in the document, and the key before the other one in the list. -/
theorem first_in_document_order_nullInside :
    (∀ k ∈ [("readings" : Text)], ¬ nullInside.Holds k) ∧ nullInside.Holds "values" ∧
    findFirstKey ["readings", "values", "data"] nullInside = some null ∧
    findFirstKey ["readings", "lista"] nullInside = none := by
  obtain ⟨-, search, several, nothing⟩ := first_in_document_order nullInside
  -- The search itself decides that a key is missing.
  have missing : ¬ nullInside.Holds "readings" := (search "readings").2.mp rfl
  have absent : ∀ k ∈ [("readings" : Text)], ¬ nullInside.Holds k :=
    List.forall_mem_singleton.mpr missing
  have holds : nullInside.Holds "values" := ⟨[0, 0, 0], null, rfl⟩
  have first : findKey "values" nullInside = some null := (search "values").1.trans rfl
  refine ⟨absent, holds, (several _ _ ["data"] absent holds).trans first, (nothing _).mpr ?_⟩
  simpa using ⟨missing, (search "lista").2.mp rfl⟩

end AirQuality.Json
