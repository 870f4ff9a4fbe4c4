import AirQuality.Json.Search
import AirQuality.Proofs.Json.Reading

/-!
# Nesting

How deep a value is nested decides whether it is read, and whether it can be searched. The reader
counts the levels of arrays and objects; the search calls itself once more for every value inside
another one. With room for one call more than levels are read, a search never fails.

## Key results

- `findFirstKeyWithin_eq`: a search answers what it would with any room, if there is room as deep as
  it goes
- `reachOfKeys_le_height`, `reachOfKeys_of_missing`: how deep it goes
- `height_le_of_readWithin`: what is read is not much higher than the levels of nesting
- `readWithin_brackets`: brackets inside one another are read if there are levels enough
-/

namespace AirQuality.Json

/-! ## How deep a search goes -/

mutual

/-- How many calls are inside one another before the search for a key has an answer. -/
def reach (key : Text) : Json → Nat
  | obj pairs => reachInPairs key pairs + 1
  | arr items => reachInItems key items + 1
  | _ => 1

/-- How deep the search goes below an object: not into what comes behind a hit. -/
def reachInPairs (key : Text) : List (Text × Json) → Nat
  | [] => 0
  | (k, v) :: rest =>
    if k = key then 0
    else if (findKey key v).isSome then reach key v
    else max (reach key v) (reachInPairs key rest)

/-- How deep the search goes below an array. -/
def reachInItems (key : Text) : List Json → Nat
  | [] => 0
  | v :: rest =>
    if (findKey key v).isSome then reach key v else max (reach key v) (reachInItems key rest)

end

/-- How deep the search for the first of several keys goes. -/
def reachOfKeys : List Text → Json → Nat
  | [], _ => 0
  | key :: keys, root =>
    if (findKey key root).isSome then reach key root
    else max (reach key root) (reachOfKeys keys root)

/-- Every search makes at least one call. -/
private theorem reach_pos (key : Text) (v : Json) : 0 < reach key v := by
  cases v <;> simp [reach]

/-- An answer that takes so many calls inside one another, where there is room for some. -/
def answerWithin (room calls : Nat) (found : Option Json) : Except Fault (Option Json) :=
  if calls ≤ room then .ok found else .error .tooDeep

/-- A search goes on behind a value only if it has found nothing there, and needs more room only
then. -/
private theorem answerWithin_goOn (room here later : Nat) (first second : Option Json) :
    (match answerWithin room here first with
      | .ok none => answerWithin room later second
      | decided => decided) =
      answerWithin room (if first.isSome then here else max here later)
        (match first with
          | some hit => some hit
          | none => second) := by
  unfold answerWithin
  -- A search that fails in front of a hit does not come to what is behind.
  by_cases enough : here ≤ room
  · cases first <;> simp [enough]
  · have short : ¬ max here later ≤ room := fun all => enough (Nat.max_le.mp all).1
    cases first <;> simp only [enough, short, if_false, Option.isSome_none, Option.isSome_some,
      if_true, Bool.false_eq_true]

mutual

/-- The search answers what it would with any room, if there is room as deep as it goes. -/
private theorem findKeyWithin_eq (key : Text) : ∀ (room : Nat) (v : Json),
    findKeyWithin key room v =
      answerWithin room (reach key v) (findKey key v)
  | 0, v => by
    -- Without room not even the first call can be made.
    rw [findKeyWithin, answerWithin, if_neg (Nat.not_le.mpr (reach_pos key v))]
  | room + 1, obj pairs => by
    -- The call for the object takes one place, and the rest of the room is left for its values.
    simp only [findKeyWithin, reach, findKey, answerWithin, Nat.add_le_add_iff_right]
    exact findInPairsWithin_eq key room pairs
  | room + 1, arr items => by
    simp only [findKeyWithin, reach, findKey, answerWithin, Nat.add_le_add_iff_right]
    exact findInItemsWithin_eq key room items
  | room + 1, null => by simp [findKeyWithin, reach, findKey, answerWithin]
  | room + 1, bool _ => by simp [findKeyWithin, reach, findKey, answerWithin]
  | room + 1, num _ => by simp [findKeyWithin, reach, findKey, answerWithin]
  | room + 1, str _ => by simp [findKeyWithin, reach, findKey, answerWithin]

/-- The search through pairs stops at a hit, so that what comes behind it may go deeper. -/
private theorem findInPairsWithin_eq (key : Text) (room : Nat) : ∀ pairs : List (Text × Json),
    findInPairsWithin key room pairs =
      answerWithin room (reachInPairs key pairs) (findInPairs key pairs)
  | [] => by simp [findInPairsWithin, reachInPairs, findInPairs, answerWithin]
  | (k, v) :: rest => by
    rw [findInPairsWithin, reachInPairs, findInPairs]
    split
    · -- The key is here, and no call is made for the value.
      exact (if_pos (Nat.zero_le room)).symm
    · rw [findKeyWithin_eq key room v, findInPairsWithin_eq key room rest]
      exact answerWithin_goOn room _ _ _ _

/-- The search through items stops at a hit, too. -/
private theorem findInItemsWithin_eq (key : Text) (room : Nat) : ∀ items : List Json,
    findInItemsWithin key room items =
      answerWithin room (reachInItems key items) (findInItems key items)
  | [] => by simp [findInItemsWithin, reachInItems, findInItems, answerWithin]
  | v :: rest => by
    rw [findInItemsWithin, reachInItems, findInItems, findKeyWithin_eq key room v,
      findInItemsWithin_eq key room rest]
    exact answerWithin_goOn room _ _ _ _

end

/-- The search for several keys answers what it would with any room, if there is room as deep as it
goes. -/
theorem findFirstKeyWithin_eq (room : Nat) (keys : List Text) (root : Json) :
    findFirstKeyWithin room keys root =
      answerWithin room (reachOfKeys keys root) (findFirstKey keys root) := by
  -- On the keys: each of them is a search of its own, with the same room.
  induction keys with
  | nil => simp [findFirstKeyWithin, reachOfKeys, findFirstKey, answerWithin]
  | cons key keys ih =>
    rw [findFirstKeyWithin, reachOfKeys, findFirstKey, List.findSome?_cons,
      -- Bridge: what is found for the first key decides whether the others are looked for.
      findKeyWithin_eq key room root, ih]
    generalize findKey key root = first
    cases first <;> exact answerWithin_goOn room _ _ _ (findFirstKey keys root)

mutual

/-- No search goes deeper than the value is high. -/
private theorem reach_le_height (key : Text) : ∀ v : Json, reach key v ≤ v.height
  | obj pairs => Nat.succ_le_succ (reachInPairs_le_height key pairs)
  | arr items => Nat.succ_le_succ (reachInItems_le_height key items)
  | null => Nat.le_refl 1
  | bool _ => Nat.le_refl 1
  | num _ => Nat.le_refl 1
  | str _ => Nat.le_refl 1

/-- No search in an object goes deeper than its values are high. -/
private theorem reachInPairs_le_height (key : Text) :
    ∀ pairs : List (Text × Json), reachInPairs key pairs ≤ heightOfPairs pairs
  | [] => Nat.le_refl 0
  | (k, v) :: rest => by
    -- A pair with the key costs nothing; a value is entered, and then perhaps the others.
    have first := reach_le_height key v
    have later := reachInPairs_le_height key rest
    simp only [reachInPairs, heightOfPairs]
    split
    · omega
    · split <;> omega

/-- No search in an array goes deeper than its items are high. -/
private theorem reachInItems_le_height (key : Text) :
    ∀ items : List Json, reachInItems key items ≤ heightOfItems items
  | [] => Nat.le_refl 0
  | v :: rest => by
    have first := reach_le_height key v
    have later := reachInItems_le_height key rest
    simp only [reachInItems, heightOfItems]
    split <;> omega

end

/-- The search for several keys is no deeper than that for one of them can be. -/
theorem reachOfKeys_le_height (keys : List Text) (root : Json) :
    reachOfKeys keys root ≤ root.height := by
  induction keys with
  | nil => exact Nat.zero_le _
  | cons key keys ih =>
    have first := reach_le_height key root
    rw [reachOfKeys]
    split <;> omega

mutual

/-- A search that finds nothing goes through the whole value. -/
private theorem reach_of_missing {key : Text} :
    ∀ {v : Json}, findKey key v = none → reach key v = v.height
  | obj pairs, missing => by rw [reach, height, reachInPairs_of_missing missing]
  | arr items, missing => by rw [reach, height, reachInItems_of_missing missing]
  | null, _ => rfl
  | bool _, _ => rfl
  | num _, _ => rfl
  | str _, _ => rfl

/-- A search in an object that finds nothing goes through all its values. -/
private theorem reachInPairs_of_missing {key : Text} : ∀ {pairs : List (Text × Json)},
    findInPairs key pairs = none → reachInPairs key pairs = heightOfPairs pairs
  | [], _ => rfl
  | (k, v) :: rest, missing => by
    rw [findInPairs] at missing
    -- The key is not that of the first pair, and is not inside of its value either.
    split at missing
    · cases missing
    · rename_i other
      cases inside : findKey key v with
      | some hit => simp [inside] at missing
      | none =>
        simp only [inside] at missing
        simp [reachInPairs, heightOfPairs, other, inside, reach_of_missing inside,
          reachInPairs_of_missing missing]

/-- A search in an array that finds nothing goes through all its items. -/
private theorem reachInItems_of_missing {key : Text} : ∀ {items : List Json},
    findInItems key items = none → reachInItems key items = heightOfItems items
  | [], _ => rfl
  | v :: rest, missing => by
    rw [findInItems] at missing
    -- Nothing is found in the first item, so the search goes through the others as well.
    cases inside : findKey key v with
    | some hit => simp [inside] at missing
    | none =>
      simp only [inside] at missing
      simp [reachInItems, heightOfItems, inside, reach_of_missing inside,
        reachInItems_of_missing missing]

end

/-- Where none of the keys occurs, the search goes as deep as the value is high. -/
theorem reachOfKeys_of_missing {keys : List Text} {root : Json} (some : keys ≠ [])
    (missing : findFirstKey keys root = none) : reachOfKeys keys root = root.height := by
  induction keys with
  | nil => exact absurd rfl some
  | cons key keys ih =>
    rw [findFirstKey, List.findSome?_cons] at missing
    cases first : findKey key root with
    | some hit => simp [first] at missing
    | none =>
      simp only [first] at missing
      have here := reach_of_missing first
      -- The keys behind the first one go no deeper.
      have later := reachOfKeys_le_height keys root
      simp only [reachOfKeys, first, Option.isSome_none, Bool.false_eq_true, if_false]
      omega

/-! ## What is read -/

/-- The items of an array are as high as the highest of them. -/
theorem heightOfItems_le_iff {n : Nat} {items : List Json} :
    heightOfItems items ≤ n ↔ ∀ item ∈ items, item.height ≤ n := by
  induction items with
  | nil => simp [heightOfItems]
  | cons v rest ih => rw [heightOfItems, Nat.max_le, ih, List.forall_mem_cons]

/-- The values of an object are as high as the highest of them. -/
theorem heightOfPairs_le_iff {n : Nat} {pairs : List (Text × Json)} :
    heightOfPairs pairs ≤ n ↔ ∀ pair ∈ pairs, pair.2.height ≤ n := by
  induction pairs with
  | nil => simp [heightOfPairs]
  | cons p rest ih =>
    obtain ⟨k, v⟩ := p
    rw [heightOfPairs, Nat.max_le, ih, List.forall_mem_cons]

/-- A value is at most one higher than the levels that it is read with. -/
private theorem readCases_height : ReadCases fun levels v => v.height ≤ levels + 1 where
  null := Nat.le_add_left 1 _
  bool _ := Nat.le_add_left 1 _
  integer _ := Nat.le_add_left 1 _
  double _ := Nat.le_add_left 1 _
  text _ := Nat.le_add_left 1 _
  items each := Nat.succ_le_succ (heightOfItems_le_iff.mpr each)
  pairs each := Nat.succ_le_succ (heightOfPairs_le_iff.mpr each)

/-- A document has at most one value more inside one another than there are levels of nesting. -/
theorem height_le_of_readWithin {levels : Nat} {s : String} {v : Json}
    (read : readWithin levels s = .ok v) : v.height ≤ levels + 1 :=
  readCases_height.of_readWithin read

/-! ## Brackets -/

/-- Empty arrays inside one another. -/
def nested : Nat → Json
  | 0 => arr []
  | n + 1 => arr [nested n]

/-- The text of empty arrays inside one another: so many brackets, and as many that close them. -/
def brackets (n : Nat) : List Char := List.replicate n '[' ++ List.replicate n ']'

/-- Arrays inside one another are as high as there are of them. -/
theorem height_nested (n : Nat) : (nested n).height = n + 1 := by
  induction n with
  | zero => rfl
  | succ n ih => simp [nested, height, heightOfItems, ih]

/-- There is no object in the arrays, and no key. -/
theorem findKey_nested (key : Text) (n : Nat) : findKey key (nested n) = none := by
  induction n with
  | zero => rfl
  | succ n ih => simp [nested, findKey, findInItems, ih]

/-- The outermost brackets stand around all the others. -/
private theorem brackets_succ_append (n : Nat) (rest : List Char) :
    brackets (n + 1) ++ rest = '[' :: (brackets n ++ ']' :: rest) := by
  rw [brackets, List.replicate_succ, List.replicate_succ', brackets]
  simp only [List.cons_append, List.append_assoc, List.nil_append]

/-- An array of one item is read if the item is. -/
private theorem value_singleton {levels fuel : Nat} {c : Char} {cs rest : List Char} {v : Json}
    (token : isSpace c = false) (isItem : c ≠ ']')
    (read : value levels fuel (c :: cs) = .ok (v, ']' :: rest)) :
    value (levels + 1) (fuel + 2) ('[' :: c :: cs) = .ok (arr [v], rest) := by
  have first : skipSpace (c :: cs) = c :: cs := by simp [skipSpace, token]
  rw [value]
  simp only [inside, bind, Except.bind, first]
  split
  · rename_i empty
    exact absurd (List.cons.inj empty).1 isItem
  · -- The item is followed by the closing bracket.
    simp [itemsTail, read, bind, Except.bind, pure, Except.pure, skipSpace, isSpace]

/-- Brackets are read with a level for each pair, and two units of fuel. -/
private theorem value_brackets {n levels fuel : Nat} (deep : n < levels) (enough : 2 * n < fuel)
    (rest : List Char) : value levels fuel (brackets (n + 1) ++ rest) = .ok (nested n, rest) := by
  induction n generalizing levels fuel rest with
  | zero =>
    -- An empty array takes one level and one unit of fuel.
    obtain ⟨levels, rfl⟩ := Nat.exists_eq_succ_of_ne_zero (Nat.ne_of_gt deep)
    obtain ⟨fuel, rfl⟩ := Nat.exists_eq_succ_of_ne_zero (Nat.ne_of_gt enough)
    simp [brackets, value, inside, skipSpace, isSpace, nested, bind, Except.bind, pure, Except.pure]
  | succ n ih =>
    -- One unit of fuel is spent on the outermost array, and one on its only item.
    obtain ⟨levels, rfl⟩ : ∃ l, levels = l + 1 := ⟨levels - 1, by omega⟩
    obtain ⟨fuel, rfl⟩ : ∃ f, fuel = f + 2 := ⟨fuel - 2, by omega⟩
    have item := ih (show n < levels by omega) (show 2 * n < fuel by omega) (']' :: rest)
    rw [brackets_succ_append]
    rw [brackets_succ_append] at item ⊢
    exact value_singleton rfl (by decide) item

/-- Brackets are read if there is a level for each of them. -/
theorem readWithin_brackets {levels n : Nat} (deep : n < levels) :
    readWithin levels (String.ofList (brackets (n + 1))) = .ok (nested n) := by
  -- Two units for each pair of brackets is what the text of a document has.
  have fuelled : 2 * n < 2 * (brackets (n + 1)).length + 1 := by
    simp only [brackets, List.length_append, List.length_replicate]
    omega
  have read := value_brackets deep fuelled []
  have first : skipSpace (brackets (n + 1)) = brackets (n + 1) := by
    simp [skipSpace, brackets, List.replicate_succ, isSpace]
  rw [List.append_nil] at read
  simp only [readWithin, String.toList_ofList, first, read, bind, Except.bind]
  rfl

end AirQuality.Json
