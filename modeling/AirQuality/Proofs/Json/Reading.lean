import AirQuality.Fault
import AirQuality.Json.Reader
import AirQuality.Proofs.Number.Numeral
import Mathlib.Data.List.TakeWhile

/-!
# What is read from a document

A property of values holds for whatever is read, if it holds for words, numbers and texts, and
carries over from the items of an array and the values of an object to the whole. A level of nesting
is spent on each array and object, so the property may speak of the levels that are left. Of the
integers only those with a numeral are read.

## Key results

- `ReadCases`: what has to be shown
- `ReadCases.of_readWithin`: then the property holds for every document that is read
-/

namespace AirQuality.Json

open Number (hasNumeral maxIntegerDigits)

/-- The cases of a property of values and of the levels of nesting that they are read with: one for
each kind of value. -/
structure ReadCases (motive : Nat → Json → Prop) : Prop where
  null : ∀ {levels : Nat}, motive levels null
  bool : ∀ {levels : Nat} (b : Bool), motive levels (bool b)
  /-- Only integers with a numeral are read. -/
  integer : ∀ {levels : Nat} {n : Int}, hasNumeral n = true → motive levels (ofInt n)
  double : ∀ {levels : Nat} (x : Float), motive levels (ofFloat x)
  text : ∀ {levels : Nat} (t : Text), motive levels (str t)
  /-- The items have the property at the level inside. -/
  items : ∀ {levels : Nat} {items : List Json}, (∀ item ∈ items, motive levels item) →
    motive (levels + 1) (arr items)
  /-- The values of the pairs have the property at the level inside. -/
  pairs : ∀ {levels : Nat} {pairs : List (Text × Json)}, (∀ pair ∈ pairs, motive levels pair.2) →
    motive (levels + 1) (obj pairs)

/-! ## Words and numbers -/

/-- The digits at the start of a text are digits. -/
private theorem lt_ten_of_mem_plainDigits {cs : List Char} {d : Nat}
    (mem : d ∈ (plainDigits cs).1) : d < 10 := by
  obtain ⟨c, there, rfl⟩ := List.mem_map.mp mem
  -- What is taken is a digit, and the value of a digit is its distance from that of zero.
  have digit := List.mem_takeWhile_imp there
  simp only [Char.isDigit, Bool.and_eq_true, decide_eq_true_eq, UInt32.le_iff_toNat_le] at digit
  have most : c.toNat ≤ 57 := digit.2
  omega

/-- So is a zero that stands alone. -/
private theorem lt_ten_of_mem_wholePart {cs : List Char} {d : Nat}
    (mem : d ∈ (wholePart cs).1) : d < 10 := by
  unfold wholePart at mem
  split at mem
  · rw [List.mem_singleton.mp mem]
    decide
  · exact lt_ten_of_mem_plainDigits mem

section Scalar

variable {motive : Nat → Json → Prop} (cases : ReadCases motive) {levels : Nat}

include cases

/-- A number that is an integer has at most 4300 digits. -/
private theorem ReadCases.of_number {cs rest : List Char} {v : Json}
    (read : number cs = .ok (v, rest)) : motive levels v := by
  simp only [number] at read
  split at read
  · -- There is no number without a digit.
    cases read
  · split at read
    · -- Neither a fraction nor an exponent: an integer, if it is not too long
      split at read
      · cases read
      · rename_i short
        obtain ⟨rfl, -⟩ := Prod.mk.inj (Except.ok.inj read)
        exact cases.integer (Number.hasNumeral_ofDigits (fun d => lt_ten_of_mem_wholePart)
          (Nat.le_of_not_lt short))
    · -- A double, of any length.
      obtain ⟨rfl, -⟩ := Prod.mk.inj (Except.ok.inj read)
      exact cases.double _

/-- A word is a constant or a double. -/
private theorem ReadCases.of_scalar {cs rest : List Char} {v : Json}
    (read : scalar cs = .ok (v, rest)) : motive levels v := by
  -- The words stand for a constant or a double, each of which is a case of its own.
  have known : ∀ entry ∈ words, motive levels entry.2 := by
    simp only [words, List.forall_mem_cons]
    exact ⟨cases.null, cases.bool true, cases.bool false, cases.double _, cases.double _,
      cases.double _, List.forall_mem_nil _⟩
  unfold scalar at read
  split at read
  · rename_i found word
    obtain ⟨entry, mem, taken⟩ := List.exists_of_findSome?_eq_some word
    obtain ⟨rest', -, same⟩ := Option.map_eq_some_iff.mp taken
    obtain ⟨rfl, -⟩ := Prod.mk.inj (same.trans (Except.ok.inj read))
    exact known entry mem
  · exact cases.of_number read

end Scalar

/-! ## Values -/

/-- The values of an object are the old ones and the one that is set. -/
private theorem mem_setPair {key : Text} {v : Json} {pairs : List (Text × Json)}
    {pair : Text × Json} (mem : pair ∈ setPair key v pairs) : pair.2 = v ∨ pair ∈ pairs := by
  -- The key is looked for from the front, and set at the end if it is new.
  induction pairs with
  | nil => exact .inl (congrArg Prod.snd (List.mem_singleton.mp mem))
  | cons p rest ih =>
    obtain ⟨k, v'⟩ := p
    rw [setPair] at mem
    split at mem
    · rcases List.mem_cons.mp mem with rfl | later
      · exact .inl rfl
      · exact .inr (List.mem_cons_of_mem _ later)
    · rcases List.mem_cons.mp mem with rfl | later
      · exact .inr List.mem_cons_self
      · exact (ih later).imp_right (List.mem_cons_of_mem _)

/-- An array or an object is entered if a level is left for it. -/
private theorem inside_eq_ok_iff {levels next : Nat} :
    inside levels = .ok next ↔ levels = next + 1 := by
  cases levels <;> simp [inside]

/-- What is given back at the end is the value, whatever is left to read. -/
private theorem eq_of_pure {α : Type} {a b : α × List Char}
    (same : (pure a : Except ReadError (α × List Char)) = .ok b) : a.1 = b.1 :=
  congrArg Prod.fst (Except.ok.inj same)

/-- What is read with some fuel has a property, be it a value, a list of items, or a list of pairs
behind others that have it. -/
private structure Reads (motive : Nat → Json → Prop) (fuel : Nat) : Prop where
  value : ∀ {levels cs v rest}, Json.value levels fuel cs = .ok (v, rest) → motive levels v
  items : ∀ {levels cs items rest}, itemsTail levels fuel cs = .ok (items, rest) →
    ∀ item ∈ items, motive levels item
  pairs : ∀ {levels pairs cs all rest}, (∀ pair ∈ pairs, motive levels pair.2) →
    pairsTail levels fuel pairs cs = .ok (all, rest) → ∀ pair ∈ all, motive levels pair.2

section Step

variable {motive : Nat → Json → Prop} {fuel levels : Nat} {cs rest : List Char}

/-- A value is read with what is inside it read before, with less fuel. -/
private theorem Reads.value_succ (h : Reads motive fuel) (cases : ReadCases motive) {v : Json}
    (read : Json.value levels (fuel + 1) cs = .ok (v, rest)) : motive levels v := by
  unfold Json.value at read
  split at read
  · -- A text has nothing inside.
    obtain ⟨_, -, same⟩ := bind_eq_ok_iff.mp read
    obtain rfl := eq_of_pure same
    exact cases.text _
  · -- An array takes a level, and its items are read with the others.
    obtain ⟨next, entered, content⟩ := bind_eq_ok_iff.mp read
    obtain rfl := inside_eq_ok_iff.mp entered
    split at content
    · obtain rfl := eq_of_pure content
      exact cases.items (List.forall_mem_nil _)
    · obtain ⟨⟨items, _⟩, listed, same⟩ := bind_eq_ok_iff.mp content
      obtain rfl := eq_of_pure same
      exact cases.items (h.items listed)
  · split at read
    · -- So does an object, in front of whose pairs there are none.
      obtain ⟨next, entered, content⟩ := bind_eq_ok_iff.mp read
      obtain rfl := inside_eq_ok_iff.mp entered
      split at content
      · split at content
        · obtain rfl := eq_of_pure content
          exact cases.pairs (List.forall_mem_nil _)
        · obtain ⟨⟨pairs, _⟩, listed, same⟩ := bind_eq_ok_iff.mp content
          obtain rfl := eq_of_pure same
          exact cases.pairs (h.pairs (List.forall_mem_nil _) listed)
      · cases content
    · -- Anything else is a word or a number.
      exact cases.of_scalar read
  · cases read

/-- Items are read one after the other. -/
private theorem Reads.items_succ (h : Reads motive fuel) {items : List Json}
    (read : itemsTail levels (fuel + 1) cs = .ok (items, rest)) :
    ∀ item ∈ items, motive levels item := by
  rw [itemsTail] at read
  obtain ⟨⟨item, _⟩, first, read⟩ := bind_eq_ok_iff.mp read
  have here := h.value first
  dsimp only at read
  split at read
  · -- A comma: the other items are read with less fuel.
    obtain ⟨⟨later, _⟩, behind, same⟩ := bind_eq_ok_iff.mp read
    obtain rfl := eq_of_pure same
    exact List.forall_mem_cons.mpr ⟨here, h.items behind⟩
  · obtain rfl := eq_of_pure read
    exact List.forall_mem_singleton.mpr here
  · cases read

/-- Pairs are read one after the other, and each is set among those in front of it. -/
private theorem Reads.pairs_succ (h : Reads motive fuel) {pairs all : List (Text × Json)}
    (front : ∀ pair ∈ pairs, motive levels pair.2)
    (read : pairsTail levels (fuel + 1) pairs cs = .ok (all, rest)) :
    ∀ pair ∈ all, motive levels pair.2 := by
  unfold pairsTail at read
  split at read
  · obtain ⟨⟨key, _⟩, -, read⟩ := bind_eq_ok_iff.mp read
    dsimp only at read
    split at read
    · obtain ⟨⟨item, _⟩, first, read⟩ := bind_eq_ok_iff.mp read
      -- A repeated key takes the new value, the other pairs stay.
      have set : ∀ pair ∈ setPair key item pairs, motive levels pair.2 := by
        intro pair mem
        rcases mem_setPair mem with same | old
        · rw [same]
          exact h.value first
        · exact front pair old
      dsimp only at read
      split at read
      · exact h.pairs set read
      · split at read
        · obtain rfl := eq_of_pure read
          exact set
        · cases read
      · cases read
    · cases read
  · cases read

end Step

/-- Whatever the fuel is, what is read has the property. -/
private theorem ReadCases.reads {motive : Nat → Json → Prop} (cases : ReadCases motive)
    (fuel : Nat) : Reads motive fuel := by
  -- Induction on the fuel, for the three mutual readers at once.
  induction fuel with
  | zero =>
    -- Without fuel nothing is read.
    constructor
    · intro levels cs v rest read
      cases read
    · intro levels cs items rest read
      cases read
    · intro levels pairs cs all rest _ read
      cases read
  | succ fuel ih => exact ⟨ih.value_succ cases, ih.items_succ, ih.pairs_succ⟩

/-- A property that carries over to arrays and objects holds for every document that is read. -/
theorem ReadCases.of_readWithin {motive : Nat → Json → Prop} (cases : ReadCases motive)
    {levels : Nat} {s : String} {v : Json} (read : readWithin levels s = .ok v) :
    motive levels v := by
  obtain ⟨⟨v', rest⟩, found, same⟩ := bind_eq_ok_iff.mp read
  -- Nothing but blanks may follow, and these have no part in the value.
  dsimp only at same
  split at same
  · obtain rfl := Except.ok.inj same
    exact (cases.reads _).value found
  · cases same

end AirQuality.Json
