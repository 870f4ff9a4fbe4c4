import Mathlib.Data.List.Perm.Basic

/-!
# The first greatest element

A search that goes through a list and takes an element only if its key is strictly greater than the
best one so far ends at the first of the elements with the greatest key. Where keys are distinct
there is only one such element, and the order of the list leaves no trace.

## Key results

- `IsFirstGreatest.snoc`: one step of the search
- `IsFirstGreatest.unique`: there is no other such element
- `IsFirstGreatest.perm`: nor in another order, where keys are distinct
-/

namespace AirQuality.Order

variable {α : Type} {key : α → Int} {xs ys : List α} {x y best : α}

/-- Whether an element is the first one with the greatest key. -/
structure IsFirstGreatest (key : α → Int) (xs : List α) (x : α) : Prop where
  greatest : ∀ y ∈ xs, key y ≤ key x
  first : (xs.filter fun y => key y == key x).head? = some x

/-- Whether all keys are different. -/
def DistinctKeys (key : α → Int) (xs : List α) : Prop := xs.Pairwise fun a b => key a ≠ key b

instance : Decidable (DistinctKeys key xs) :=
  inferInstanceAs (Decidable (xs.Pairwise fun a b => key a ≠ key b))

/-- Of distinct keys each one is that of a single element. -/
theorem filter_key_of_mem (distinct : DistinctKeys key xs) (mem : x ∈ xs) :
    (xs.filter fun y => key y == key x) = [x] := by
  -- Behind an element of the key no other one can have it.
  induction xs with
  | nil => cases mem
  | cons a xs ih =>
    obtain ⟨apart, rest⟩ := List.pairwise_cons.mp distinct
    rcases List.mem_cons.mp mem with rfl | later
    · have none : xs.filter (fun y => key y == key x) = [] := by
        simpa using fun y mem' => (apart y mem').symm
      simp [none]
    · rw [List.filter_cons_of_neg (by simpa using apart x later), ih rest later]

/-- Keys that differ do so in any order. -/
theorem DistinctKeys.perm (distinct : DistinctKeys key xs) (perm : xs.Perm ys) :
    DistinctKeys key ys :=
  List.Perm.pairwise perm distinct fun apart => apart.symm

namespace IsFirstGreatest

/-- The first one with the greatest key is one of the elements. -/
theorem mem (best : IsFirstGreatest key xs x) : x ∈ xs :=
  (List.mem_filter.mp (List.mem_of_head? best.first)).1

/-- There is no other element that is first and greatest. -/
theorem unique (hx : IsFirstGreatest key xs x) (hy : IsFirstGreatest key xs y) : x = y := by
  -- Each of the two has at least the key of the other one, and then they are first of the same.
  have same : key x = key y :=
    Int.le_antisymm (hy.greatest x hx.mem) (hx.greatest y hy.mem)
  have first := hx.first
  rw [same, hy.first] at first
  exact (Option.some.inj first).symm

/-- A further element takes the place of the best one only if its key is strictly greater. -/
theorem snoc (isBest : IsFirstGreatest key xs best) (x : α) :
    IsFirstGreatest key (xs ++ [x]) (if key best < key x then x else best) := by
  split
  · -- The new one is greater than the best one, and so than all of them: none of those has its key.
    rename_i greater
    have less : ∀ y ∈ xs, key y < key x := fun y mem =>
      Int.lt_of_le_of_lt (isBest.greatest y mem) greater
    constructor
    · intro y mem
      rcases List.mem_append.mp mem with old | new
      · exact Int.le_of_lt (less y old)
      · exact List.mem_singleton.mp new ▸ Int.le_refl _
    · have none : xs.filter (fun y => key y == key x) = [] := by
        simpa using fun y mem => Int.ne_of_lt (less y mem)
      simp [none]
  · -- The new one is behind the best one, even if it has the same key.
    rename_i notGreater
    constructor
    · intro y mem
      rcases List.mem_append.mp mem with old | new
      · exact isBest.greatest y old
      · rw [List.mem_singleton.mp new]
        exact Int.not_lt.mp notGreater
    · rw [List.filter_append, List.head?_append, isBest.first]
      rfl

/-- A single element is the first and the greatest. -/
theorem singleton (x : α) : IsFirstGreatest key [x] x := ⟨by simp, by simp⟩

/-- Where keys are distinct, there is nothing to be first of. -/
theorem of_distinct (distinct : DistinctKeys key xs) (mem : x ∈ xs)
    (greatest : ∀ y ∈ xs, key y ≤ key x) : IsFirstGreatest key xs x where
  greatest := greatest
  first := by rw [filter_key_of_mem distinct mem, List.head?_singleton]

/-- Where keys are distinct, the order does not matter. -/
theorem perm (distinct : DistinctKeys key xs) (perm : xs.Perm ys)
    (isBest : IsFirstGreatest key xs x) : IsFirstGreatest key ys x :=
  of_distinct (distinct.perm perm) (perm.mem_iff.mp isBest.mem) fun y mem =>
    isBest.greatest y (perm.mem_iff.mpr mem)

end IsFirstGreatest

end AirQuality.Order
