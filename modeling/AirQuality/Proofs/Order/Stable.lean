import Mathlib.Data.List.Perm.Basic

/-!
# Stable sorting

A stable sort keeps the order of elements that are tied, that is, not separated by the order it
sorts by. This determines it: a list in order is known by what it makes of each class of tied
elements. So a stable sort may be exchanged with a filter, and a sort by another order with the
same ties leaves no trace.

## Key results

- `filter_mergeSort_of_tied`: a stable sort does not move tied elements past each other
- `eq_of_ties`: two lists in order are equal if they have the same ties in the same order
- `filter_mergeSort`: filtering before and after sorting is the same
- `filter_isPrefix`, `filter_isSuffix`: a list in order starts with what is below a bound, and ends
  with what is above one
- `mergeSort_mergeSort`: the last of two sorts with the same ties decides
-/

namespace AirQuality.Order

variable {α : Type} {le : α → α → Bool}

/-- Whether an order does not separate two elements. -/
def ties (le : α → α → Bool) (a b : α) : Bool := le a b && le b a

/-- An order that can compare any two elements, and whose comparisons can be chained. -/
structure IsTotal (le : α → α → Bool) : Prop where
  trans : ∀ a b c, le a b = true → le b c = true → le a c = true
  total : ∀ a b, (le a b || le b a) = true

/-- Tied elements are in order both ways. -/
theorem ties_iff {a b : α} : ties le a b = true ↔ le a b = true ∧ le b a = true := by
  simp [ties]

/-- An element is in order with itself. -/
theorem IsTotal.refl (h : IsTotal le) (a : α) : le a a = true := by
  simpa using h.total a a

/-- So it is tied with itself. -/
private theorem IsTotal.ties_self (h : IsTotal le) (a : α) : ties le a a = true :=
  ties_iff.mpr ⟨h.refl a, h.refl a⟩

/-- Sorting keeps the order of elements that are tied with each other. -/
theorem filter_mergeSort_of_tied (h : IsTotal le) {p : α → Bool}
    (tied : ∀ a b, p a = true → p b = true → le a b = true) (xs : List α) :
    (xs.mergeSort le).filter p = xs.filter p := by
  -- Of tied elements any list is in order.
  have sorted : (xs.filter p).Pairwise fun a b => le a b = true :=
    List.pairwise_of_forall_mem_list fun a ha b hb =>
      tied a b (List.mem_filter.mp ha).2 (List.mem_filter.mp hb).2
  -- The elements are a sorted sublist of the list, and so they are one of the sorted list.
  have kept : (xs.filter p).Sublist (xs.mergeSort le) :=
    List.sublist_mergeSort h.trans h.total sorted List.filter_sublist
  -- It is the same elements on both sides, and they are as many.
  have sublist : (xs.filter p).Sublist ((xs.mergeSort le).filter p) := by
    simpa using kept.filter p
  have perm := (List.mergeSort_perm xs le).filter p
  exact (sublist.eq_of_length perm.length_eq.symm).symm

/-- Sorting keeps the order of what is tied with an element. -/
private theorem filter_ties_mergeSort (h : IsTotal le) (a : α) (xs : List α) :
    (xs.mergeSort le).filter (ties le a) = xs.filter (ties le a) := by
  refine filter_mergeSort_of_tied h (fun x y hx hy => ?_) xs
  -- What is tied with one element is tied with each other.
  exact h.trans x a y (ties_iff.mp hx).2 (ties_iff.mp hy).1

/-- Tied elements of the sorted list stand to each other as they did before. -/
theorem pairwise_mergeSort_of_ties (h : IsTotal le) {r : α → α → Prop} {xs : List α}
    (before : xs.Pairwise r) :
    (xs.mergeSort le).Pairwise fun a b => ties le a b = true → r a b := by
  -- Two elements in a row are a sublist, and the filter keeps it.
  refine List.pairwise_iff_forall_sublist.mpr fun {a b} pair tied => ?_
  have both : [a, b].Sublist ((xs.mergeSort le).filter (ties le a)) := by
    simpa [h.ties_self a, tied] using pair.filter (ties le a)
  rw [filter_ties_mergeSort h] at both
  exact List.pairwise_iff_forall_sublist.mp before (both.trans List.filter_sublist)

/-- What is tied with itself shows in its own class. -/
private theorem mem_of_ties (h : IsTotal le) {xs ys : List α}
    (same : ∀ a, xs.filter (ties le a) = ys.filter (ties le a)) {a : α} (mem : a ∈ xs) :
    a ∈ ys := by
  have own : a ∈ xs.filter (ties le a) := List.mem_filter.mpr ⟨mem, h.ties_self a⟩
  rw [same a] at own
  exact List.mem_of_mem_filter own

/-- The first element of a list in order is not above the others, nor above itself. -/
private theorem le_of_mem (h : IsTotal le) {x a : α} {xs : List α}
    (sorted : (x :: xs).Pairwise fun x y => le x y = true) (mem : a ∈ x :: xs) :
    le x a = true := by
  rcases List.mem_cons.mp mem with rfl | later
  · exact h.refl a
  · exact List.rel_of_pairwise_cons sorted later

/-- Lists in order are equal if they have the same tied elements in the same order. -/
theorem eq_of_ties (h : IsTotal le) {xs ys : List α}
    (sorted : xs.Pairwise fun x y => le x y = true)
    (sorted' : ys.Pairwise fun x y => le x y = true)
    (same : ∀ a, xs.filter (ties le a) = ys.filter (ties le a)) : xs = ys := by
  -- Induction on the first list; the second one loses the same element.
  induction xs generalizing ys with
  | nil =>
    cases ys with
    | nil => rfl
    | cons y ys => exact absurd (mem_of_ties h (fun a => (same a).symm) List.mem_cons_self) (by simp)
  | cons x xs ih =>
    cases ys with
    | nil => exact absurd (mem_of_ties h same List.mem_cons_self) (by simp)
    | cons y ys =>
      -- Each of the two first elements is in the other list, and so they are tied.
      have xy : le x y = true :=
        le_of_mem h sorted (mem_of_ties h (fun a => (same a).symm) List.mem_cons_self)
      have yx : le y x = true := le_of_mem h sorted' (mem_of_ties h same List.mem_cons_self)
      have tied : ties le x y = true := ties_iff.mpr ⟨xy, yx⟩
      have first : x = y := by
        have heads := same x
        rw [List.filter_cons_of_pos (h.ties_self x), List.filter_cons_of_pos tied] at heads
        exact (List.cons.inj heads).1
      subst first
      -- Without the common first element the two lists have the same ties still.
      have rest : xs = ys := by
        refine ih sorted.of_cons sorted'.of_cons fun a => ?_
        have class_eq := same a
        by_cases tied : ties le a x = true
        · rw [List.filter_cons_of_pos tied, List.filter_cons_of_pos tied] at class_eq
          exact (List.cons.inj class_eq).2
        · rwa [List.filter_cons_of_neg tied, List.filter_cons_of_neg tied] at class_eq
      rw [rest]

/-- A filter may be asked before a stable sort or after it. -/
theorem filter_mergeSort (h : IsTotal le) (p : α → Bool) (xs : List α) :
    (xs.mergeSort le).filter p = (xs.filter p).mergeSort le := by
  -- Both sides are in order, so only the ties are left to be compared.
  refine eq_of_ties h ?_ (List.pairwise_mergeSort h.trans h.total _) fun a => ?_
  · exact (List.pairwise_mergeSort h.trans h.total xs).filter p
  · rw [filter_ties_mergeSort h, List.filter_comm, filter_ties_mergeSort h, List.filter_comm]

/-- In a list in order, what is below a bound comes first. -/
theorem filter_isPrefix {r : α → α → Prop} {p : α → Bool} {xs : List α} (sorted : xs.Pairwise r)
    (down : ∀ a b, r a b → p b = true → p a = true) : xs.filter p <+: xs := by
  induction xs with
  | nil => exact List.nil_prefix
  | cons x xs ih =>
    by_cases below : p x = true
    · rw [List.filter_cons_of_pos below]
      exact (List.prefix_cons_inj x).mpr (ih sorted.of_cons)
    · -- Nothing behind an element above the bound is below it.
      have none : xs.filter p = [] := by
        apply List.filter_eq_nil_iff.mpr
        intro y hy belowY
        exact below (down x y (List.rel_of_pairwise_cons sorted hy) belowY)
      rw [List.filter_cons_of_neg below, none]
      exact List.nil_prefix

/-- In a list in order, what is above a bound comes last. -/
theorem filter_isSuffix {r : α → α → Prop} {p : α → Bool} {xs : List α} (sorted : xs.Pairwise r)
    (up : ∀ a b, r a b → p a = true → p b = true) : xs.filter p <:+ xs := by
  -- Read from behind, the bound is one from above.
  have reversed : xs.reverse.filter p <+: xs.reverse :=
    filter_isPrefix (List.pairwise_reverse.mpr sorted) fun a b ba above => up b a ba above
  rwa [List.filter_reverse, List.reverse_prefix] at reversed

/-- Of two stable sorts one after the other, the second one decides, if their orders have the same
ties. -/
theorem mergeSort_mergeSort (h : IsTotal le) {before : α → α → Bool} (h' : IsTotal before)
    (same : ∀ a b, ties le a b = ties before a b) (xs : List α) :
    (xs.mergeSort before).mergeSort le = xs.mergeSort le := by
  -- The first sort leaves no trace: ties of the one order are ties of the other one.
  refine eq_of_ties h (List.pairwise_mergeSort h.trans h.total _)
    (List.pairwise_mergeSort h.trans h.total _) fun a => ?_
  have classes : ties le a = ties before a := funext (same a)
  calc ((xs.mergeSort before).mergeSort le).filter (ties le a)
      = (xs.mergeSort before).filter (ties le a) := filter_ties_mergeSort h a _
    _ = xs.filter (ties le a) := by rw [classes, filter_ties_mergeSort h' a xs]
    _ = (xs.mergeSort le).filter (ties le a) := (filter_ties_mergeSort h a xs).symm

end AirQuality.Order
