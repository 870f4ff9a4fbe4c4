import AirQuality.Order.Run

/-!
# Merging runs

Two neighbouring runs are merged stably. The elements are taken from the front, or from the back if
the right run is the shorter one. They are compared one at a time until one of the runs has given so
many in a row that patience ends; then the elements are taken in leaps, whose lengths are found by
strides that double and a bisection, for as long as the leaps are long. Patience goes down while
leaps pay and up when they do not, and it is kept from one merge to the next.

Nothing is assumed of the order, so that this also says what happens to elements that do not
compare.

* `gallop`: the place where a property begins to hold, searched from one end
* `mergeRuns`: the merged run, and the patience that is left
* `mergeRuns_perm`: nothing is lost
-/

namespace AirQuality.Order

variable {α : Type}

/-- Strides of 1, 3, 7, … steps for as long as a property holds at their ends: the last one that
held, and the one that did not or reached the limit. -/
def stride (p : Nat → Bool) (limit last next : Nat) : Nat × Nat :=
  if h : next < limit ∧ p next = true then stride p limit next (2 * next + 1)
  else (last, min next limit)
termination_by limit - next
decreasing_by omega

/-- The place from which on the elements have a property, if none of them loses it again. The search
starts at an element and goes where the property changes. -/
def gallop (p : α → Bool) (xs : List α) (start : Nat) : Nat :=
  let holds (i : Nat) : Bool := xs[i]?.any p
  if holds start then
    let (last, next) := stride (fun n => holds (start - n)) (start + 1) 0 1
    bisect p xs (start + 1 - next) (start - last)
  else
    let (last, next) := stride (fun n => !holds (start + n)) (xs.length - start) 0 1
    bisect p xs (start + last + 1) (start + next)

/-- Leaps of this length are worth their search. -/
def longLeap : Nat := 7

/-- The way in which elements are taken: one at a time, with the numbers of those that the left and
the right run have given in a row, or in leaps. -/
inductive Pace where
  | single (lefts rights : Nat)
  | leaps
deriving Repr, DecidableEq

/-- A merge on its way. -/
structure Merging (α : Type) where
  /-- The elements taken, the last one first. -/
  taken : List α
  /-- What is left of the left run, in the order in which it is taken. -/
  left : List α
  /-- What is left of the right run, in the order in which it is taken. -/
  right : List α
  /-- How many elements in a row end the pace of one at a time. -/
  patience : Nat
  pace : Pace

namespace Merging

/-- All elements, in some order. -/
def elements (m : Merging α) : List α := m.taken ++ (m.left ++ m.right)

/-- Takes elements of the left run. -/
def takeLeft (n : Nat) (m : Merging α) : Merging α :=
  { m with taken := (m.left.take n).reverse ++ m.taken, left := m.left.drop n }

/-- Takes elements of the right run. -/
def takeRight (n : Nat) (m : Merging α) : Merging α :=
  { m with taken := (m.right.take n).reverse ++ m.taken, right := m.right.drop n }

/-- Whether the rest needs no comparison: a run is used up, or a single element is left of the
shorter one. That element comes after the rest of the other run if elements are taken from the
front, and before it if they are taken from the back. -/
def isDone (fromBack : Bool) (m : Merging α) : Bool :=
  if fromBack then m.right.length ≤ 1 || m.left.isEmpty
  else m.left.length ≤ 1 || m.right.isEmpty

/-- The merged run, once the rest needs no comparison. -/
def result (fromBack : Bool) (m : Merging α) : List α :=
  if fromBack then m.right.reverse ++ (m.left.reverse ++ m.taken)
  else m.taken.reverse ++ (m.right ++ m.left)

/-- Goes on unless the merge is done. -/
def unlessDone (fromBack : Bool) (next : Merging α → Merging α) (m : Merging α) : Merging α :=
  if m.isDone fromBack then m else next m

/-- Whether the next element of the right run is less than that of the left run. -/
def rightIsLess (lt : α → α → Bool) (m : Merging α) : Bool :=
  m.right.head?.any fun y => m.left.head?.any fun x => lt y x

/-- Takes one element. -/
def single (lt : α → α → Bool) (fromBack : Bool) (lefts rights : Nat) (m : Merging α) :
    Merging α :=
  -- The lesser element is taken from the front, and the other one from the back.
  if m.rightIsLess lt != fromBack then
    { m.takeRight 1 with
      pace := if m.patience ≤ rights + 1 then .leaps else .single 0 (rights + 1) }
  else
    { m.takeLeft 1 with
      pace := if m.patience ≤ lefts + 1 then .leaps else .single (lefts + 1) 0 }

/-- How many elements in a row are taken from a run, if a property holds for those towards its
back. -/
def leap (fromBack : Bool) (p : α → Bool) (run : List α) : Nat :=
  if fromBack then run.length - gallop p run.reverse (run.length - 1) else gallop p run 0

/-- Takes a leap and an element of either run. -/
def leapBoth (lt : α → α → Bool) (fromBack : Bool) (m : Merging α) : Merging α :=
  let lefts := leap fromBack (fun z => m.right.head?.any fun y => lt y z) m.left
  (m.takeLeft lefts).unlessDone fromBack fun m =>
  (m.takeRight 1).unlessDone fromBack fun m =>
  let rights := leap fromBack (fun z => m.left.head?.any fun x => !lt z x) m.right
  (m.takeRight rights).unlessDone fromBack fun m =>
  (m.takeLeft 1).unlessDone fromBack fun m =>
  if longLeap ≤ lefts ∨ longLeap ≤ rights then { m with patience := max 1 (m.patience - 1) }
  else { m with patience := m.patience + 1, pace := .single 0 0 }

/-- Goes one step on. -/
def step (lt : α → α → Bool) (fromBack : Bool) (m : Merging α) : Merging α :=
  match m.pace with
  | .single lefts rights => m.single lt fromBack lefts rights
  | .leaps => m.leapBoth lt fromBack

/-- Goes on until the merge is done, or for some steps. -/
def steps (lt : α → α → Bool) (fromBack : Bool) : Nat → Merging α → Merging α
  | 0, m => m
  | n + 1, m => m.unlessDone fromBack fun m => steps lt fromBack n (m.step lt fromBack)

end Merging

/-- The merge of a run that starts after the first element of its right neighbour and of one that
ends before the last element of its left neighbour. -/
def mergeOverlap (lt : α → α → Bool) (patience : Nat) (left right : List α) : List α × Nat :=
  let fromBack := decide (right.length < left.length)
  let m : Merging α :=
    if fromBack then Merging.takeLeft 1 ⟨[], left.reverse, right.reverse, patience, .single 0 0⟩
    else Merging.takeRight 1 ⟨[], left, right, patience, .single 0 0⟩
  -- A step takes an element at least.
  let m := m.steps lt fromBack (left.length + right.length)
  (m.result fromBack, m.patience)

/-- The merged run of two neighbouring runs, and the patience that is left. What is in its place
already, at the front of the left run and at the back of the right run, is left there. -/
def mergeRuns (lt : α → α → Bool) (patience : Nat) (left right : List α) : List α × Nat :=
  let before := gallop (fun z => right.head?.any fun y => lt y z) left 0
  let overlap := left.drop before
  if overlap.isEmpty then (left ++ right, patience)
  else
    let among :=
      gallop (fun z => overlap.getLast?.any fun x => !lt z x) right (right.length - 1)
    if among = 0 then (left ++ right, patience)
    else
      let (merged, patience) := mergeOverlap lt patience overlap (right.take among)
      (left.take before ++ (merged ++ right.drop among), patience)

/-! ## Nothing is lost -/

namespace Merging

theorem takeLeft_perm (n : Nat) (m : Merging α) : (m.takeLeft n).elements.Perm m.elements := by
  simp only [elements, takeLeft, List.append_assoc]
  refine ((List.reverse_perm _).append_right _).trans ?_
  refine List.perm_append_comm_assoc _ _ _ |>.trans (.append_left _ ?_)
  rw [← List.append_assoc, List.take_append_drop]

theorem takeRight_perm (n : Nat) (m : Merging α) : (m.takeRight n).elements.Perm m.elements := by
  simp only [elements, takeRight, List.append_assoc]
  refine ((List.reverse_perm _).append_right _).trans ?_
  refine List.perm_append_comm_assoc _ _ _ |>.trans (.append_left _ ?_)
  refine List.perm_append_comm_assoc _ _ _ |>.trans (.append_left _ ?_)
  rw [List.take_append_drop]

theorem unlessDone_perm {fromBack : Bool} {next : Merging α → Merging α} {m : Merging α}
    (h : (next m).elements.Perm m.elements) :
    (m.unlessDone fromBack next).elements.Perm m.elements := by
  unfold unlessDone
  split
  · exact .refl _
  · exact h

theorem single_perm (lt : α → α → Bool) (fromBack : Bool) (lefts rights : Nat) (m : Merging α) :
    (m.single lt fromBack lefts rights).elements.Perm m.elements := by
  unfold single
  split
  · exact takeRight_perm 1 m
  · exact takeLeft_perm 1 m

theorem leapBoth_perm (lt : α → α → Bool) (fromBack : Bool) (m : Merging α) :
    (m.leapBoth lt fromBack).elements.Perm m.elements := by
  unfold leapBoth
  refine (unlessDone_perm ?_).trans (takeLeft_perm _ _)
  refine (unlessDone_perm ?_).trans (takeRight_perm _ _)
  refine (unlessDone_perm ?_).trans (takeRight_perm _ _)
  refine (unlessDone_perm ?_).trans (takeLeft_perm _ _)
  split <;> exact .refl _

theorem step_perm (lt : α → α → Bool) (fromBack : Bool) (m : Merging α) :
    (m.step lt fromBack).elements.Perm m.elements := by
  unfold step
  split
  · exact single_perm lt fromBack _ _ m
  · exact leapBoth_perm lt fromBack m

theorem steps_perm (lt : α → α → Bool) (fromBack : Bool) (n : Nat) (m : Merging α) :
    (m.steps lt fromBack n).elements.Perm m.elements := by
  induction n generalizing m with
  | zero => exact .refl _
  | succ n ih => exact unlessDone_perm ((ih _).trans (step_perm lt fromBack m))

theorem result_perm (fromBack : Bool) (m : Merging α) :
    (m.result fromBack).Perm m.elements := by
  unfold result elements
  split
  · refine (List.reverse_perm _).append ((List.reverse_perm _).append_right _) |>.trans ?_
    refine List.perm_append_comm.trans ?_
    rw [List.append_assoc]
    exact List.perm_append_comm_assoc _ _ _
  · exact (List.reverse_perm _).append List.perm_append_comm

end Merging

theorem mergeOverlap_perm (lt : α → α → Bool) (patience : Nat) (left right : List α) :
    (mergeOverlap lt patience left right).1.Perm (left ++ right) := by
  unfold mergeOverlap
  refine (Merging.result_perm _ _).trans ((Merging.steps_perm _ _ _ _).trans ?_)
  split
  · refine (Merging.takeLeft_perm 1 _).trans ?_
    exact (List.reverse_perm _).append (List.reverse_perm _)
  · exact Merging.takeRight_perm 1 _

theorem mergeRuns_perm (lt : α → α → Bool) (patience : Nat) (left right : List α) :
    (mergeRuns lt patience left right).1.Perm (left ++ right) := by
  unfold mergeRuns
  simp only
  split
  · exact .refl _
  · split
    · exact .refl _
    · refine (((mergeOverlap_perm lt patience _ _).append_right _).append_left _).trans ?_
      rw [List.append_assoc, List.take_append_drop, ← List.append_assoc, List.take_append_drop]

end AirQuality.Order
