/-!
# Runs and insertion

A run is a list in ascending order. The runs of a list are found by going along it: an ascending
part is a run, a strictly descending part is one after reversal, and a run that is too short takes
in the elements behind it, each at a place that is found by bisection. Nothing is assumed of the
order, so that this also says what happens to elements that do not compare.

* `bisect`: the place where a property begins to hold
* `runs`: the runs of a list
* `insert_perm`, `runs_perm`: nothing is lost
-/

namespace AirQuality.Order

variable {α : Type}

/-- The place between `low` and `high` from which on the elements have a property, if none of them
loses it again. -/
def bisect (p : α → Bool) (xs : List α) (low high : Nat) : Nat :=
  if low < high then
    let middle := low + (high - low) / 2
    if xs[middle]?.any p then bisect p xs low middle else bisect p xs (middle + 1) high
  else low
termination_by high - low
decreasing_by all_goals omega

/-- The list with an element inserted behind the elements that it is not less than. -/
def insert (lt : α → α → Bool) (xs : List α) (x : α) : List α :=
  let i := bisect (lt x) xs 0 xs.length
  xs.take i ++ x :: xs.drop i

/-- The elements that continue an ascending run after `last`, and the others. -/
def ascendingRun (lt : α → α → Bool) (last : α) : List α → List α × List α
  | [] => ([], [])
  | x :: xs =>
    if lt x last then ([], x :: xs)
    else
      let (run, rest) := ascendingRun lt x xs
      (x :: run, rest)

/-- The elements that continue a strictly descending run after `last`, and the others. -/
def descendingRun (lt : α → α → Bool) (last : α) : List α → List α × List α
  | [] => ([], [])
  | x :: xs =>
    if lt x last then
      let (run, rest) := descendingRun lt x xs
      (x :: run, rest)
    else ([], x :: xs)

/-- The run at the front, put in ascending order, and the elements after it. -/
def frontRun (lt : α → α → Bool) : List α → List α × List α
  | [] => ([], [])
  | [x] => ([x], [])
  | x :: y :: ys =>
    if lt y x then
      let (run, rest) := descendingRun lt y ys
      ((x :: y :: run).reverse, rest)
    else
      let (run, rest) := ascendingRun lt y ys
      (x :: y :: run, rest)

/-- The run at the front with as many of the elements after it inserted as it needs to reach a
length, and the elements left. -/
def longRun (lt : α → α → Bool) (shortest : Nat) (xs : List α) : List α × List α :=
  let (run, rest) := frontRun lt xs
  let missing := shortest - run.length
  ((rest.take missing).foldl (insert lt) run, rest.drop missing)

/-- The first runs of a list, at most `count` of them. -/
def runsUpTo (lt : α → α → Bool) (shortest : Nat) : Nat → List α → List (List α)
  | 0, [] => []
  | 0, x :: xs => [x :: xs]
  | _ + 1, [] => []
  | count + 1, x :: xs =>
    let (run, rest) := longRun lt shortest (x :: xs)
    run :: runsUpTo lt shortest count rest

/-- The runs of a list. All but the last one have the shortest length or more. -/
def runs (lt : α → α → Bool) (shortest : Nat) (xs : List α) : List (List α) :=
  runsUpTo lt shortest xs.length xs

/-! ## Nothing is lost -/

theorem insert_perm (lt : α → α → Bool) (xs : List α) (x : α) :
    (insert lt xs x).Perm (x :: xs) := by
  refine List.perm_middle.trans ?_
  simp

theorem ascendingRun_append (lt : α → α → Bool) (last : α) (xs : List α) :
    (ascendingRun lt last xs).1 ++ (ascendingRun lt last xs).2 = xs := by
  induction xs generalizing last with
  | nil => rfl
  | cons x xs ih => by_cases h : lt x last = true <;> simp [ascendingRun, h, ih]

theorem descendingRun_append (lt : α → α → Bool) (last : α) (xs : List α) :
    (descendingRun lt last xs).1 ++ (descendingRun lt last xs).2 = xs := by
  induction xs generalizing last with
  | nil => rfl
  | cons x xs ih => by_cases h : lt x last = true <;> simp [descendingRun, h, ih]

theorem frontRun_perm (lt : α → α → Bool) (xs : List α) :
    ((frontRun lt xs).1 ++ (frontRun lt xs).2).Perm xs := by
  match xs with
  | [] => exact .nil
  | [x] => exact .refl _
  | x :: y :: ys =>
    by_cases h : lt y x = true
    · simp only [frontRun, h, if_true]
      refine ((List.reverse_perm _).append_right _).trans ?_
      simp [descendingRun_append]
    · simp [frontRun, h, ascendingRun_append]

theorem foldl_insert_perm (lt : α → α → Bool) (rest run : List α) :
    (rest.foldl (insert lt) run).Perm (run ++ rest) := by
  induction rest generalizing run with
  | nil => simp
  | cons x rest ih =>
    refine (ih _).trans (((insert_perm lt run x).append_right rest).trans ?_)
    exact List.perm_middle.symm

theorem longRun_perm (lt : α → α → Bool) (shortest : Nat) (xs : List α) :
    ((longRun lt shortest xs).1 ++ (longRun lt shortest xs).2).Perm xs := by
  have h := frontRun_perm lt xs
  unfold longRun
  generalize frontRun lt xs = parts at h
  refine ((foldl_insert_perm lt _ _).append_right _).trans ?_
  rwa [List.append_assoc, List.take_append_drop]

theorem runsUpTo_perm (lt : α → α → Bool) (shortest count : Nat) (xs : List α) :
    (runsUpTo lt shortest count xs).flatten.Perm xs := by
  induction count generalizing xs with
  | zero => cases xs <;> simp [runsUpTo]
  | succ count ih =>
    cases xs with
    | nil => simp [runsUpTo]
    | cons x xs =>
      simp only [runsUpTo, List.flatten_cons]
      exact ((ih _).append_left _).trans (longRun_perm lt shortest (x :: xs))

theorem runs_perm (lt : α → α → Bool) (shortest : Nat) (xs : List α) :
    (runs lt shortest xs).flatten.Perm xs :=
  runsUpTo_perm lt shortest xs.length xs

end AirQuality.Order
