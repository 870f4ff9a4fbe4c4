import AirQuality.Order.Merge

/-!
# Sorting

If all elements compare, every stable sort gives the same list. If some do not, as with what is not
a number, the list depends on which elements are compared with each other; `powerSort` fixes that:
the runs of the list are merged in the order of their powers. The power of the boundary between two
runs is the depth at which it is separated from its neighbours if the whole list is halved again and
again; deep boundaries are merged first.

* `nodePower`: the power of a boundary
* `powerSort`: the runs of a list merged in the order of their powers
* `sort`: the list in ascending order
* `powerSort_perm`, `sort_perm`: nothing is lost
-/

namespace AirQuality.Order

variable {α : Type}

/-- The length that runs are brought to: between 32 and 64, so that the number of runs is a power of
two or a little less; the length of the list if that is less than 64. -/
def shortestRun (length : Nat) : Nat := go false length
where
  go (roundUp : Bool) (n : Nat) : Nat :=
    if n < 64 then (if roundUp then n + 1 else n) else go (roundUp || n % 2 = 1) (n / 2)
  termination_by n
  decreasing_by omega

/-- The first binary place in which `a / n` and `b / n` differ, counted from the unit as the first
one; at most `places` are looked at. -/
def firstDifference (n : Nat) : Nat → Nat → Nat → Nat
  | 0, _, _ => 0
  | places + 1, a, b =>
    1 + if a / n = b / n then firstDifference n places (2 * a) (2 * b) else 0

/-- The power of the boundary between two neighbouring runs, of which the left one has a number of
elements in front of it, in a list of a given length: the first binary place in which the middles of
the runs differ as parts of the list. -/
def nodePower (length start left right : Nat) : Nat :=
  let middle := 2 * start + left
  firstDifference length (length + 1) middle (middle + left + right)

/-- A run that waits for being merged. -/
structure Waiting (α : Type) where
  run : List α
  /-- The power of the boundary behind the run. -/
  power : Nat

/-- The runs that wait, the last one first, and the patience of merges. -/
structure Schedule (α : Type) where
  waiting : List (Waiting α)
  patience : Nat

namespace Schedule

/-- All elements, the last run first. -/
def elements (s : Schedule α) : List α := (s.waiting.map Waiting.run).flatten

/-- Merges the last runs as long as the boundary between them is deeper than a new one. -/
def collapse (lt : α → α → Bool) (power patience : Nat) : List (Waiting α) → Schedule α
  | [] => ⟨[], patience⟩
  | [last] => ⟨[⟨last.run, power⟩], patience⟩
  | last :: next :: rest =>
    if power < next.power then
      let (run, patience) := mergeRuns lt patience next.run last.run
      collapse lt power patience (⟨run, next.power⟩ :: rest)
    else ⟨⟨last.run, power⟩ :: next :: rest, patience⟩
termination_by ws => ws.length

/-- Adds a run. -/
def push (lt : α → α → Bool) (length : Nat) (s : Schedule α) (run : List α) : Schedule α :=
  match s.waiting with
  | [] => ⟨[⟨run, 0⟩], s.patience⟩
  | last :: rest =>
    let start := (rest.map Waiting.run).flatten.length
    let power := nodePower length start last.run.length run.length
    let s := collapse lt power s.patience (last :: rest)
    ⟨⟨run, 0⟩ :: s.waiting, s.patience⟩

/-- Merges all runs that wait, a shorter neighbour first. -/
def finish (lt : α → α → Bool) (patience : Nat) : List (Waiting α) → List α
  | [] => []
  | [last] => last.run
  | [last, next] => (mergeRuns lt patience next.run last.run).1
  | last :: next :: third :: rest =>
    if third.run.length < last.run.length then
      let (run, patience) := mergeRuns lt patience third.run next.run
      finish lt patience (last :: ⟨run, third.power⟩ :: rest)
    else
      let (run, patience) := mergeRuns lt patience next.run last.run
      finish lt patience (⟨run, next.power⟩ :: third :: rest)
termination_by ws => ws.length

end Schedule

/-- The runs of the list merged in the order of their powers. -/
def powerSort (lt : α → α → Bool) (xs : List α) : List α :=
  let s := (runs lt (shortestRun xs.length) xs).foldl (Schedule.push lt xs.length) ⟨[], longLeap⟩
  Schedule.finish lt s.patience s.waiting

/-- The list in ascending order. Elements that are not less than each other keep their order if all
elements compare with each other. -/
def sort (compares : α → Bool) (lt : α → α → Bool) (xs : List α) : List α :=
  if xs.all compares then xs.mergeSort fun x y => !lt y x else powerSort lt xs

/-! ## Nothing is lost -/

namespace Schedule

theorem collapse_perm (lt : α → α → Bool) (power patience : Nat) (ws : List (Waiting α)) :
    (collapse lt power patience ws).elements.Perm (ws.map Waiting.run).flatten := by
  fun_induction collapse lt power patience ws with
  | case1 => simp [elements]
  | case2 => simp [elements]
  | case3 patience last next rest h run patience' heq ih =>
    refine ih.trans ?_
    have hm := mergeRuns_perm lt patience next.run last.run
    rw [heq] at hm
    simp only [List.map_cons, List.flatten_cons, ← List.append_assoc]
    exact (hm.trans List.perm_append_comm).append_right _
  | case4 => simp [elements]

theorem push_perm (lt : α → α → Bool) (length : Nat) (s : Schedule α) (run : List α) :
    (s.push lt length run).elements.Perm (run ++ s.elements) := by
  unfold push
  split
  · rename_i h
    simp [elements, h]
  · rename_i last rest h
    have hc := collapse_perm lt (nodePower length (rest.map Waiting.run).flatten.length
      last.run.length run.length) s.patience (last :: rest)
    simpa [elements, h] using hc.append_left run

theorem foldl_push_perm (lt : α → α → Bool) (length : Nat) (rs : List (List α))
    (s : Schedule α) :
    (rs.foldl (push lt length) s).elements.Perm (rs.flatten ++ s.elements) := by
  induction rs generalizing s with
  | nil => simp
  | cons r rs ih =>
    refine (ih _).trans (((push_perm lt length s r).append_left _).trans ?_)
    rw [List.flatten_cons, List.append_assoc]
    exact List.perm_append_comm_assoc _ _ _

theorem finish_perm (lt : α → α → Bool) (patience : Nat) (ws : List (Waiting α)) :
    (finish lt patience ws).Perm (ws.map Waiting.run).flatten := by
  fun_induction finish lt patience ws with
  | case1 => simp
  | case2 => simp
  | case3 patience last next =>
    simpa using (mergeRuns_perm lt patience next.run last.run).trans List.perm_append_comm
  | case4 patience last next third rest h run patience' heq ih =>
    refine ih.trans ?_
    have hm := mergeRuns_perm lt patience third.run next.run
    rw [heq] at hm
    simp only [List.map_cons, List.flatten_cons]
    refine .append_left _ ?_
    rw [← List.append_assoc]
    exact (hm.trans List.perm_append_comm).append_right _
  | case5 patience last next third rest h run patience' heq ih =>
    refine ih.trans ?_
    have hm := mergeRuns_perm lt patience next.run last.run
    rw [heq] at hm
    simp only [List.map_cons, List.flatten_cons]
    rw [← List.append_assoc last.run]
    exact (hm.trans List.perm_append_comm).append_right _

end Schedule

theorem powerSort_perm (lt : α → α → Bool) (xs : List α) : (powerSort lt xs).Perm xs := by
  unfold powerSort
  refine (Schedule.finish_perm lt _ _).trans ((Schedule.foldl_push_perm lt _ _ _).trans ?_)
  simpa [Schedule.elements] using runs_perm lt (shortestRun xs.length) xs

theorem sort_perm (compares : α → Bool) (lt : α → α → Bool) (xs : List α) :
    (sort compares lt xs).Perm xs := by
  unfold sort
  split
  · exact List.mergeSort_perm xs _
  · exact powerSort_perm lt xs

end AirQuality.Order
