import AirQuality.Proofs.Number.Value
import AirQuality.Proofs.Ranking.Agreement

/-!
# Order and ranks of a ranking

A station stands at the place of its averages: of PM10 first and then of PM2.5, where a missing
average is behind every number. The ranking lists the stations by their places, those at one place
as they first occur, and the rank of a station counts the places before its own.

## Key results

- `AverageKey.lt_iff_place`, `AverageKey.same_iff_place`: keys are compared as their places are
- `assignRanks_eq_map`: a rank that runs along counts the places so far
- `isDenselyRanked_rankUpTo`: order and ranks of a ranking that is not cut off
-/

namespace AirQuality

open Number (Extended value lt_iff_value beq_iff_value)

section Counting

variable {α : Type} [LinearOrder α]

/-- How many different places of a list are above a bound and not above a place. -/
def countBetween (bound : WithBot α) (ps : List α) (p : α) : Nat :=
  (ps.toFinset.filter fun q : α => bound < (q : WithBot α) ∧ q ≤ p).card

/-- A place at the bound does not count. -/
private theorem countBetween_cons_of_eq (q : α) (ps : List α) (p : α) :
    countBetween (q : WithBot α) (q :: ps) p = countBetween (q : WithBot α) ps p := by
  rw [countBetween, List.toFinset_cons, Finset.filter_insert, if_neg (by simp), countBetween]

/-- The least place counts once, besides those above it. -/
private theorem countBetween_cons_of_lt {bound : WithBot α} {q : α} {ps : List α} {p : α}
    (above : bound < q) (least : ∀ q' ∈ ps, q ≤ q') (le : q ≤ p) :
    countBetween bound (q :: ps) p = countBetween (q : WithBot α) ps p + 1 := by
  -- Nothing lies between the bound and `q` but `q` itself, since it is the least.
  have split : ((q :: ps).toFinset.filter fun q' : α => bound < (q' : WithBot α) ∧ q' ≤ p) =
      insert q (ps.toFinset.filter fun q' : α => (q : WithBot α) < (q' : WithBot α) ∧ q' ≤ p) := by
    ext q'
    simp only [List.toFinset_cons, Finset.mem_filter, Finset.mem_insert, List.mem_toFinset,
      WithBot.coe_lt_coe]
    constructor
    · rintro ⟨rfl | mem, -, le'⟩
      · exact .inl rfl
      · exact (least q' mem).eq_or_lt.imp Eq.symm fun less => ⟨mem, less, le'⟩
    · rintro (rfl | ⟨mem, less, le'⟩)
      · exact ⟨.inl rfl, above, le⟩
      · exact ⟨.inr mem, above.trans (WithBot.coe_lt_coe.mpr less), le'⟩
  rw [countBetween, split, Finset.card_insert_of_notMem (by simp), countBetween]

/-- Nothing lies above a place and not above it. -/
private theorem countBetween_self (ps : List α) (p : α) :
    countBetween (p : WithBot α) ps p = 0 := by
  rw [countBetween, Finset.card_eq_zero, Finset.filter_eq_empty_iff]
  -- What is above the place cannot also be at most the place.
  rintro q - ⟨above, le⟩
  exact absurd le (not_le.mpr (WithBot.coe_lt_coe.mp above))

/-- Without a bound, a place that is there counts besides the ones below it. -/
private theorem countBetween_bot {ps : List α} {p : α} (mem : p ∈ ps) :
    countBetween ⊥ ps p = 1 + (ps.toFinset.filter (· < p)).card := by
  have split : (ps.toFinset.filter fun q : α => ⊥ < (q : WithBot α) ∧ q ≤ p) =
      insert p (ps.toFinset.filter (· < p)) := by
    -- Everything is above the bound, so it is the place and what is below.
    ext q
    simp only [Finset.mem_filter, Finset.mem_insert, List.mem_toFinset, WithBot.bot_lt_coe, true_and]
    constructor
    · rintro ⟨mem', le⟩
      exact le.eq_or_lt.imp id fun less => ⟨mem', less⟩
    · rintro (rfl | ⟨mem', less⟩)
      · exact ⟨mem, le_rfl⟩
      · exact ⟨mem', less.le⟩
  rw [countBetween, split, Finset.card_insert_of_notMem (by simp), Nat.add_comm]

/-- Of two places that are there, more are below the greater one. -/
private theorem card_filter_lt {ps : List α} {p q : α} (mem : p ∈ ps) (less : p < q) :
    (ps.toFinset.filter (· < p)).card < (ps.toFinset.filter (· < q)).card := by
  refine Finset.card_lt_card (Finset.ssubset_iff_of_subset ?_ |>.mpr ⟨p, ?_, ?_⟩)
  -- What is below the lesser one is below the greater one, and so is the lesser one itself.
  · exact Finset.monotone_filter_right _ fun r _ below => below.trans less
  · exact Finset.mem_filter.mpr ⟨List.mem_toFinset.mpr mem, less⟩
  · simp

end Counting

/-! ## Places -/

/-- Where a station stands among others, by an average of PM10 and one of PM2.5. -/
abbrev Place := WithTop Extended ×ₗ WithTop Extended

namespace AverageKey

/-- Where an average stands among others: at its value, and behind all values if it is missing. -/
def averagePlace (average : Option Float) : WithTop Extended :=
  average.elim ⊤ fun x => (value x : WithTop Extended)

/-- Where a station stands. -/
def place (k : AverageKey) : Place := toLex (averagePlace k.pm10, averagePlace k.pm25)

/-- Averages are equal if they stand at one place; two missing ones do. -/
private theorem sameAverage_iff_place {a b : Option Float} (ha : a.any Float.isNaN = false)
    (hb : b.any Float.isNaN = false) : sameAverage a b = true ↔ averagePlace a = averagePlace b := by
  -- A missing average is at the same place as another missing one only.
  cases a with
  | none => cases b <;> simp [sameAverage, averagePlace]
  | some x =>
    cases b with
    | none => simp [sameAverage, averagePlace]
    | some y => simpa [sameAverage, averagePlace] using beq_iff_value ha hb

/-- An average comes before another one if its place does. -/
private theorem averageBefore_iff_place {a b : Option Float} (ha : a.any Float.isNaN = false)
    (hb : b.any Float.isNaN = false) :
    averageBefore a b = true ↔ averagePlace a < averagePlace b := by
  -- Behind a missing average there is nothing, and every number is in front of one.
  cases a with
  | none => simp [averageBefore, averagePlace]
  | some x =>
    cases b with
    | none => simp [averageBefore, averagePlace]
    | some y => simpa [averageBefore, averagePlace] using lt_iff_value ha hb

/-- Keys can be compared if neither average is NaN. -/
theorem compares_iff {k : AverageKey} : k.compares = true ↔
    k.pm10.any Float.isNaN = false ∧ k.pm25.any Float.isNaN = false := by
  simp [compares]

section Comparing

variable {j k : AverageKey} (hj : j.compares = true) (hk : k.compares = true)

include hj hk

/-- Keys are the same if they stand at one place. -/
theorem same_iff_place : j.same k = true ↔ j.place = k.place := by
  rw [compares_iff] at hj hk
  rw [same, Bool.and_eq_true, sameAverage_iff_place hj.1 hk.1, sameAverage_iff_place hj.2 hk.2,
    place, place, toLex_inj, Prod.mk.injEq]

/-- A key comes before another one if its place does. -/
theorem lt_iff_place : j.lt k = true ↔ j.place < k.place := by
  rw [compares_iff] at hj hk
  rw [place, place, Prod.Lex.toLex_lt_toLex, lt]
  -- PM2.5 decides only where the averages of PM10 are the same.
  by_cases same : averagePlace j.pm10 = averagePlace k.pm10
  · rw [if_pos ((sameAverage_iff_place hj.1 hk.1).mpr same), averageBefore_iff_place hj.2 hk.2]
    simp [same]
  · rw [if_neg ((sameAverage_iff_place hj.1 hk.1).not.mpr same),
      averageBefore_iff_place hj.1 hk.1]
    simp [same]

end Comparing

end AverageKey

namespace Window

/-- Where the station of a window stands. -/
def place (w : Window) : Place := (AverageKey.ofWindow w).place

/-- Whether the station of a window stands where that of another one does, or before it. -/
def placedBy (v w : Window) : Bool := decide (v.place ≤ w.place)

/-- Any two windows can be compared by their places. -/
private theorem isTotal_placedBy : Order.IsTotal placedBy where
  trans := fun u v w uv vw => decide_eq_true ((of_decide_eq_true uv).trans (of_decide_eq_true vw))
  total := fun v w => by simpa [placedBy] using le_total v.place w.place

/-- Windows are tied at one place. -/
private theorem ties_placedBy {v w : Window} :
    Order.ties placedBy v w = true ↔ v.place = w.place := by
  rw [Order.ties_iff, placedBy, placedBy, decide_eq_true_iff, decide_eq_true_iff]
  exact le_antisymm_iff.symm

/-- Windows with averages that are numbers or missing are sorted by their places. -/
private theorem sort_eq_mergeSort {ws : List Window}
    (numbers : ∀ w ∈ ws, (AverageKey.ofWindow w).compares = true) :
    Order.sort (fun w => (AverageKey.ofWindow w).compares)
      (fun v w => (AverageKey.ofWindow v).lt (AverageKey.ofWindow w)) ws =
      ws.mergeSort placedBy := by
  -- All keys can be compared, so the sort is a stable one by their order.
  rw [Order.sort, if_pos (List.all_eq_true.mpr numbers)]
  have agree : ∀ v ∈ ws, ∀ w ∈ ws,
      (!(AverageKey.ofWindow w).lt (AverageKey.ofWindow v)) = placedBy v w := fun v hv w hw => by
    rw [Bool.eq_iff_iff, Bool.not_eq_true', placedBy, decide_eq_true_iff, ← not_lt,
      ← Bool.not_eq_true, AverageKey.lt_iff_place (numbers w hw) (numbers v hv)]
    rfl
  have sorted : (ws.mergeSort _).map id = (ws.map id).mergeSort placedBy := List.map_mergeSort agree
  simpa using sorted

end Window

/-! ## Ranks -/

namespace AverageKey

/-- Where the last window stood, below all places if there is none. -/
def bound (last : Option AverageKey) : WithBot Place := last.elim ⊥ fun k => (k.place : WithBot Place)

/-- The rank of a window with this key after one with the rank `rank` and the key `last`. -/
def nextRank (rank : Nat) (last : Option AverageKey) (k : AverageKey) : Nat :=
  if last.any k.same then rank else rank + 1

/-- The next rank is one more if the next place is above the last one. -/
private theorem nextRank_add_countBetween {last : Option AverageKey} {k : AverageKey}
    (numbers : ∀ j ∈ last, j.compares = true) (number : k.compares = true)
    (after : ∀ j ∈ last, j.place ≤ k.place) (rank : Nat) {ps : List Place}
    (least : ∀ p ∈ ps, k.place ≤ p) {p : Place} (le : k.place ≤ p) :
    rank + countBetween (bound last) (k.place :: ps) p =
      nextRank rank last k + countBetween (k.place : WithBot Place) ps p := by
  cases last with
  | none =>
    have above : bound none < (k.place : WithBot Place) := WithBot.bot_lt_coe _
    rw [countBetween_cons_of_lt above least le, nextRank, Option.any_none, if_neg Bool.false_ne_true]
    omega
  -- At the place of the last window the rank stays, and at a later one it is the next.
  | some j =>
    have iff := same_iff_place number (numbers j rfl)
    by_cases same : k.same j = true
    · have place_eq : bound (some j) = (k.place : WithBot Place) :=
        congrArg _ (iff.mp same).symm
      rw [place_eq, countBetween_cons_of_eq, nextRank, Option.any_some, if_pos same]
    · have above : bound (some j) < (k.place : WithBot Place) :=
        WithBot.coe_lt_coe.mpr ((after j rfl).lt_of_ne fun h => same (iff.mpr h.symm))
      rw [countBetween_cons_of_lt above least le, nextRank, Option.any_some, if_neg same]
      omega

end AverageKey

/-- The windows are numbered in order: the rank of each counts the places after that of the last
window in front, up to its own. -/
theorem assignRanks_eq_map {ws : List Window}
    (numbers : ∀ w ∈ ws, (AverageKey.ofWindow w).compares = true)
    (sorted : ws.Pairwise fun v w => v.place ≤ w.place) (rank : Nat) (last : Option AverageKey)
    (lastNumber : ∀ k ∈ last, k.compares = true)
    (after : ∀ k ∈ last, ∀ w ∈ ws, k.place ≤ w.place) :
    assignRanks rank last ws = ws.map fun w => RankEntry.ofWindow
      (rank + countBetween (AverageKey.bound last) (ws.map Window.place) w.place) w := by
  -- Induction on the windows, for any window in front of them
  induction ws generalizing rank last with
  | nil => rfl
  | cons w ws ih =>
    rw [List.forall_mem_cons] at numbers
    rw [List.pairwise_cons] at sorted
    -- Both the first window and the later ones count on from the next rank.
    have counted {p : Place} (le : w.place ≤ p) := AverageKey.nextRank_add_countBetween lastNumber
      numbers.1 (fun k hk => after k hk w List.mem_cons_self) rank
      (List.forall_mem_map.mpr sorted.1) le
    have rest := ih numbers.2 sorted.2 (AverageKey.nextRank rank last (AverageKey.ofWindow w))
      (some (AverageKey.ofWindow w)) (fun k hk => Option.some.inj hk ▸ numbers.1)
      (fun k hk => Option.some.inj hk ▸ sorted.1)
    rw [assignRanks, List.map_cons]
    congr 1
    -- The window itself is at its own place, so nothing more is counted.
    · have self := counted (le_refl (AverageKey.ofWindow w).place)
      rw [countBetween_self] at self
      exact congrArg (RankEntry.ofWindow · w) self.symm
    · refine rest.trans (List.map_congr_left fun v hv => ?_)
      exact congrArg (RankEntry.ofWindow · v) (counted (sorted.1 v hv)).symm

/-- Ranks rise by at most one from an entry to the next. -/
private theorem isChain_assignRanks (rank : Nat) (last : Option AverageKey) (ws : List Window) :
    (assignRanks rank last ws).IsChain (fun d e => e.rank = d.rank ∨ e.rank = d.rank + 1) ∧
      ∀ e ∈ (assignRanks rank last ws).head?, e.rank = rank ∨ e.rank = rank + 1 := by
  -- The first entry is one of two ranks, which is all that the entry in front has to know.
  induction ws generalizing rank last with
  | nil => exact ⟨.nil, fun e he => nomatch he⟩
  | cons w ws ih =>
    rw [assignRanks]
    refine ⟨List.isChain_cons.mpr ⟨(ih _ _).2, (ih _ _).1⟩, fun e he => ?_⟩
    -- The next rank is the same or one more, by definition.
    obtain rfl := Option.some.inj he
    simp only [RankEntry.ofWindow]
    split <;> simp

/-- The first rank is one. -/
private theorem rank_of_head_assignRanks (ws : List Window) :
    ∀ e ∈ (assignRanks 0 none ws).head?, e.rank = 1 := by
  cases ws with
  | nil => exact fun e he => nomatch he
  | cons w ws => exact fun e he => Option.some.inj he ▸ rfl

/-! ## The whole ranking -/

/-- The values of a pollutant in the measurements of a station, as far as they are there. -/
def valuesOf (ms : List Measurement) (id : Int) (p : Pollutant) : List Float :=
  (ms.filter fun m => m.stationId == id).filterMap fun m => m.values.get p

/-- The average of a pollutant over the measurements of a station: the sum of the values that are
there over their count, if there are any. -/
def averageOf (ms : List Measurement) (id : Int) (p : Pollutant) : Option Float :=
  if (valuesOf ms id p).isEmpty then none else some (sumOverCount (valuesOf ms id p))

/-- Where a station stands by its measurements. -/
def placeOf (ms : List Measurement) (id : Int) : Place :=
  AverageKey.place ⟨averageOf ms id .pm10, averageOf ms id .pm25⟩

/-- No station has an average of PM10 or of PM2.5 that is NaN. -/
def HasNoNaN (ms : List Measurement) : Prop :=
  ∀ m ∈ ms, (averageOf ms m.stationId .pm10).any Float.isNaN = false ∧
    (averageOf ms m.stationId .pm25).any Float.isNaN = false

instance (ms : List Measurement) : Decidable (HasNoNaN ms) :=
  inferInstanceAs (Decidable (∀ m ∈ ms, _))

/-- The entries list the stations in order, and their ranks have no gaps. -/
structure IsDenselyRanked (ms : List Measurement) (entries : List RankEntry) : Prop where
  /-- The stations with an average are listed. -/
  listed : ∀ id, id ∈ entries.map (·.station.id) ↔
    (averageOf ms id .pm10).isSome = true ∨ (averageOf ms id .pm25).isSome = true
  /-- No station stands before one in front of it. -/
  ordered : entries.Pairwise fun d e => placeOf ms d.station.id ≤ placeOf ms e.station.id
  /-- Stations at one place are listed as they first occur. -/
  stable : entries.Pairwise fun d e => placeOf ms d.station.id = placeOf ms e.station.id →
    (ms.map (·.stationId)).idxOf d.station.id < (ms.map (·.stationId)).idxOf e.station.id
  /-- The rank of a station is one more than the number of places before its own. -/
  rank_eq : ∀ e ∈ entries, e.rank = 1 +
    ((entries.map fun d => placeOf ms d.station.id).toFinset.filter
      (· < placeOf ms e.station.id)).card
  starts : ∀ e ∈ entries.head?, e.rank = 1
  rises : entries.IsChain fun d e => e.rank = d.rank ∨ e.rank = d.rank + 1
  shared : ∀ d ∈ entries, ∀ e ∈ entries,
    d.rank = e.rank ↔ placeOf ms d.station.id = placeOf ms e.station.id

/-- The average that the ranking uses is the sum over the count. -/
private theorem averageOf_eq (ms : List Measurement) (id : Int) (p : Pollutant) :
    averageOf ms id p = mean? (valuesOf ms id p) := (mean?_eq _).symm

/-- The averages of a window are those of its station. -/
private theorem ofWindow_of_mem_collect {ms : List Measurement} {w : Window}
    (mem : w ∈ Window.collect ms) :
    AverageKey.ofWindow w =
      ⟨averageOf ms w.stationId .pm10, averageOf ms w.stationId .pm25⟩ := by
  have window := Window.ofMeasurements?_of_mem_collect mem
  rw [averageOf_eq, averageOf_eq, valuesOf, valuesOf]
  -- What a window adds up is the measurements of its station, from the first one on.
  generalize (ms.filter fun m => m.stationId == w.stationId) = own at window
  cases own with
  | nil => cases window
  | cons m own =>
    obtain rfl := Option.some.inj window
    rfl

/-- A station without measurements has no average. -/
private theorem averageOf_of_not_mem {ms : List Measurement} {id : Int}
    (other : id ∉ ms.map (·.stationId)) (p : Pollutant) : averageOf ms id p = none := by
  have none : (ms.filter fun m => m.stationId == id) = [] := by
    rw [List.filter_eq_nil_iff]
    intro m hm own
    exact other (List.mem_map.mpr ⟨m, hm, by simpa using own⟩)
  rw [averageOf_eq, valuesOf, none]
  rfl

/-- A window has a score if it has one of the averages. -/
theorem isSome_score?_iff {w : Window} : w.score?.isSome = true ↔
    (AverageKey.ofWindow w).pm10.isSome = true ∨ (AverageKey.ofWindow w).pm25.isSome = true := by
  unfold Window.score? AverageKey.ofWindow
  cases mean? w.pm10 <;> cases mean? w.pm25 <;> simp

/-- The windows with a score are ranked. -/
private theorem mem_rankedWindows {ms : List Measurement} {w : Window} :
    -- Sorting neither adds windows nor takes any away.
    w ∈ rankedWindows ms ↔ w ∈ Window.collect ms ∧ w.score?.isSome = true := by
  rw [(rankedWindows_perm ms).mem_iff, List.mem_filter]

/-- A ranked window stands where its station does. -/
private theorem place_of_mem_rankedWindows {ms : List Measurement} {w : Window}
    (mem : w ∈ rankedWindows ms) : w.place = placeOf ms w.stationId :=
  congrArg AverageKey.place (ofWindow_of_mem_collect (mem_rankedWindows.mp mem).1)

/-- The places of the entries are those of the windows. -/
private theorem map_placeOf_rank (ms : List Measurement) :
    ((rank ms).map fun d => placeOf ms d.station.id) = (rankedWindows ms).map Window.place := by
  calc ((rank ms).map fun d => placeOf ms d.station.id)
      = ((rank ms).map fun d => d.station.id).map (placeOf ms) := by
        rw [List.map_map]
        rfl
    _ = (rankedWindows ms).map fun w => placeOf ms w.stationId := by
        rw [map_id_rank, Window.stations, List.map_map]
        rfl
    _ = (rankedWindows ms).map Window.place :=
        List.map_congr_left fun _ hw => (place_of_mem_rankedWindows hw).symm

/-- The stations with an average are ranked. -/
theorem mem_map_id_rank {ms : List Measurement} {id : Int} :
    id ∈ (rank ms).map (·.station.id) ↔
      (averageOf ms id .pm10).isSome = true ∨ (averageOf ms id .pm25).isSome = true := by
  rw [map_id_rank, Window.stations, List.mem_map]
  -- One direction looks for the window of an entry, the other for that of a station.
  constructor
  · rintro ⟨w, mem, rfl⟩
    obtain ⟨collected, scored⟩ := mem_rankedWindows.mp mem
    rwa [isSome_score?_iff, ofWindow_of_mem_collect collected] at scored
  · intro average
    have measured : id ∈ ms.map (·.stationId) := by
      by_contra other
      simp [averageOf_of_not_mem other] at average
    obtain ⟨w, collected, rfl⟩ := List.mem_map.mp (Window.mem_stations_collect.mpr measured)
    refine ⟨w, mem_rankedWindows.mpr ⟨collected, ?_⟩, rfl⟩
    rwa [isSome_score?_iff, ofWindow_of_mem_collect collected]

section Numbers

variable {ms : List Measurement} (numbers : HasNoNaN ms)

include numbers

/-- The averages of no window are NaN. -/
private theorem compares_of_mem_collect {w : Window} (mem : w ∈ Window.collect ms) :
    (AverageKey.ofWindow w).compares = true := by
  -- The station of a window is that of a measurement, whose averages are known.
  obtain ⟨m, hm, own⟩ := List.mem_map.mp (Window.mem_stations_collect.mp (List.mem_map_of_mem mem))
  rw [AverageKey.compares_iff, ofWindow_of_mem_collect mem, ← own]
  exact numbers m hm

/-- The windows are ranked by a stable sort by their places. -/
private theorem rankedWindows_eq_mergeSort : rankedWindows ms =
    ((Window.collect ms).filter fun w => w.score?.isSome).mergeSort Window.placedBy :=
  Window.sort_eq_mergeSort fun _ hw => compares_of_mem_collect numbers (List.mem_of_mem_filter hw)

/-- No window stands before one in front of it. -/
private theorem pairwise_place_rankedWindows :
    (rankedWindows ms).Pairwise fun v w => v.place ≤ w.place := by
  rw [rankedWindows_eq_mergeSort numbers]
  exact (List.pairwise_mergeSort Window.isTotal_placedBy.trans Window.isTotal_placedBy.total _).imp
    of_decide_eq_true

/-- Windows at one place are ranked in the order in which their stations first occur. -/
private theorem pairwise_idxOf_rankedWindows :
    (rankedWindows ms).Pairwise fun v w => v.place = w.place →
      (ms.map (·.stationId)).idxOf v.stationId < (ms.map (·.stationId)).idxOf w.stationId := by
  -- The windows are collected as their stations first occur, and the sort is stable.
  have before := List.pairwise_map.mp (Window.pairwise_stations_collect ms)
  have sorted := Order.pairwise_mergeSort_of_ties Window.isTotal_placedBy
    (before.filter fun w => w.score?.isSome)
  rw [rankedWindows_eq_mergeSort numbers]
  exact sorted.imp fun first same => first (Window.ties_placedBy.mpr same)

/-- Each window is ranked one behind the places before its own. -/
private theorem rank_eq_map : rank ms = (rankedWindows ms).map fun w => RankEntry.ofWindow
    (1 + (((rankedWindows ms).map Window.place).toFinset.filter (· < w.place)).card) w := by
  have counted := assignRanks_eq_map
    (fun w hw => compares_of_mem_collect numbers (mem_rankedWindows.mp hw).1)
    (pairwise_place_rankedWindows numbers) 0 none (fun k hk => nomatch hk) (fun k hk => nomatch hk)
  -- All places are above the bound that there is at the start.
  refine counted.trans (List.map_congr_left fun w hw => ?_)
  rw [AverageKey.bound, Option.elim_none, countBetween_bot (List.mem_map_of_mem hw), Nat.zero_add]

/-- The ranking of measurements without NaN. -/
private theorem isDenselyRanked_rank : IsDenselyRanked ms (rank ms) := by
  have entries := rank_eq_map numbers
  have rank_eq : ∀ e ∈ rank ms, e.rank = 1 +
      (((rank ms).map fun d => placeOf ms d.station.id).toFinset.filter
        (· < placeOf ms e.station.id)).card := by
    intro e he
    rw [map_placeOf_rank]
    rw [entries] at he
    obtain ⟨w, hw, rfl⟩ := List.mem_map.mp he
    rw [place_of_mem_rankedWindows hw]
    rfl
  -- Content and order, ties and ranks, each from the windows in their order
  refine ⟨fun id => mem_map_id_rank, ?_, ?_, rank_eq, ?_, ?_, fun d hd e he => ?_⟩
  · rw [entries, List.pairwise_map]
    refine (pairwise_place_rankedWindows numbers).imp_of_mem fun hv hw le => ?_
    rwa [place_of_mem_rankedWindows hv, place_of_mem_rankedWindows hw] at le
  · rw [entries, List.pairwise_map]
    refine (pairwise_idxOf_rankedWindows numbers).imp_of_mem fun hv hw first => ?_
    rwa [place_of_mem_rankedWindows hv, place_of_mem_rankedWindows hw] at first
  · exact rank_of_head_assignRanks (rankedWindows ms)
  · exact (isChain_assignRanks 0 none (rankedWindows ms)).1
  · -- Of two stations at different places, the one in front has fewer places before its own.
    have mem {e : RankEntry} (he : e ∈ rank ms) :
        placeOf ms e.station.id ∈ (rank ms).map fun d => placeOf ms d.station.id :=
      List.mem_map_of_mem he
    rw [rank_eq d hd, rank_eq e he]
    rcases lt_trichotomy (placeOf ms d.station.id) (placeOf ms e.station.id) with less | same | more
    · have fewer := card_filter_lt (mem hd) less
      exact iff_of_false (by omega) less.ne
    · exact iff_of_true (by rw [same]) same
    · have fewer := card_filter_lt (mem he) more
      exact iff_of_false (by omega) more.ne'

end Numbers

/-- The ranking lists the stations with an average in the order of their averages of PM10 and then
of PM2.5, a missing one behind every number, and stations with equal averages as they first occur.
The rank of a station is one more than the number of different places before its own: ranks start
at one, rise by at most one, and are equal for equal averages only. -/
theorem isDenselyRanked_rankUpTo {ms : List Measurement} (numbers : HasNoNaN ms) {limit : Int}
    (room : ((rank ms).length : Int) ≤ limit) : IsDenselyRanked ms (rankUpTo limit ms) := by
  have all : (rank ms).length ≤ limit.toNat := by omega
  rw [rankUpTo, List.take_of_length_le all]
  exact isDenselyRanked_rank numbers

/-- A measurement of PM10 and PM2.5, as far as they are there. -/
def dustOf (id : Int) (pm10 pm25 : Option Float) : Measurement :=
  { History.dust id (History.noonOfMay 0) 0 with values := ⟨pm10, pm25, none, none, none, none⟩ }

/-- Stations with equal averages, with averages of zero and with missing ones. -/
def mixedDust : List Measurement :=
  [dustOf 6 none (some 1), dustOf 5 (some 0.0) none, dustOf 4 (some 1) (some 7), dustOf 3 none none,
    dustOf 2 (some (-0.0)) (some 9), dustOf 1 (some 2) (some 7), dustOf 4 (some 3) none]

/-- A ranking of stations with equal, zero and missing averages, of which one has none at all. -/
theorem isDenselyRanked_mixedDust :
    HasNoNaN mixedDust ∧ ((rank mixedDust).length : Int) ≤ 6 ∧
      IsDenselyRanked mixedDust (rankUpTo 6 mixedDust) ∧
      4 ∈ (rankUpTo 6 mixedDust).map (·.station.id) ∧
      3 ∉ (rankUpTo 6 mixedDust).map (·.station.id) := by
  have numbers : HasNoNaN mixedDust := by decide
  -- There are not more entries than windows, and these are counted.
  have room : ((rank mixedDust).length : Int) ≤ 6 := by
    have windows : (Window.collect mixedDust).length = 6 := by decide
    have entries := length_rank_le mixedDust
    omega
  have ranked := isDenselyRanked_rankUpTo numbers room
  exact ⟨numbers, room, ranked, (ranked.listed 4).mpr (.inl rfl),
    (ranked.listed 3).not.mpr (by decide)⟩

end AirQuality
