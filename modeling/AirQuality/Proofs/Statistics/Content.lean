import AirQuality.Statistics
import Mathlib.Algebra.Ring.Int.Defs
import Mathlib.Data.List.Perm.Basic

/-!
# Content of statistics

The statistics of a window leave out what is absent: the figures of a pollutant come from the values
that are there, in their order, and the histogram from the levels that are there, in any order. The
most common level is found in a scan from the best level to the worst that only looks at counts
above zero.

## Key results

- `figure?_of_inserted`: measurements without a value of a pollutant do not move its figures
- `sum_histogram`: the buckets of the histogram share out the levels that are there
- `isMostCommon_foldl`: the scan finds the greatest positive count, and the best level that has it
- `statistics_content`: what the statistics of a window say, and when there are none
-/

namespace AirQuality

/-! ## Figures of a pollutant -/

/-- What statistics have of a pollutant: a summary of dust, an average of a gas. -/
inductive Figure where
  | summary (s : Summary)
  | average (x : Float)

/-- The figure of a pollutant for its values, if there are any. -/
def Figure.of? (p : Pollutant) (values : List Float) : Option Figure :=
  match p with
  | .pm10 | .pm25 => (Summary.of? values).map .summary
  | .so2 | .no2 | .co | .o3 => (mean? values).map .average

/-- There is no figure if there is no value to make it of. -/
theorem Figure.of?_eq_none_iff {p : Pollutant} {values : List Float} :
    Figure.of? p values = none ↔ values = [] := by
  have isNone_summary : Summary.of? values = none ↔ values = [] := by
    cases values <;> simp [Summary.of?]
  have isNone_mean : mean? values = none ↔ values = [] := by
    simp [mean?]
  -- The two kinds of figures, of dust and of gases.
  cases p <;> simp only [Figure.of?, Option.map_eq_none_iff, isNone_summary, isNone_mean]

/-- The second list is the first one with further elements that have a property, anywhere in it. -/
inductive Inserted {α : Type} (p : α → Prop) : List α → List α → Prop where
  | nil : Inserted p [] []
  | kept (x : α) {xs ys : List α} : Inserted p xs ys → Inserted p (x :: xs) (x :: ys)
  | new {x : α} {xs ys : List α} : p x → Inserted p xs ys → Inserted p xs (x :: ys)

namespace Statistics

open Time (Moment)

/-- The figure of a pollutant. -/
def figure? (s : Statistics) : Pollutant → Option Figure
  | .pm10 => s.pm10.map .summary
  | .pm25 => s.pm25.map .summary
  | .so2 => s.so2.map .average
  | .no2 => s.no2.map .average
  | .co => s.co.map .average
  | .o3 => s.o3.map .average

variable {id : Int} {start stop : Moment} {ms ms' : List Measurement} {s : Statistics}

/-- There are no statistics of nothing. -/
theorem of?_eq_none_iff : of? id start stop ms = none ↔ ms = [] := by
  cases ms <;> simp [of?]

/-- Statistics count the measurements. -/
theorem count_of? (found : of? id start stop ms = some s) : s.count = ms.length := by
  cases ms with
  | nil => cases found
  | cons m ms =>
    obtain rfl := Option.some.inj found
    rfl

/-- A figure is made of the values of its pollutant, and of nothing else. -/
private theorem figure?_of? (found : of? id start stop ms = some s) (p : Pollutant) :
    s.figure? p = Figure.of? p (present ms p) := by
  cases ms with
  | nil => cases found
  | cons m ms =>
    obtain rfl := Option.some.inj found
    -- Each pollutant has its own field of the statistics.
    cases p <;> rfl

/-- Statistics have the histogram of the measurements. -/
private theorem levelCounts_of? (found : of? id start stop ms = some s) :
    s.levelCounts = histogram ms := by
  cases ms with
  | nil => cases found
  | cons m ms =>
    obtain rfl := Option.some.inj found
    rfl

/-- There is a figure unless no measurement has a value; a value of zero is one. -/
theorem figure?_eq_none_iff (found : of? id start stop ms = some s) (p : Pollutant) :
    s.figure? p = none ↔ ∀ m ∈ ms, m.values.get p = none := by
  rw [figure?_of? found, Figure.of?_eq_none_iff, present, List.filterMap_eq_nil_iff]

/-- Measurements without a value add none to the list of values. -/
private theorem present_of_inserted {p : Pollutant}
    (inserted : Inserted (fun m : Measurement => m.values.get p = none) ms ms') :
    present ms' p = present ms p := by
  unfold present
  -- On the insertions: what is kept brings its value, and what is new has none.
  induction inserted with
  | nil => rfl
  | kept m _ ih => rw [List.filterMap_cons, List.filterMap_cons, ih]
  | new absent _ ih => rw [List.filterMap_cons, absent, ih]

/-- Measurements without a value of a pollutant leave its figure as it is. -/
theorem figure?_of_inserted {p : Pollutant} (found : of? id start stop ms = some s)
    (inserted : Inserted (fun m : Measurement => m.values.get p = none) ms ms') :
    ∃ s', of? id start stop ms' = some s' ∧ s'.figure? p = s.figure? p := by
  cases found' : of? id start stop ms' with
  | none =>
    -- Nothing that has an element becomes empty by insertions.
    obtain rfl := of?_eq_none_iff.mp found'
    cases inserted
    cases found
  | some s' =>
    refine ⟨s', rfl, ?_⟩
    rw [figure?_of? found', figure?_of? found, present_of_inserted inserted]

end Statistics

/-! ## The histogram -/

/-- How many measurements have a level as their overall level. -/
def occurrences (ms : List Measurement) (l : Level) : Nat :=
  ms.countP fun m => m.levels.overall == some l

/-- How often a level occurs does not depend on the order. -/
private theorem occurrences_perm {ms ms' : List Measurement} (perm : ms.Perm ms') (l : Level) :
    occurrences ms l = occurrences ms' l :=
  perm.countP_eq _

/-- The histogram lists the levels from the best to the worst with their occurrences. -/
private theorem histogram_eq_map (ms : List Measurement) :
    histogram ms = Level.all.map fun l => (l, (occurrences ms l : Int)) := by
  unfold histogram occurrences
  simp only [List.countP_eq_length_filter]

/-- Each level has a bucket, and it has the number of its occurrences. -/
private theorem get_histogram (ms : List Measurement) (l : Level) :
    (histogram ms).get l = occurrences ms l := by
  rw [histogram_eq_map]
  cases l <;> rfl

/-- The histogram does not depend on the order of the measurements. -/
private theorem histogram_perm {ms ms' : List Measurement} (perm : ms.Perm ms') :
    histogram ms = histogram ms' := by
  simp only [histogram_eq_map, occurrences_perm perm]

/-- A measurement goes to the bucket of its level, and to none if it has no level. -/
theorem sum_histogram (ms : List Measurement) :
    ((histogram ms).map Prod.snd).sum = ms.countP fun m => m.levels.overall.isSome := by
  simp only [histogram_eq_map, Level.all, List.map_cons, List.map_nil, List.sum_cons, List.sum_nil]
  -- On the measurements, each of which is in one bucket or in none.
  induction ms with
  | nil => rfl
  | cons m ms ih =>
    simp only [occurrences, List.countP_cons] at ih ⊢
    cases level : m.levels.overall with
    | none => simpa using ih
    | some l =>
      -- Exactly one of the six buckets gets one more.
      cases l <;> simp <;> omega

/-! ## The most common level -/

/-- What the most common one of some levels is: none if none has a count above zero, or else a level
that no other one exceeds, and that is better than those with the same count. -/
inductive IsMostCommon (count : Level → Int) (among : List Level) : Option Level → Prop where
  | nothing (notPositive : ∀ l ∈ among, count l ≤ 0) : IsMostCommon count among none
  | level (l : Level) (mem : l ∈ among) (positive : 0 < count l)
      (leads : ∀ l' ∈ among,
        count l' < count l ∨ count l' = count l ∧ l.severity ≤ l'.severity) :
      IsMostCommon count among (some l)

/-- The level in the lead after a further one has been looked at. -/
def leading (count : Level → Int) : Option Level → Level → Option Level
  | none, l => if 0 < count l then some l else none
  | some b, l => if 0 < count l ∧ count b < count l then some l else some b

namespace IsMostCommon

variable {count : Level → Int} {seen rest : List Level} {best : Option Level} {l : Level}

/-- One step of the scan. The further level is worse than those seen so far, and so an equal count
does not bring it into the lead. -/
theorem snoc (isBest : IsMostCommon count seen best)
    (worse : ∀ l' ∈ seen, l'.severity < l.severity) :
    IsMostCommon count (seen ++ [l]) (leading count best l) := by
  -- Whether anything is in the lead before this level decides what it is compared with.
  cases isBest with
  | nothing notPositive =>
    simp only [leading]
    by_cases positive : 0 < count l
    · rw [if_pos positive]
      apply IsMostCommon.level l (by simp) positive
      intro l' mem
      rcases List.mem_append.mp mem with old | new
      · have := notPositive l' old
        omega
      · obtain rfl := List.mem_singleton.mp new
        omega
    · rw [if_neg positive]
      apply IsMostCommon.nothing
      intro l' mem
      rcases List.mem_append.mp mem with old | new
      · exact notPositive l' old
      · obtain rfl := List.mem_singleton.mp new
        omega
  | level b seenBefore positive leads =>
    have better : b.severity < l.severity := worse b seenBefore
    simp only [leading]
    -- It has to exceed the level in the lead; with an equal count the better level stays.
    by_cases greater : 0 < count l ∧ count b < count l
    · rw [if_pos greater]
      apply IsMostCommon.level l (by simp) greater.1
      intro l' mem
      rcases List.mem_append.mp mem with old | new
      · have := leads l' old
        omega
      · obtain rfl := List.mem_singleton.mp new
        omega
    · rw [if_neg greater]
      apply IsMostCommon.level b (by simp [seenBefore]) positive
      intro l' mem
      rcases List.mem_append.mp mem with old | new
      · exact leads l' old
      · obtain rfl := List.mem_singleton.mp new
        omega

/-- Nothing is most common only if no count is above zero. -/
theorem eq_none_iff (isBest : IsMostCommon count seen best) :
    -- The level in the lead has a count above zero.
    best = none ↔ ∀ l ∈ seen, count l ≤ 0 := by
  cases isBest with
  | nothing notPositive => simpa using notPositive
  | level l mem positive _ =>
    have : ¬ ∀ l ∈ seen, count l ≤ 0 := fun all => by
      have := all l mem
      omega
    simpa using this

end IsMostCommon

namespace LevelCounts

/-- The count of a level, if it is listed. -/
def listed? (counts : LevelCounts) (l : Level) : Option Int :=
  (counts.find? fun e => e.1 == l).map Prod.snd

/-- The level in the lead after a further one has been looked at. A further level with a count above
zero is compared with the one in the lead, which has to be listed for this. -/
def leadingListed (counts : LevelCounts) (best : Option Level) (l : Level) :
    Except Fault (Option Level) :=
  match best with
  | none => return if 0 < counts.get l then some l else none
  | some b =>
    if 0 < counts.get l then do
      let n ← orFault (counts.listed? b) .missingKey
      return if n < counts.get l then some l else some b
    else return some b

/-- The most common level, found by comparisons with listed counts. -/
def mostCommonListed (counts : LevelCounts) : Except Fault (Option Level) :=
  Level.all.foldlM counts.leadingListed none

variable {counts : LevelCounts} {seen rest : List Level} {best : Option Level} {l : Level}

/-- A level with a count above zero is listed. -/
private theorem listed?_of_pos (positive : 0 < counts.get l) :
    counts.listed? l = some (counts.get l) := by
  -- Levels that are not listed have the count zero.
  unfold get at positive ⊢
  unfold listed?
  cases found : (counts.find? fun e => e.1 == l).map Prod.snd with
  | none => simp [found] at positive
  | some n => rfl

/-- The level in the lead has a count above zero, and so it is always listed. -/
private theorem leadingListed_eq (isBest : IsMostCommon counts.get seen best) :
    counts.leadingListed best l = .ok (leading counts.get best l) := by
  cases isBest with
  | nothing _ => rfl
  | level b _ positive _ =>
    simp only [leadingListed, leading, listed?_of_pos positive, orFault]
    -- Only a count above zero is compared with that of the lead.
    by_cases further : 0 < counts.get l
    · simp only [further, if_true, true_and]
      rfl
    · simp only [further, if_false, false_and]
      rfl

/-- The whole scan, over levels that get worse and worse: it never asks for a count that is not
listed, and it ends at the most common one of all levels. -/
private theorem scan (isBest : IsMostCommon counts.get seen best)
    (ordered : (seen ++ rest).Pairwise fun a b => a.severity < b.severity) :
    rest.foldlM counts.leadingListed best = .ok (rest.foldl (leading counts.get) best) ∧
      IsMostCommon counts.get (seen ++ rest) (rest.foldl (leading counts.get) best) := by
  -- On the levels still to come, the first of which is worse than all before it.
  induction rest generalizing seen best with
  | nil => exact ⟨rfl, by simpa using isBest⟩
  | cons l rest ih =>
    have worse : ∀ l' ∈ seen, l'.severity < l.severity := fun l' mem =>
      (List.pairwise_append.mp ordered).2.2 l' mem l List.mem_cons_self
    rw [List.append_cons] at ordered ⊢
    rw [List.foldlM_cons, leadingListed_eq isBest]
    exact ih (isBest.snoc worse) ordered

end LevelCounts

namespace Statistics

open Time (Civil Moment dayMicros)

variable {id : Int} {start stop : Moment} {ms ms' : List Measurement} {s : Statistics}

/-- The scan is a fold over the levels, from the best to the worst. -/
private theorem mostCommonLevel_eq_foldl (s : Statistics) :
    s.mostCommonLevel = Level.all.foldl (leading s.levelCounts.get) none := by
  unfold mostCommonLevel
  congr 1
  funext best l
  cases best <;> rfl

/-- Whatever is listed, the most common level is the best one with the greatest positive count, and
no count is asked for that is not listed. -/
private theorem mostCommonLevel_spec (s : Statistics) :
    s.levelCounts.mostCommonListed = .ok s.mostCommonLevel ∧
      IsMostCommon s.levelCounts.get Level.all s.mostCommonLevel := by
  -- The scan starts with no level in the lead, and the levels are given in order.
  have start : IsMostCommon s.levelCounts.get [] none := .nothing (by simp)
  have ordered : ([] ++ Level.all).Pairwise fun a b : Level => a.severity < b.severity := by decide
  rw [mostCommonLevel_eq_foldl]
  exact LevelCounts.scan start ordered

/-- Of measurements there is no most common level only if none of them has a level. -/
theorem mostCommonLevel_eq_none_iff (found : of? id start stop ms = some s) :
    s.mostCommonLevel = none ↔ ∀ m ∈ ms, m.levels.overall = none := by
  rw [s.mostCommonLevel_spec.2.eq_none_iff, levelCounts_of? found]
  -- A level occurs if and only if a measurement has it.
  constructor
  · intro notPositive m mem
    cases level : m.levels.overall with
    | none => rfl
    | some l =>
      have counted : 0 < occurrences ms l :=
        List.countP_pos_iff.mpr ⟨m, mem, by simp [level]⟩
      have := notPositive l l.mem_all
      rw [get_histogram] at this
      omega
  · intro absent l _
    have uncounted : occurrences ms l = 0 :=
      List.countP_eq_zero.mpr fun m mem => by simp [absent m mem]
    rw [get_histogram, uncounted]
    omega

/-! ## All of it -/

/-- What statistics say of the measurements that they are made of. -/
structure Describes (s : Statistics) (ms : List Measurement) : Prop where
  count_eq : s.count = ms.length
  figure_eq_none_iff : ∀ p, s.figure? p = none ↔ ∀ m ∈ ms, m.values.get p = none
  buckets : s.levelCounts.map Prod.fst = Level.all
  bucket_eq : ∀ l, s.levelCounts.get l = occurrences ms l
  sum_eq : (s.levelCounts.map Prod.snd).sum = ms.countP fun m => m.levels.overall.isSome
  mostCommon_eq_none_iff : s.mostCommonLevel = none ↔ ∀ m ∈ ms, m.levels.overall = none
  mostCommon : IsMostCommon s.levelCounts.get Level.all s.mostCommonLevel

/-- The statistics of measurements describe them. -/
private theorem describes_of? (found : of? id start stop ms = some s) : s.Describes ms where
  count_eq := count_of? found
  figure_eq_none_iff := figure?_eq_none_iff found
  buckets := by
    rw [levelCounts_of? found, histogram, List.map_map]
    exact List.map_id' Level.all
  bucket_eq l := by rw [levelCounts_of? found, get_histogram]
  sum_eq := by rw [levelCounts_of? found, sum_histogram]
  mostCommon_eq_none_iff := mostCommonLevel_eq_none_iff found
  mostCommon := s.mostCommonLevel_spec.2

/-- The order of the measurements leaves no trace in the histogram. -/
private theorem levelCounts_perm (found : of? id start stop ms = some s) (perm : ms.Perm ms') :
    ∃ s', of? id start stop ms' = some s' ∧ s'.levelCounts = s.levelCounts := by
  -- A permutation of nothing is nothing.
  cases found' : of? id start stop ms' with
  | none =>
    obtain rfl := of?_eq_none_iff.mp found'
    rw [perm.eq_nil] at found
    cases found
  | some s' =>
    refine ⟨s', rfl, ?_⟩
    rw [levelCounts_of? found', levelCounts_of? found, histogram_perm perm]

/-- There are statistics of all measurements but of none, and they describe them. Measurements
without a value of a pollutant, wherever they are inserted, leave its figure as it is, and another
order leaves the histogram as it is. Of any statistics, whatever their counts, the most common
level is the best one with the greatest positive count, and it is found without a fault. -/
theorem statistics_content (id : Int) (start stop : Moment) :
    (∀ ms, of? id start stop ms = none ↔ ms = []) ∧
      (∀ ms s, of? id start stop ms = some s →
        s.Describes ms ∧
        (∀ p ms', Inserted (fun m : Measurement => m.values.get p = none) ms ms' →
          ∃ s', of? id start stop ms' = some s' ∧ s'.figure? p = s.figure? p) ∧
        ∀ ms', ms.Perm ms' →
          ∃ s', of? id start stop ms' = some s' ∧ s'.levelCounts = s.levelCounts) ∧
      ∀ s : Statistics,
        s.levelCounts.mostCommonListed = .ok s.mostCommonLevel ∧
          IsMostCommon s.levelCounts.get Level.all s.mostCommonLevel := by
  refine ⟨fun _ => of?_eq_none_iff, fun ms s found => ?_, mostCommonLevel_spec⟩
  exact ⟨describes_of? found, fun p ms' inserted => figure?_of_inserted found inserted,
    fun ms' perm => levelCounts_perm found perm⟩

/-- The beginning of a year, at UTC. -/
def newYear : Moment := ⟨⟨(Civil.mk 2027 1 1).dayNumber * dayMicros, by decide⟩, some .zero⟩

/-- A measurement with a level and a value of PM10, if they are known. -/
def snapshot (level : Option Level) (pm10 : Option Float) : Measurement where
  id := none
  stationId := 7
  stationName := none
  date := newYear
  levels := ⟨level, none, none, none, none⟩
  values := ⟨pm10, none, none, none, none, none⟩
  createdAt := newYear

/-- A value of zero is not an absent one, and of two levels that occur once the better one is the
most common. -/
theorem statistics_content_zeroValue :
    ∃ s s', of? 7 newYear newYear [snapshot (some .bad) (some 0.0), snapshot (some .good) none] =
        some s ∧
      of? 7 newYear newYear
        [snapshot none none, snapshot (some .bad) (some 0.0), snapshot (some .good) none] =
        some s' ∧
      s.count = 2 ∧ s.figure? .pm10 ≠ none ∧ s'.figure? .pm10 = s.figure? .pm10 ∧
      s.figure? .co = none ∧ (s.levelCounts.map Prod.snd).sum = 2 ∧
      s.levelCounts.mostCommonListed = .ok (some .good) := by
  obtain ⟨_, ofWindow, listed⟩ := statistics_content 7 newYear newYear
  obtain ⟨describes, unmoved, _⟩ :=
    ofWindow [snapshot (some .bad) (some 0.0), snapshot (some .good) none] _ rfl
  -- The measurement in front has no value, and the others are kept.
  obtain ⟨s', found', same⟩ :=
    unmoved .pm10 (snapshot none none :: [_, _]) (.new rfl (.kept _ (.kept _ .nil)))
  refine ⟨_, s', rfl, found', describes.count_eq, ?_, same, ?_, describes.sum_eq, (listed _).1⟩
  · rw [ne_eq, describes.figure_eq_none_iff]
    simp [snapshot, Concentrations.get]
  · rw [describes.figure_eq_none_iff]
    simp [snapshot, Concentrations.get]

end Statistics

end AirQuality
