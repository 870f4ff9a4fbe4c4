import AirQuality.Proofs.Store.Changes
import AirQuality.Proofs.Store.Ties
import Mathlib.Data.List.Pairwise

/-!
# The latest measurement decides

The history is asked in three ways when a station was measured last: for its latest measurement, for
a measurement since some moment, and for those in a range. The latest measurement decides the other
two answers, and goes on to do so after a removal: this takes the latest measurement away only
together with all others.

## Key results

- `hasRecent?_of_latest?`: what is recent follows from the latest measurement
- `exists_ofStation?_iff`, `getLast?_ofStation?`: so does whether a range is empty, and its end
- `latest?_filter`: what a removal makes of the latest measurement
- `latest_decides_answers`: all of it, after any sequence of changes
-/

namespace AirQuality.History

open Time (Moment)

/-! ## The latest of some measurements -/

namespace IsLatest

variable {ms out : List Measurement} {m : Measurement}

/-- A condition that holds of all measurements of the latest date leaves the latest one. -/
theorem filter {p : Measurement → Bool} (isLatest : IsLatest ms m)
    (tied : ∀ m' ∈ ms, m'.date.key = m.date.key → p m' = true) : IsLatest (ms.filter p) m where
  greatest m' mem := isLatest.greatest m' (List.mem_filter.mp mem).1
  first := by
    have all : (ms.filter fun m' => m'.date.key == m.date.key).filter p =
        ms.filter fun m' => m'.date.key == m.date.key := by
      refine List.filter_eq_self.mpr fun m' mem => ?_
      obtain ⟨mem, same⟩ := List.mem_filter.mp mem
      exact tied m' mem (eq_of_beq same)
    rw [List.filter_comm, all, isLatest.first]

/-- In the order of the dates, the last measurement has the latest date. -/
private theorem exists_getLast? (isLatest : IsLatest ms m) (sub : out ⊆ ms) (mem : m ∈ out)
    (sorted : out.Pairwise fun a b => a.date.key ≤ b.date.key) :
    ∃ last, out.getLast? = some last ∧ last.date.key = m.date.key := by
  have something : out ≠ [] := List.ne_nil_of_mem mem
  refine ⟨out.getLast something, List.getLast?_eq_some_getLast something, ?_⟩
  apply Int.le_antisymm
  · exact isLatest.greatest _ (sub (List.getLast_mem something))
  · exact sorted.rel_getLast_of_rel_getLast_getLast mem (Int.le_refl _)

end IsLatest

/-! ## Single answers -/

/-- The measurements of a station have offsets if all measurements have them. -/
private theorem aware_recordsOf {h : History} (dated : ∀ m ∈ h.records, m.date.isAware = true)
    (id : Int) :
    ∀ m ∈ h.recordsOf id, m.date.isAware = true :=
  fun m mem => dated m (List.mem_of_mem_filter mem)

/-- A date with an offset is recent only for a moment that has one too. -/
private theorem isSince_iff_of_aware {threshold : Moment} {m : Measurement}
    (aware : m.date.isAware = true) :
    m.isSince threshold = true ↔ threshold.isAware = true ∧ threshold.key ≤ m.date.key := by
  simp [isSince_iff, Moment.comparable, aware]

section Answers

variable {h : History} {id : Int} {latest : Option Measurement} {threshold : Moment}
  (dated : ∀ m ∈ h.records, m.date.isAware = true) (found : h.latest? id = .ok latest)

include dated found

/-- A station has a recent measurement if and only if its latest one is recent. -/
private theorem any_isSince_recordsOf :
    (h.recordsOf id).any (·.isSince threshold) = latest.any (·.isSince threshold) := by
  have aware := aware_recordsOf dated id
  cases latest with
  | none => simp [(latest?_eq_none_iff aware).mp found]
  | some last =>
    have isLatest := (latest?_eq_some_iff aware).mp found
    rw [Option.any_some, Bool.eq_iff_iff, List.any_eq_true]
    constructor
    · rintro ⟨m, mem, recent⟩
      obtain ⟨isAware, since⟩ := (isSince_iff_of_aware (aware m mem)).mp recent
      exact (isSince_iff_of_aware (aware last isLatest.mem)).mpr
        ⟨isAware, Int.le_trans since (isLatest.greatest m mem)⟩
    · exact fun recent => ⟨last, isLatest.mem, recent⟩

/-- The check for recent measurements asks no more than whether the latest one is recent, and fails
if this cannot be said. -/
theorem hasRecent?_of_latest? :
    h.hasRecent? id threshold = latest.elim (.ok false) (notAfter threshold ·.date) := by
  have aware := aware_recordsOf dated id
  cases latest with
  | none => rw [hasRecent?, (latest?_eq_none_iff aware).mp found, anyNotBefore, Option.elim]
  | some last =>
    have mem := ((latest?_eq_some_iff aware).mp found).mem
    cases isAware : threshold.isAware with
    | true =>
      have comparable : ∀ m ∈ h.recordsOf id, threshold.comparable m.date = true :=
        fun m mem => Moment.comparable_of_aware isAware (aware m mem)
      rw [hasRecent?, anyNotBefore_of_comparable comparable, any_isSince_recordsOf dated found]
      exact (notAfter_eq_ok_iff.mpr ⟨comparable last mem, rfl⟩).symm
    | false =>
      -- The first measurement that comes up cannot be compared, and the latest one neither.
      have apart : ∀ m ∈ h.recordsOf id, threshold.comparable m.date = false :=
        fun m mem => by simp [Moment.comparable, isAware, aware m mem]
      obtain ⟨first, ms, records⟩ := List.exists_cons_of_ne_nil (List.ne_nil_of_mem mem)
      rw [Option.elim, notAfter_of_not_comparable (apart last mem), hasRecent?, records,
        anyNotBefore, notAfter_of_not_comparable (apart first (records ▸ List.mem_cons_self))]
      rfl

/-- A station has a recent measurement if and only if it has one up to some end. -/
theorem exists_ofStation?_iff :
    (∃ stop out, h.ofStation? id threshold stop = .ok out ∧ out ≠ []) ↔
      h.hasRecent? id threshold = .ok true := by
  have aware := aware_recordsOf dated id
  have hasRecent : h.hasRecent? id threshold = .ok true ↔
      (h.recordsOf id).any (·.isSince threshold) = true := by
    -- The latest measurement is recent if any is.
    rw [hasRecent?_of_latest? dated found, any_isSince_recordsOf dated found]
    cases latest with
    | none => simp
    | some last =>
      rw [Option.elim, Option.any_some, notAfter_eq_ok_iff]
      exact and_iff_right_of_imp fun recent => (isSince_iff.mp recent).1
  rw [hasRecent, List.any_eq_true]
  constructor
  -- What is found is one of the station's, dated since the threshold.
  · rintro ⟨stop, out, answer, something⟩
    obtain ⟨-, rfl⟩ := ofStation?_eq_ok_iff.mp answer
    obtain ⟨m, mem⟩ := List.exists_mem_of_ne_nil _ something
    obtain ⟨own, within⟩ := List.mem_filter.mp ((sortByDate_perm _).mem_iff.mp mem)
    exact ⟨m, own, (Bool.and_eq_true_iff.mp within).1⟩
  · rintro ⟨m, mem, recent⟩
    obtain ⟨isAware, since⟩ := (isSince_iff_of_aware (aware m mem)).mp recent
    -- The range may end with the measurement itself.
    have within : m.isWithin threshold m.date = true :=
      (isWithin_iff (Moment.comparable_of_aware isAware (aware m mem))
        (Moment.comparable_of_aware (aware m mem) (aware m mem))).mpr ⟨since, Int.le_refl _⟩
    refine ⟨m.date, _, ofStation?_of_aware dated isAware (aware m mem) id, ?_⟩
    exact List.ne_nil_of_mem ((sortByDate_perm _).mem_iff.mpr (List.mem_filter.mpr ⟨mem, within⟩))

/-- A range that the latest measurement lies in ends with a measurement of the same date. -/
theorem getLast?_ofStation? {m : Measurement} (isLatest : latest = some m) {start stop : Moment}
    (first : start.isAware = true) (last : stop.isAware = true) (since : start.key ≤ m.date.key)
    (upTo : m.date.key ≤ stop.key) :
    ∃ out final, h.ofStation? id start stop = .ok out ∧ out.getLast? = some final ∧
      final.date.key = m.date.key := by
  have aware := aware_recordsOf dated id
  have isLatest := (latest?_eq_some_iff aware).mp (isLatest ▸ found)
  have own := aware m isLatest.mem
  have within : m.isWithin start stop = true :=
    (isWithin_iff (Moment.comparable_of_aware first own)
      (Moment.comparable_of_aware own last)).mpr ⟨since, upTo⟩
  -- What is listed is what the station has in the range.
  have listed : ∀ m', m' ∈ sortByDate ((h.recordsOf id).filter (·.isWithin start stop)) ↔
      m' ∈ h.recordsOf id ∧ m'.isWithin start stop = true := fun m' => by
    rw [(sortByDate_perm _).mem_iff, List.mem_filter]
  obtain ⟨final, ends, same⟩ := isLatest.exists_getLast? (fun m' mem => ((listed m').mp mem).1)
    ((listed m).mpr ⟨isLatest.mem, within⟩) (pairwise_sortByDate _)
  exact ⟨_, final, ofStation?_of_aware dated first last id, ends, same⟩

/-! ## Removals -/

/-- A removal leaves the latest measurement of a station, or nothing of the station at all. -/
theorem latest?_filter (issued : Nat) :
    latest? ⟨h.records.filter (·.isSince threshold), issued⟩ id =
      .ok (latest.filter (·.isSince threshold)) := by
  have aware := aware_recordsOf dated id
  have left : recordsOf ⟨h.records.filter (·.isSince threshold), issued⟩ id =
      (h.recordsOf id).filter (·.isSince threshold) := List.filter_comm ..
  have aware' : ∀ m ∈ recordsOf ⟨h.records.filter (·.isSince threshold), issued⟩ id,
      m.date.isAware = true := fun m mem => aware m (List.mem_of_mem_filter (left ▸ mem))
  cases kept : latest.filter (·.isSince threshold) with
  | none =>
    have nothing : (h.recordsOf id).any (·.isSince threshold) = false := by
      rw [any_isSince_recordsOf dated found]
      cases latest with
      | none => rfl
      | some m => simpa using kept
    rw [latest?_eq_none_iff aware', left, List.filter_eq_nil_iff]
    simpa using nothing
  | some m =>
    obtain ⟨rfl, recent⟩ := Option.filter_eq_some_iff.mp kept
    have isLatest := (latest?_eq_some_iff aware).mp found
    obtain ⟨isAware, since⟩ := (isSince_iff_of_aware (aware m isLatest.mem)).mp recent
    rw [latest?_eq_some_iff aware', left]
    -- Whatever has the latest date stays with the latest measurement.
    exact isLatest.filter fun m' mem tied =>
      (isSince_iff_of_aware (aware m' mem)).mpr ⟨isAware, tied ▸ since⟩

/-- A removal does not show to those who ask for what is not older. -/
private theorem hasRecent?_filter {t : Moment} (isAware : t.isAware = true)
    (later : t.le? threshold = some true) (issued : Nat) :
    hasRecent? ⟨h.records.filter (·.isSince t), issued⟩ id threshold =
      h.hasRecent? id threshold := by
  rw [hasRecent?_of_latest? (fun m mem => dated m (List.mem_of_mem_filter mem))
    (latest?_filter dated found issued), hasRecent?_of_latest? dated found]
  cases latest with
  | none => rfl
  | some last =>
    have aware : last.date.isAware = true :=
      aware_recordsOf dated id last ((latest?_eq_some_iff (aware_recordsOf dated id)).mp found).mem
    cases kept : last.isSince t with
    | true => rw [Option.filter_some, kept, if_pos rfl]
    | false =>
      obtain ⟨same, before⟩ : t.comparable threshold = true ∧ t.key ≤ threshold.key := by
        simpa [Moment.le?] using later
      have isAware' : threshold.isAware = true := (eq_of_beq same).symm.trans isAware
      -- A measurement that is removed is not recent for a later moment either.
      have notSince : last.isSince threshold = false := by
        rw [Bool.eq_false_iff] at kept ⊢
        refine fun recent => kept ?_
        obtain ⟨-, since⟩ := (isSince_iff_of_aware aware).mp recent
        exact (isSince_iff_of_aware aware).mpr ⟨isAware, Int.le_trans before since⟩
      rw [Option.filter_some, kept, if_neg Bool.false_ne_true]
      exact (notAfter_eq_ok_iff.mpr
        ⟨Moment.comparable_of_aware isAware' aware, notSince⟩).symm

end Answers

/-! ## All answers -/

/-- The answers that a history gives about a station follow from its latest measurement: this is the
first one with the latest date, something is recent if and only if it is, ranges from some moment on
are empty unless it is recent then, and each range that it lies in ends with its date. -/
structure AnswersByLatest (h : History) (id : Int) (latest : Option Measurement) : Prop where
  latest_eq : ((store.latest id).runOn h).value = (.ok latest, h)
  none_iff : latest = none ↔ h.recordsOf id = []
  isLatest : ∀ m ∈ latest, IsLatest (h.recordsOf id) m
  hasRecent_eq : ∀ threshold : Moment, ((store.hasRecent id threshold).runOn h).value =
    (latest.elim (.ok false) (notAfter threshold ·.date), h)
  exists_ofStation_iff : ∀ threshold : Moment,
    (∃ stop out, ((store.ofStation id threshold stop).runOn h).value = (.ok out, h) ∧ out ≠ []) ↔
      ((store.hasRecent id threshold).runOn h).value = (.ok true, h)
  last_ofStation : ∀ m ∈ latest, ∀ start stop : Moment,
    start.isAware = true → stop.isAware = true → start.key ≤ m.date.key → m.date.key ≤ stop.key →
      ∃ out final, ((store.ofStation id start stop).runOn h).value = (.ok out, h) ∧
        out.getLast? = some final ∧ final.date.key = m.date.key

/-- A history whose dates have offsets answers by its latest measurement. -/
private theorem answersByLatest {h : History} {id : Int} {latest : Option Measurement}
    (dated : ∀ m ∈ h.records, m.date.isAware = true) (found : h.latest? id = .ok latest) :
    AnswersByLatest h id latest where
  latest_eq := by rw [store, value_runOn_asking, found]
  none_iff := by rw [← latest?_eq_none_iff (aware_recordsOf dated id), found, Except.ok.injEq]
  isLatest := by
    rintro m rfl
    exact (latest?_eq_some_iff (aware_recordsOf dated id)).mp found
  hasRecent_eq threshold := by rw [value_hasRecent, hasRecent?_of_latest? dated found]
  exists_ofStation_iff threshold := by
    have upToSomeEnd :
        (∃ stop out, h.ofStation? id threshold stop = .ok out ∧ out ≠ []) ↔
          h.hasRecent? id threshold = .ok true := exists_ofStation?_iff dated found
    simpa [store] using upToSomeEnd
  last_ofStation m mem start stop first last since upTo := by
    obtain ⟨out, final, answer, ends, same⟩ :=
      getLast?_ofStation? dated found mem first last since upTo
    exact ⟨out, final, by rw [store, value_runOn_asking, answer], ends, same⟩

/-- After any sequence of changes to an empty history, the latest measurement of a station decides
what is recent and whether a range is empty. A removal leaves it, if it is not older than the
removal asks for, and else nothing of the station; to those who ask for what is not older it does
not show. -/
theorem latest_decides_answers {changes : List Change} (aware : ∀ c ∈ changes, c.isAware = true) :
    ∃ h, ((makeAll changes).runOn .empty).value = (.ok (), h) ∧
      List.Forall₂ KeptAs (survivors changes) h.records ∧
      ∀ id, ∃ latest, AnswersByLatest h id latest ∧
        ∀ t : Moment, t.isAware = true →
          ∃ h', ((store.deleteOlder t).runOn h).value = (.ok (), h') ∧
            AnswersByLatest h' id (latest.filter (·.isSince t)) ∧
            ∀ threshold : Moment, t.le? threshold = some true →
              ((store.hasRecent id threshold).runOn h').value.1 =
                ((store.hasRecent id threshold).runOn h).value.1 := by
  -- The history is what has survived of the changes, up to identifiers.
  obtain ⟨news, h, value, records, kept⟩ := value_makeAll aware (h := .empty) (by simp [empty])
  obtain rfl : h.records = news := by simpa [empty] using records
  have dated : ∀ m ∈ h.records, m.date.isAware = true :=
    aware_of_forall₂ kept (aware_of_mem_survivors aware)
  refine ⟨h, value, kept, fun id => ?_⟩
  obtain ⟨latest, found⟩ := exists_latest?_eq_ok (aware_recordsOf dated id)
  refine ⟨latest, answersByLatest dated found, fun t isAware => ?_⟩
  -- A removal with an offset can be compared with all dates.
  have comparable : h.allComparable t = true :=
    List.all_eq_true.mpr fun m mem => Moment.comparable_of_aware isAware (dated m mem)
  refine ⟨⟨h.records.filter (·.isSince t), h.issued⟩, ?_, ?_, fun threshold later => ?_⟩
  · rw [value_deleteOlder, deleteOlder?_eq, if_pos comparable]
  · exact answersByLatest (fun m mem => dated m (List.mem_of_mem_filter mem))
      (latest?_filter dated found h.issued)
  · rw [value_hasRecent, value_hasRecent, hasRecent?_filter dated found isAware later]

/-- Two measurements of one station and date, after an older one. -/
def twoOfOneDate : List Change :=
  [.save { bare 7 (noonOfMay 0) with id := some "older" },
    .saveAll [{ bare 7 (noonOfMay 1) with id := some "first" },
      { bare 7 (noonOfMay 1) with id := some "second" }]]

/-- The first of the two is the latest measurement, and a removal of what is older leaves it. -/
theorem latest_decides_answers_twoOfOneDate :
    (∀ c ∈ twoOfOneDate, c.isAware = true) ∧ (noonOfMay 1).isAware = true ∧
    (noonOfMay 1).le? (noonOfMay 1) = some true ∧
    ∃ h h', ((makeAll twoOfOneDate).runOn .empty).value = (.ok (), h) ∧
      ((store.deleteOlder (noonOfMay 1)).runOn h).value = (.ok (), h') ∧
      ((store.latest 7).runOn h').value =
        (.ok (some { bare 7 (noonOfMay 1) with id := some "first" }), h') ∧
      ((store.hasRecent 7 (noonOfMay 1)).runOn h).value.1 = .ok true ∧
      ((store.hasRecent 7 (noonOfMay 1)).runOn h').value.1 = .ok true := by
  have aware : ∀ c ∈ twoOfOneDate, c.isAware = true := by
    simp [twoOfOneDate, Change.isAware, bare, Measurement.ofLive, noonOfMay, Moment.isAware]
  obtain ⟨h, value, kept, answers⟩ := latest_decides_answers aware
  obtain ⟨latest, answers, removals⟩ := answers 7
  obtain ⟨h', removed, left, unchanged⟩ := removals (noonOfMay 1) rfl
  -- All of the saved measurements have identifiers, so they are kept as they are.
  have records : h.records = survivors twoOfOneDate :=
    eq_of_hasId kept (List.all_eq_true.mp rfl)
  have first : latest = some { bare 7 (noonOfMay 1) with id := some "first" } := by
    have found : h.latest? 7 = .ok latest := by
      simpa [store] using answers.latest_eq
    rw [latest?, recordsOf, records] at found
    exact (Except.ok.inj found).symm
  subst first
  have recent : ((store.hasRecent 7 (noonOfMay 1)).runOn h).value.1 = .ok true := by
    rw [answers.hasRecent_eq]
    rfl
  exact ⟨aware, rfl, rfl, h, h', value, removed, left.latest_eq, recent,
    (unchanged _ rfl).trans recent⟩

end AirQuality.History
