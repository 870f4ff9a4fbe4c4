import AirQuality.Store.History
import Mathlib.Data.List.Perm.Basic

/-!
# What the history keeps

A history grows at its end, by measurements that differ from the saved ones in their identifiers
only. The freshness check looks at one station; the removal of old measurements looks at all of
them, and removes nothing if it comes upon a date that it cannot compare.

## Key results

- `map_unnamed_saveAll`: up to identifiers, what is kept is what was saved
- `any_isSince_of_anyNotBefore`: the answer of the freshness check, where it has one
- `deleteOlder?_eq`: the removal is a filter, or it fails
- `Alike.deleteOlder?`: the removal cannot tell histories that are alike up to identifiers apart
-/

namespace AirQuality

open Time (Moment)

/-- The measurement without its identifier. -/
def Measurement.unnamed (m : Measurement) : Measurement := { m with id := none }

/-- The station is known without the identifier. -/
@[simp] theorem Measurement.unnamed_stationId (m : Measurement) :
    m.unnamed.stationId = m.stationId := rfl

/-- Whether a measurement is dated at a moment or after it. -/
def Measurement.isSince (threshold : Moment) (m : Measurement) : Bool :=
  threshold.le? m.date == some true

/-- Identifiers are all that is given to measurements. -/
private theorem map_unnamed_assignIds (issued : Nat) (ms : List Measurement) :
    (assignIds issued ms).1.map Measurement.unnamed = ms.map Measurement.unnamed := by
  induction ms generalizing issued with
  | nil => rfl
  | cons m ms ih =>
    by_cases named : m.hasId = true
    · simp [assignIds, named, ih]
    · simp [assignIds, named, ih, Measurement.unnamed]

/-- What is asked of measurements but not of their identifiers may be asked before these are given. -/
theorem forall_assignIds {P : Measurement → Prop} (blind : ∀ m, P m.unnamed ↔ P m) {issued : Nat}
    {ms : List Measurement} : (∀ m ∈ (assignIds issued ms).1, P m) ↔ ∀ m ∈ ms, P m := by
  -- Asked of what has no identifiers, it is the same question.
  have unnamed (ms : List Measurement) :
      (∀ m ∈ ms.map Measurement.unnamed, P m) ↔ ∀ m ∈ ms, P m := by
    simp only [List.forall_mem_map, blind]
  rw [← unnamed, map_unnamed_assignIds, unnamed]

/-- The same of any two measurements. -/
theorem pairwise_assignIds {R : Measurement → Measurement → Prop}
    (blind : ∀ a b, R a.unnamed b.unnamed ↔ R a b) {issued : Nat} {ms : List Measurement} :
    (assignIds issued ms).1.Pairwise R ↔ ms.Pairwise R := by
  have unnamed (ms : List Measurement) : (ms.map Measurement.unnamed).Pairwise R ↔ ms.Pairwise R := by
    simp only [List.pairwise_map, blind]
  rw [← unnamed, map_unnamed_assignIds, unnamed]

/-- A condition that does not look at identifiers may be asked before they are taken away. -/
private theorem map_unnamed_filter {p : Measurement → Bool} (blind : ∀ m, p m.unnamed = p m)
    (ms : List Measurement) :
    (ms.filter p).map Measurement.unnamed = (ms.map Measurement.unnamed).filter p := by
  rw [List.filter_map]
  congr 2
  exact (funext blind).symm

/-- A generated identifier says something. -/
private theorem hasId_generated (m : Measurement) (n : Nat) :
    Measurement.hasId { m with id := some (generatedId n : Text) } = true := by
  simp [Measurement.hasId, generatedId, Text.hexDigits, Text.ofString, Text.ofChars, Text.isEmpty,
    Nat.toDigits_ne_nil]

/-- A store keeps no measurement without an identifier. -/
theorem hasId_of_mem_assignIds {issued : Nat} {ms : List Measurement} :
    ∀ m ∈ (assignIds issued ms).1, m.hasId = true := by
  induction ms generalizing issued with
  | nil => simp [assignIds]
  | cons m ms ih =>
    intro kept mem
    -- The identifier is the measurement's own, or one that has just been generated.
    by_cases named : m.hasId = true
    · rw [assignIds, if_pos named] at mem
      rcases List.mem_cons.mp mem with rfl | later
      · exact named
      · exact ih kept later
    · rw [assignIds, if_neg named] at mem
      rcases List.mem_cons.mp mem with rfl | later
      · exact hasId_generated m (issued + 1)
      · exact ih kept later

/-- Measurements that have identifiers are kept as they are. -/
private theorem assignIds_of_hasId {issued : Nat} {ms : List Measurement}
    (named : ∀ m ∈ ms, m.hasId = true) : assignIds issued ms = (ms, issued) := by
  induction ms with
  | nil => rfl
  | cons m ms ih =>
    have rest := ih fun m' mem => named m' (List.mem_cons_of_mem m mem)
    rw [assignIds, if_pos (named m List.mem_cons_self), rest]

namespace History

/-! ## Saving -/

/-- Saving nothing changes nothing. -/
@[simp] theorem saveAll_nil (h : History) : (h.saveAll []).2 = h := by
  simp [saveAll, assignIds]

/-- What is saved is put behind the others. -/
@[simp] theorem records_saveAll (h : History) (ms : List Measurement) :
    (h.saveAll ms).2.records = h.records ++ (h.saveAll ms).1 := rfl

/-- What is kept is what was saved, up to identifiers. -/
theorem map_unnamed_saveAll (h : History) (ms : List Measurement) :
    (h.saveAll ms).1.map Measurement.unnamed = ms.map Measurement.unnamed :=
  map_unnamed_assignIds h.issued ms

/-- Measurements that have identifiers are kept as they are. -/
theorem saveAll_of_hasId {h : History} {ms : List Measurement}
    (named : ∀ m ∈ ms, m.hasId = true) : h.saveAll ms = (ms, ⟨h.records ++ ms, h.issued⟩) := by
  rw [saveAll, assignIds_of_hasId named]

/-- A measurement that is saved is put behind the others, with an identifier. -/
theorem exists_saved (h : History) (m : Measurement) :
    ∃ saved, (h.saveAll [m]).2.records = h.records ++ [saved] ∧
      saved.stationId = m.stationId ∧ saved.date = m.date := by
  -- One measurement is saved, and it is the same up to its identifier.
  obtain ⟨saved, only, same⟩ := List.map_eq_singleton_iff.mp (map_unnamed_saveAll h [m])
  have station : saved.unnamed.stationId = m.unnamed.stationId := by rw [same]
  have date : saved.unnamed.date = m.unnamed.date := by rw [same]
  exact ⟨saved, by rw [records_saveAll, only], station, date⟩

/-- Growth by measurements of other stations does not show in the measurements of a station. -/
theorem recordsOf_of_others {h old : History} {news : List Measurement}
    (growth : h.records = old.records ++ news) {id : Int}
    (others : ∀ m ∈ news, m.stationId ≠ id) : h.recordsOf id = old.recordsOf id := by
  have none : news.filter (fun m => m.stationId == id) = [] := by simpa using others
  rw [recordsOf, growth, List.filter_append, none, List.append_nil, recordsOf]

/-- Growth by measurements of a station is growth of the measurements of this station. -/
theorem recordsOf_of_own {h old : History} {news : List Measurement}
    (growth : h.records = old.records ++ news) {id : Int}
    (own : ∀ m ∈ news, m.stationId = id) : h.recordsOf id = old.recordsOf id ++ news := by
  have all : news.filter (fun m => m.stationId == id) = news := by simpa using own
  rw [recordsOf, growth, List.filter_append, all, recordsOf]

/-- The measurements of a station in a history that has grown. -/
theorem map_unnamed_recordsOf {h old : History} {news : List Measurement}
    (growth : h.records = old.records ++ news) (id : Int) :
    (h.recordsOf id).map Measurement.unnamed =
      (old.recordsOf id).map Measurement.unnamed ++
        (news.map Measurement.unnamed).filter (fun m => m.stationId == id) := by
  rw [recordsOf, growth, List.filter_append, List.map_append, recordsOf]
  congr 1
  exact map_unnamed_filter (fun _ => rfl) news

/-! ## Questions about dates -/

/-- A measurement is dated at a moment or after it only if the two can be compared. -/
theorem isSince_iff {threshold : Moment} {m : Measurement} :
    m.isSince threshold = true ↔
      threshold.comparable m.date = true ∧ threshold.key ≤ m.date.key := by
  simp [Measurement.isSince, Moment.le?]

/-- Dates of one kind are compared by their keys. -/
theorem notAfter_of_comparable {a b : Moment} (h : a.comparable b = true) :
    notAfter a b = .ok (decide (a.key ≤ b.key)) := by simp [notAfter, Moment.le?, h, orFault]

/-- Dates of different kinds are not compared. -/
theorem notAfter_of_not_comparable {a b : Moment} (h : a.comparable b = false) :
    notAfter a b = .error .wrongKind := by simp [notAfter, Moment.le?, h, orFault]

/-- A comparison with a threshold says whether a measurement is dated since then. -/
theorem notAfter_eq_ok_iff {threshold : Moment} {m : Measurement} {answer : Bool} :
    notAfter threshold m.date = .ok answer ↔
      threshold.comparable m.date = true ∧ m.isSince threshold = answer := by
  -- Either the comparison has an answer, and this one, or there is none.
  by_cases h : threshold.comparable m.date = true
  · simp [notAfter_of_comparable h, h, Measurement.isSince, Moment.le?]
  · simp [notAfter_of_not_comparable (Bool.eq_false_iff.mpr h), h]

/-- Comparing two dates can fail in one way only. -/
theorem fault_of_notAfter {a b : Moment} {fault : Fault} (fails : notAfter a b = .error fault) :
    fault = .wrongKind := by
  cases comparable : a.comparable b with
  | true => simp [notAfter_of_comparable comparable] at fails
  | false => simpa [notAfter_of_not_comparable comparable] using fails.symm

/-- A measurement whose date cannot be compared with a moment is not dated after it. -/
private theorem isSince_of_not_comparable {threshold : Moment} {m : Measurement}
    (h : threshold.comparable m.date = false) : m.isSince threshold = false := by
  simp [Measurement.isSince, Moment.le?, h]

/-- The check for recent measurements has an answer if all dates can be compared with the
threshold. -/
theorem anyNotBefore_of_comparable {threshold : Moment} {ms : List Measurement}
    (h : ∀ m ∈ ms, threshold.comparable m.date = true) :
    anyNotBefore threshold ms = .ok (ms.any (·.isSince threshold)) := by
  induction ms with
  | nil => rfl
  | cons m ms ih =>
    have head := notAfter_eq_ok_iff.mpr ⟨h m List.mem_cons_self, rfl⟩
    have rest := ih fun m' hm' => h m' (List.mem_cons_of_mem m hm')
    simp only [anyNotBefore, head, rest, bind, Except.bind, List.any_cons]
    -- The check stops at a recent measurement, and goes on with the others else.
    cases m.isSince threshold <;> rfl

/-- A check of one measurement fails only if the measurement is not recent. -/
theorem isSince_of_fails {threshold : Moment} {m : Measurement} {fault : Fault}
    (fails : anyNotBefore threshold [m] = .error fault) : m.isSince threshold = false := by
  cases comparable : threshold.comparable m.date with
  | false => exact isSince_of_not_comparable comparable
  | true =>
    have answered : anyNotBefore threshold [m] = .ok _ :=
      anyNotBefore_of_comparable fun m' hm' => by rwa [List.mem_singleton.mp hm']
    rw [answered] at fails
    cases fails

/-- A check that finds a recent measurement is right, and so is one that finds none. -/
theorem any_isSince_of_anyNotBefore {threshold : Moment} {ms : List Measurement} {answer : Bool}
    (h : anyNotBefore threshold ms = .ok answer) : ms.any (·.isSince threshold) = answer := by
  -- Induction on the measurements, which are asked one after the other
  induction ms with
  | nil => simpa [anyNotBefore] using h
  | cons m ms ih =>
    simp only [anyNotBefore, bind, Except.bind] at h
    split at h
    · simp at h
    · rename_i recent head
      obtain ⟨_, since⟩ := notAfter_eq_ok_iff.mp head
      -- A recent measurement decides the check, and any other one leaves it to the rest.
      cases recent with
      | true => simpa [since, pure, Except.pure] using h
      | false => simpa [since] using ih (by simpa using h)

/-- A check that finds nothing has compared all dates with the threshold. -/
theorem forall_of_anyNotBefore {threshold : Moment} {ms : List Measurement}
    (h : anyNotBefore threshold ms = .ok false) :
    ∀ m ∈ ms, threshold.comparable m.date = true ∧ m.isSince threshold = false := by
  induction ms with
  | nil => simp
  | cons m ms ih =>
    simp only [anyNotBefore, bind, Except.bind] at h
    split at h
    · simp at h
    · rename_i recent head
      cases recent with
      | true => simp [pure, Except.pure] at h
      | false =>
        intro m' mem
        rcases List.mem_cons.mp mem with rfl | later
        · exact notAfter_eq_ok_iff.mp head
        · exact ih (by simpa using h) m' later

/-- A check that has found nothing goes on with what is saved later. -/
theorem anyNotBefore_append {threshold : Moment} {ms : List Measurement}
    (h : anyNotBefore threshold ms = .ok false) (more : List Measurement) :
    anyNotBefore threshold (ms ++ more) = anyNotBefore threshold more := by
  induction ms with
  | nil => rfl
  | cons m ms ih =>
    simp only [anyNotBefore, bind, Except.bind] at h
    split at h
    · simp at h
    · rename_i recent head
      cases recent with
      | true => simp [pure, Except.pure] at h
      | false =>
        simp only [List.cons_append, anyNotBefore, head, bind, Except.bind, Bool.false_eq_true,
          if_false]
        exact ih (by simpa using h)

/-! ## Removal -/

/-- A selection whose condition has an answer for every measurement is a filter. -/
theorem select_eq_filter {keep : Measurement → Except Fault Bool} {kept : Measurement → Bool}
    {ms : List Measurement} (h : ∀ m ∈ ms, keep m = .ok (kept m)) :
    select keep ms = .ok (ms.filter kept) := by
  induction ms with
  | nil => rfl
  | cons m ms ih =>
    have rest := ih fun m' hm' => h m' (List.mem_cons_of_mem m hm')
    simp only [select, h m List.mem_cons_self, rest, bind, Except.bind, pure, Except.pure,
      List.filter_cons]

/-- A selection fails with its condition. -/
theorem select_eq_error {keep : Measurement → Except Fault Bool} {fault : Fault}
    {ms : List Measurement} {m : Measurement} (hm : m ∈ ms) (fails : keep m = .error fault)
    (same : ∀ m ∈ ms, ∀ f, keep m = .error f → f = fault) : select keep ms = .error fault := by
  induction ms with
  | nil => cases hm
  | cons m' ms ih =>
    simp only [select, bind, Except.bind]
    -- The first measurement fails with the fault, or it comes later.
    cases head : keep m' with
    | error f => rw [same m' List.mem_cons_self f head]
    | ok kept =>
      -- The head has an answer, so that the measurement without one comes later.
      have later : m ∈ ms := by
        refine (List.mem_cons.mp hm).resolve_left fun eq => ?_
        rw [eq, head] at fails
        cases fails
      simp only [ih later fun m' hm' => same m' (List.mem_cons_of_mem _ hm')]

/-- Whether all dates of a history can be compared with a moment. -/
def allComparable (h : History) (threshold : Moment) : Bool :=
  h.records.all fun m => threshold.comparable m.date

/-- The removal keeps the measurements that are dated at the threshold or after it. It fails if one
of the dates cannot be compared with the threshold. -/
theorem deleteOlder?_eq (h : History) (threshold : Moment) :
    h.deleteOlder? threshold =
      if h.allComparable threshold then
        .ok ⟨h.records.filter (·.isSince threshold), h.issued⟩
      else .error .wrongKind := by
  unfold deleteOlder?
  split
  -- Every date can be compared, so the condition has an answer everywhere.
  · rename_i all
    rw [allComparable, List.all_eq_true] at all
    rw [select_eq_filter fun m hm => notAfter_eq_ok_iff.mpr ⟨all m hm, rfl⟩]
    rfl
  · rename_i notAll
    obtain ⟨m, hm, apart⟩ : ∃ m ∈ h.records, threshold.comparable m.date = false := by
      simpa [allComparable] using notAll
    -- Whichever measurement comes first, the fault is the same.
    rw [select_eq_error hm (notAfter_of_not_comparable apart) fun _ _ _ => fault_of_notAfter]
    rfl

/-! ## Histories that are alike -/

/-- Two histories have kept the same of some measurements, and hold the same ones besides, up to the
order and the identifiers of these. -/
def Alike (old : List Measurement) (g h : History) : Prop :=
  ∃ kept more more', kept.Sublist old ∧ g.records = kept ++ more ∧ h.records = kept ++ more' ∧
    (more.map Measurement.unnamed).Perm (more'.map Measurement.unnamed)

/-- What is asked of the measurements but not of their identifiers has the same answer for both. -/
theorem Alike.all_eq {old : List Measurement} {g h : History} (alike : Alike old g h)
    {p : Measurement → Bool} (blind : ∀ m, p m.unnamed = p m) :
    g.records.all p = h.records.all p := by
  obtain ⟨kept, more, more', _, growth, growth', perm⟩ := alike
  -- Of the kept part nothing is to be shown, and of the rest the order does not matter.
  have all_map (ms : List Measurement) : (ms.map Measurement.unnamed).all p = ms.all p := by
    rw [List.all_map]
    congr 1
    exact funext blind
  rw [growth, growth', List.all_append, List.all_append, ← all_map more, ← all_map more']
  congr 1
  exact perm.all_eq

/-- A filter that does not look at identifiers keeps histories alike. -/
theorem Alike.filter {old : List Measurement} {g h : History} (alike : Alike old g h)
    {p : Measurement → Bool} (blind : ∀ m, p m.unnamed = p m) :
    Alike old ⟨g.records.filter p, g.issued⟩ ⟨h.records.filter p, h.issued⟩ := by
  obtain ⟨kept, more, more', sublist, growth, growth', perm⟩ := alike
  -- The kept part, the rest of either history, and the order of these
  refine ⟨kept.filter p, more.filter p, more'.filter p, ?_, ?_, ?_, ?_⟩
  · exact List.filter_sublist.trans sublist
  · rw [growth, List.filter_append]
  · rw [growth', List.filter_append]
  · rw [map_unnamed_filter blind, map_unnamed_filter blind]
    exact perm.filter p

/-- The removal succeeds for both of two histories that are alike or for none of them, and leaves
them alike. -/
theorem Alike.deleteOlder? {old : List Measurement} {g h : History} (alike : Alike old g h)
    (threshold : Moment) :
    (∃ g' h', g.deleteOlder? threshold = .ok g' ∧ h.deleteOlder? threshold = .ok h' ∧
      Alike old g' h') ∨
    (g.deleteOlder? threshold = .error .wrongKind ∧
      h.deleteOlder? threshold = .error .wrongKind) := by
  -- Whether the removal succeeds does not depend on identifiers.
  have same : g.allComparable threshold = h.allComparable threshold := alike.all_eq fun _ => rfl
  rw [deleteOlder?_eq, deleteOlder?_eq, same]
  cases h.allComparable threshold with
  | true => exact .inl ⟨_, _, rfl, rfl, alike.filter fun _ => rfl⟩
  | false => exact .inr ⟨rfl, rfl⟩

end History

end AirQuality
