import AirQuality.Proofs.Store.Ranges

/-!
# The law of the history

A history that starts empty and is changed by savings and removals holds exactly the measurements
that were saved and that no later removal was about, in the order in which they were saved. They are
as they were saved, but for an identifier where there was none. A query for a range finds each of
them once if it is dated in the range, and nothing else.

## Key results

- `Change.value_act`: what one change makes of the measurements
- `value_makeAll`: what a sequence of changes makes of them
- `ranges_after_changes`: what queries for ranges find after a sequence of changes
-/

namespace AirQuality.History

open Time (Moment)

/-- A change of a history. -/
inductive Change where
  | save (m : Measurement)
  | saveAll (ms : List Measurement)
  | deleteOlder (threshold : Moment)

namespace Change

/-- The operation that makes a change, without its answer. -/
def act : Change → Act History Unit
  | save m => do
    let _ ← store.save m
  | saveAll ms => do
    let _ ← store.saveAll ms
  | deleteOlder threshold => store.deleteOlder threshold

/-- The measurements that a change saves. -/
def measurements : Change → List Measurement
  | save m => [m]
  | saveAll ms => ms
  | deleteOlder _ => []

/-- Whether a change removes a measurement that is there. -/
def removes (m : Measurement) : Change → Bool
  | deleteOlder threshold => m.date.key < threshold.key
  | _ => false

/-- Whether all dates of a change have offsets. -/
def isAware : Change → Bool
  | save m => m.date.isAware
  | saveAll ms => ms.all fun m => m.date.isAware
  | deleteOlder threshold => threshold.isAware

end Change

/-- Makes changes one after the other. -/
def makeAll : List Change → Act History Unit
  | [] => return ()
  | c :: cs => do
    c.act
    makeAll cs

/-- The measurements that are saved, in order, each with the changes that come after it. -/
def savedBefore : List Change → List (Measurement × List Change)
  | [] => []
  | c :: cs => c.measurements.map (·, cs) ++ savedBefore cs

/-- The measurements that are saved and not removed later, in order. -/
def survivors (changes : List Change) : List Measurement :=
  ((savedBefore changes).filter fun (m, later) => !later.any (·.removes m)).map Prod.fst

/-- What a measurement is kept as: as it is if it has an identifier, and else with one that is
generated. -/
def KeptAs (m kept : Measurement) : Prop :=
  if m.hasId then kept = m else ∃ n, kept = { m with id := some (generatedId n) }

/-- A list of what some measurements are kept as, each of them once and those of one date in the
same order. -/
def Lists (ms out : List Measurement) : Prop :=
  ∃ kept, List.Forall₂ KeptAs ms kept ∧ out.Perm kept ∧
    ∀ n, out.filter (fun m => m.date.key == n) = kept.filter fun m => m.date.key == n

/-! ## What is kept of a measurement -/

/-- No more than the identifier is changed. -/
private theorem KeptAs.exists_id {m kept : Measurement} (h : KeptAs m kept) :
    ∃ id, kept = { m with id := id } := by
  unfold KeptAs at h
  split at h
  · exact ⟨m.id, h⟩
  · obtain ⟨n, generated⟩ := h
    exact ⟨some (generatedId n), generated⟩

/-- The date is kept. -/
theorem KeptAs.date_eq {m kept : Measurement} (h : KeptAs m kept) : kept.date = m.date := by
  obtain ⟨_, rfl⟩ := h.exists_id
  rfl

/-- The station is kept. -/
theorem KeptAs.stationId_eq {m kept : Measurement} (h : KeptAs m kept) :
    kept.stationId = m.stationId := by
  obtain ⟨_, rfl⟩ := h.exists_id
  rfl

/-- Saved measurements are kept one by one, in their order. -/
theorem forall₂_assignIds (issued : Nat) (ms : List Measurement) :
    List.Forall₂ KeptAs ms (assignIds issued ms).1 := by
  -- Induction on the measurements; every generated identifier uses up a number.
  induction ms generalizing issued with
  | nil => exact .nil
  | cons m ms ih =>
    by_cases named : m.hasId = true
    · have unchanged : KeptAs m m := by rw [KeptAs, if_pos named]
      rw [assignIds, if_pos named]
      exact .cons unchanged (ih issued)
    · have generated : KeptAs m { m with id := some (generatedId (issued + 1)) } := by
        rw [KeptAs, if_neg named]
        exact ⟨issued + 1, rfl⟩
      rw [assignIds, if_neg named]
      exact .cons generated (ih (issued + 1))

/-- A condition on dates and stations may be asked of measurements as they were saved. -/
private theorem forall₂_filter {p : Measurement → Bool}
    (same : ∀ m kept, KeptAs m kept → p m = p kept) {ms out : List Measurement}
    (h : List.Forall₂ KeptAs ms out) :
    List.Forall₂ KeptAs (ms.filter p) (out.filter p) :=
  List.rel_filter (fun m kept hk => Bool.eq_iff_iff.mp (same m kept hk)) h

/-- The dates of what is kept have offsets if those of what was saved have them. -/
theorem aware_of_forall₂ {ms out : List Measurement} (h : List.Forall₂ KeptAs ms out)
    (aware : ∀ m ∈ ms, m.date.isAware = true) : ∀ m ∈ out, m.date.isAware = true := by
  -- One by one, as the dates are the same.
  induction h with
  | nil => exact aware
  | cons head _ ih =>
    rw [List.forall_mem_cons] at aware ⊢
    exact ⟨head.date_eq ▸ aware.1, ih aware.2⟩

/-- Measurements that have identifiers are kept as they are. -/
theorem eq_of_hasId {ms out : List Measurement} (h : List.Forall₂ KeptAs ms out)
    (named : ∀ m ∈ ms, m.hasId = true) : out = ms := by
  induction h with
  | nil => rfl
  | @cons m kept ms out head _ ih =>
    rw [List.forall_mem_cons] at named
    rw [KeptAs, if_pos named.1] at head
    rw [head, ih named.2]

/-- A removal does not look at identifiers. -/
private theorem removes_congr {m kept : Measurement} (h : KeptAs m kept) (c : Change) :
    c.removes m = c.removes kept := by
  cases c <;> simp [Change.removes, h.date_eq]

/-! ## One change -/

/-- A change removes the measurements that it is about, and then puts others behind the rest. -/
theorem Change.value_act {c : Change} (aware : c.isAware = true) {h : History}
    (dated : ∀ m ∈ h.records, m.date.isAware = true) :
    ∃ news h', (c.act.runOn h).value = (.ok (), h') ∧
      h'.records = h.records.filter (fun m => !c.removes m) ++ news ∧
      List.Forall₂ KeptAs c.measurements news := by
  -- Savings remove nothing, which is a filter that keeps everything.
  have all (ms : List Measurement) : ms.filter (fun _ => !false) = ms := by simp
  cases c with
  | save m =>
    obtain ⟨saved, value⟩ := value_save m h
    refine ⟨(h.saveAll [m]).1, (h.saveAll [m]).2, ?_, ?_, forall₂_assignIds h.issued [m]⟩
    · simp only [act, Act.value_runOn_bind, value]
      rfl
    · simp only [records_saveAll, removes, all]
  | saveAll ms =>
    refine ⟨(h.saveAll ms).1, (h.saveAll ms).2, ?_, ?_, forall₂_assignIds h.issued ms⟩
    · simp only [act, store, Act.value_runOn_bind, value_runOn_saving]
      rfl
    · simp only [records_saveAll, removes, all]
  | deleteOlder threshold =>
    have comparable : ∀ m ∈ h.records, threshold.comparable m.date = true := fun m hm =>
      Moment.comparable_of_aware aware (dated m hm)
    have removed : h.deleteOlder? threshold =
        .ok ⟨h.records.filter (·.isSince threshold), h.issued⟩ := by
      have all : h.allComparable threshold = true := List.all_eq_true.mpr comparable
      rw [deleteOlder?_eq, if_pos all]
    refine ⟨[], ⟨h.records.filter (·.isSince threshold), h.issued⟩, ?_, ?_, .nil⟩
    · simp only [act, value_deleteOlder, removed]
    · rw [List.append_nil]
      refine List.filter_congr fun m hm => ?_
      -- Not before the threshold is the same as after it or at it.
      rw [Bool.eq_iff_iff]
      simp [Measurement.isSince, Moment.le?, comparable m hm, removes]

/-- The dates of what is saved have offsets if all dates of the change have them. -/
private theorem Change.aware_of_mem {c : Change} (aware : c.isAware = true) {m : Measurement}
    (mem : m ∈ c.measurements) : m.date.isAware = true := by
  cases c with
  | save m' =>
    rw [List.mem_singleton.mp mem]
    exact aware
  | saveAll ms => exact List.all_eq_true.mp aware m mem
  | deleteOlder _ => cases mem

/-! ## Sequences of changes -/

/-- What a change saves survives if none of the later changes removes it. -/
private theorem survivors_cons (c : Change) (cs : List Change) :
    survivors (c :: cs) =
      c.measurements.filter (fun m => !cs.any (·.removes m)) ++ survivors cs := by
  simp only [survivors, savedBefore, List.filter_append, List.map_append, List.filter_map,
    List.map_map]
  congr 1
  exact List.map_id _

/-- The dates of the survivors have offsets if all dates of the changes have them. -/
theorem aware_of_mem_survivors {cs : List Change} (aware : ∀ c ∈ cs, c.isAware = true) :
    ∀ m ∈ survivors cs, m.date.isAware = true := by
  -- A survivor is of the first change or of a later one.
  induction cs with
  | nil => simp [survivors, savedBefore]
  | cons c cs ih =>
    intro m mem
    rw [survivors_cons] at mem
    rcases List.mem_append.mp mem with own | later
    · exact Change.aware_of_mem (aware c List.mem_cons_self) (List.mem_filter.mp own).1
    · exact ih (fun c' hc => aware c' (List.mem_cons_of_mem c hc)) m later

/-- After a sequence of changes there are the measurements from before that none of them was about,
and then the survivors of what was saved. -/
theorem value_makeAll {cs : List Change} (aware : ∀ c ∈ cs, c.isAware = true) {h : History}
    (dated : ∀ m ∈ h.records, m.date.isAware = true) :
    ∃ news h', ((makeAll cs).runOn h).value = (.ok (), h') ∧
      h'.records = h.records.filter (fun m => !cs.any (·.removes m)) ++ news ∧
      List.Forall₂ KeptAs (survivors cs) news := by
  -- Induction on the changes, from any history whose dates have offsets
  induction cs generalizing h with
  | nil => exact ⟨[], h, rfl, by simp, .nil⟩
  | cons c cs ih =>
    have first : c.isAware = true := aware c List.mem_cons_self
    obtain ⟨saved, h₁, value₁, records₁, kept₁⟩ := Change.value_act first dated
    -- The history after the first change is one of those again.
    have dated₁ : ∀ m ∈ h₁.records, m.date.isAware = true := fun m hm => by
      rw [records₁] at hm
      rcases List.mem_append.mp hm with old | new
      · exact dated m (List.mem_filter.mp old).1
      · exact aware_of_forall₂ kept₁ (fun _ => Change.aware_of_mem first) m new
    obtain ⟨news, h', value, records, kept⟩ :=
      ih (fun c' hc => aware c' (List.mem_cons_of_mem c hc)) dated₁
    -- The later changes are about what was saved first as they are about what was there before.
    refine ⟨saved.filter (fun m => !cs.any (·.removes m)) ++ news, h', ?_, ?_, ?_⟩
    · simp only [makeAll, Act.value_runOn_bind, value₁, value]
    · rw [records, records₁, List.filter_append, List.filter_filter, List.append_assoc]
      simp [List.any_cons, Bool.and_comm]
    · -- No change can tell a measurement that was kept from the one that was saved.
      rw [survivors_cons]
      refine List.rel_append ?_ kept
      refine forall₂_filter (fun m kept hk => ?_) kept₁
      simp only [removes_congr hk]

/-! ## Queries afterwards -/

/-- Sorted oldest first, what is kept lists what was saved. -/
private theorem lists_sortByDate {ms kept : List Measurement} (h : List.Forall₂ KeptAs ms kept) :
    Lists ms (sortByDate kept) :=
  ⟨kept, h, sortByDate_perm kept, fun n => filter_key_sortByDate n kept⟩

/-- So it does if it is sorted newest first. -/
private theorem lists_sortByDateDescending {ms kept : List Measurement}
    (h : List.Forall₂ KeptAs ms kept) :
    Lists ms (sortByDateDescending kept) :=
  ⟨kept, h, sortByDateDescending_perm kept, fun n => filter_key_sortByDateDescending n kept⟩

/-- Whether a measurement is dated in a range does not depend on its identifier. -/
private theorem isWithin_congr {m kept : Measurement} (h : KeptAs m kept) (start stop : Moment) :
    m.isWithin start stop = kept.isWithin start stop := by
  simp only [Measurement.isWithin, Measurement.isSince, h.date_eq]

/-- The law of the history. After any sequence of changes to an empty history, a query for a range
of a station finds each survivor of the station that is dated in the range once and nothing else,
oldest first; a query for all stations finds those of all stations, newest first. Measurements of
one date are in the order in which they were saved. -/
theorem ranges_after_changes {changes : List Change} (aware : ∀ c ∈ changes, c.isAware = true) :
    ∃ h, ((makeAll changes).runOn .empty).value = (.ok (), h) ∧
      ∀ start stop : Moment, start.isAware = true → stop.isAware = true →
        (∀ id, ∃ out, ((store.ofStation id start stop).runOn h).value = (.ok out, h) ∧
          Lists ((survivors changes).filter fun m => m.stationId == id && m.isWithin start stop)
            out ∧
          out.Pairwise fun a b => a.date.key ≤ b.date.key) ∧
        ∃ out, ((store.between start stop).runOn h).value = (.ok out, h) ∧
          Lists ((survivors changes).filter (·.isWithin start stop)) out ∧
          out.Pairwise fun a b => b.date.key ≤ a.date.key := by
  -- The empty history has nothing of its own to be kept.
  obtain ⟨news, h, value, records, kept⟩ := value_makeAll aware (h := .empty) (by simp [empty])
  have records : h.records = news := by simpa [empty] using records
  have dated : ∀ m ∈ h.records, m.date.isAware = true := by
    rw [records]
    exact aware_of_forall₂ kept (aware_of_mem_survivors aware)
  refine ⟨h, value, fun start stop first last => ⟨fun id => ?_, ?_⟩⟩
  -- The query of a station sorts what is in the range, oldest first.
  · refine ⟨sortByDate ((h.recordsOf id).filter (·.isWithin start stop)), ?_, ?_,
      pairwise_sortByDate _⟩
    · rw [store, value_runOn_asking, ofStation?_of_aware dated first last id]
    · rw [recordsOf, records, List.filter_filter]
      refine lists_sortByDate ?_
      simp only [Bool.and_comm (_ == id)]
      exact forall₂_filter
        (fun m kept hk => by rw [isWithin_congr hk start stop, hk.stationId_eq]) kept
  -- The query of all stations sorts it newest first.
  · refine ⟨sortByDateDescending (h.records.filter (·.isWithin start stop)), ?_, ?_,
      pairwise_sortByDateDescending _⟩
    · rw [store, value_runOn_asking, between?_of_aware dated first last]
    · rw [records]
      exact lists_sortByDateDescending
        (forall₂_filter (fun _ _ hk => isWithin_congr hk start stop) kept)

/-- A measurement of a station of which nothing is known but the date. -/
def bare (id : Int) (date : Moment) : Measurement :=
  .ofLive date id none ⟨id, date, none, none, none, none⟩ []

/-- Savings before and after a removal. -/
def savingsAroundRemoval : List Change :=
  [.save (bare 1 (noonOfMay 0)), .saveAll [bare 2 (noonOfMay 1), bare 1 (noonOfMay 2)],
    .deleteOlder (noonOfMay 1), .save (bare 3 (noonOfMay 0))]

/-- Of two measurements of the first day, only the one that was saved after the removal is found. -/
theorem ranges_after_savingsAroundRemoval :
    (∀ c ∈ savingsAroundRemoval, c.isAware = true) ∧
    (noonOfMay 0).isAware = true ∧ (noonOfMay 1).isAware = true ∧
    ∃ h out, ((makeAll savingsAroundRemoval).runOn .empty).value = (.ok (), h) ∧
      ((store.between (noonOfMay 0) (noonOfMay 1)).runOn h).value = (.ok out, h) ∧
      Lists [bare 2 (noonOfMay 1), bare 3 (noonOfMay 0)] out ∧
      out.Pairwise fun a b => b.date.key ≤ a.date.key := by
  have aware : ∀ c ∈ savingsAroundRemoval, c.isAware = true := by
    simp [savingsAroundRemoval, Change.isAware, bare, Measurement.ofLive, noonOfMay, Moment.isAware]
  obtain ⟨h, value, queries⟩ := ranges_after_changes aware
  obtain ⟨_, out, found, lists, sorted⟩ := queries (noonOfMay 0) (noonOfMay 1) rfl rfl
  exact ⟨aware, rfl, rfl, h, out, value, found, lists, sorted⟩

end AirQuality.History
