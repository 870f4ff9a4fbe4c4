import AirQuality.Proofs.Record.Measurements
import AirQuality.Proofs.Store.Days
import AirQuality.Web.Answer

/-!
# Answers to requests for a range of dates

A request for the measurements of a range is answered with them, or it is refused because of its
dates. A history whose dates have offsets does not fail, and so there are two ways for the program to
break: a bound can be read and leaves the calendar at UTC, or a measurement in the range has a text
that cannot be sent.

## Key results

- `value_answer_range`: the answer by what becomes of the range
- `status_sorted`: measurements that can be sent, or cannot
- `range_is_answered`: how the reading of a range and the answer to a request for it end
- `range_before_first_year`: a range that leaves the calendar
-/

namespace AirQuality

open Time (Moment Bound DateRange)

/-- Whether a text of a measurement has half of a surrogate pair in it. -/
def Measurement.hasHalf (m : Measurement) : Bool :=
  !(m.id.all Text.isWellFormed && m.stationName.all Text.isWellFormed)

namespace Web

open Sync (Guarded)

/-- The status of an answer. -/
def Answer.status : Answer → Nat
  | .json status _ => status
  | .problems _ => 422
  | .redirect _ => 307
  | .text status _ => status

/-- Whether a request asks for the measurements of a range. Its bounds are texts. -/
structure Request.AsksForRange (request : Request) (a b : Bound) : Prop where
  routed : Routing.of request.method request.path = .found .measurements
  start : ((Parameters.read request.query).last? "start").map Bound.ofString = some a
  stop : ((Parameters.read request.query).last? "end").map Bound.ofString = some b

/-! ## The answer -/

/-- The items of an array are looked at one by one. -/
private theorem areWellFormed_eq (vs : List Json) :
    Json.areWellFormed vs = vs.all Json.isWellFormed := by
  induction vs with
  | nil => rfl
  | cons v vs ih => rw [Json.areWellFormed, List.all_cons, ih]

/-- Measurements are sent unless one of their texts cannot be. -/
private theorem status_list (ms : List Measurement) :
    (Answer.list Measurement.toJson ms).status =
      if ms.any Measurement.hasHalf then 500 else 200 := by
  -- A record is well formed if its two texts are.
  have texts : (Json.arr (ms.map Measurement.toJson)).isWellFormed =
      !ms.any Measurement.hasHalf := by
    rw [Json.isWellFormed, areWellFormed_eq, List.all_map, List.any_eq_not_all_not, Bool.not_not]
    refine congrArg (List.all ms) (funext fun m => ?_)
    rw [Function.comp_apply, Measurement.isWellFormed_toJson, Measurement.hasHalf, Bool.not_not]
  rw [Answer.list, Answer.ok, texts]
  cases ms.any Measurement.hasHalf <;> rfl

/-- A parameter that is given is a text. -/
private theorem required_of_last? {ps : Parameters} {name s : String}
    (given : ps.last? name = some s) :
    ps.required name Check.text = .valid (Text.ofString s) := by
  rw [Parameters.required, given]
  rfl

section Answering

variable {site : Site History} {g : Guarded History} {request : Request} {a b : Bound}

/-- What a request for a range does. -/
private theorem answer_of_asks (asks : request.AsksForRange a b) :
    site.answer request = tryCatch (Guarded.inside do
      return Answer.list Measurement.toJson (← site.enquiry.between a b)) Site.onFault := by
  obtain ⟨routed, start, stop⟩ := asks
  -- Both parameters are there, so that the bounds are read from them.
  obtain ⟨start, given, rfl⟩ := Option.map_eq_some_iff.mp start
  obtain ⟨stop, given', rfl⟩ := Option.map_eq_some_iff.mp stop
  simp only [Site.answer, routed, Site.answerOf, required_of_last? given, required_of_last? given']
  rfl

/-- The answer is made of what becomes of the range, and nothing is changed. -/
theorem value_answer_range (stored : site.enquiry.store = History.store)
    (aware : ∀ m ∈ g.inner.records, m.date.isAware = true)
    (asks : request.AsksForRange a b) :
    ((site.answer request).runOn g).value = match DateRange.read a b with
      | .ok range => (.ok (Answer.list Measurement.toJson (History.sortByDateDescending
          (g.inner.records.filter (·.isWithin range.start range.stop)))), g)
      | .error fault => ((Site.onFault fault).runOn g).value := by
  -- The handler sees only a fault of the range, since the query itself has none.
  rw [answer_of_asks asks, Act.value_runOn_tryCatch, Guarded.value_runOn_inside,
    Act.value_runOn_bind, Enquiry.value_between stored aware]
  cases DateRange.read a b <;> rfl

end Answering

/-! ## All ranges and requests -/

/-- The two ways in which a request for a range breaks the program. -/
inductive Breaks (h : History) (a b : Bound) : Prop where
  | leaves (leaves : DateRange.Leaves a b)
  | unsendable {range : DateRange} (accepted : DateRange.read a b = .ok range) {m : Measurement}
      (mem : m ∈ h.records) (within : m.isWithin range.start range.stop = true)
      (half : m.hasHalf = true)

/-- The status of what is sent for a range. -/
theorem status_sorted (ms : List Measurement) (start stop : Moment) :
    (Answer.list Measurement.toJson (History.sortByDateDescending
      (ms.filter (·.isWithin start stop)))).status =
      if ∃ m ∈ ms, m.isWithin start stop = true ∧ m.hasHalf = true then 500 else 200 := by
  -- Sorting changes neither what can be sent nor what cannot.
  rw [status_list, (History.sortByDateDescending_perm _).any_eq]
  simp only [List.any_eq_true, List.mem_filter, and_assoc]

section Bounds

variable {a b : Bound} (given : a.IsGiven) (given' : b.IsGiven)

include given given'

/-- Where a range is not accepted, the program breaks if the fault is that of leaving the
calendar. -/
private theorem breaks_iff_of_error {h : History} {fault : Fault}
    (refused : DateRange.read a b = .error fault) : Breaks h a b ↔ fault = .outOfRange := by
  -- Nothing was accepted, so that of the two ways only the first one is left.
  constructor
  · rintro (leaves | ⟨accepted, _, _, _⟩)
    · exact Except.error.inj (refused.symm.trans (DateRange.read_of_leaves given given' leaves))
    · rw [refused] at accepted
      cases accepted
  · rintro rfl
    have outcome := DateRange.read_outcome given given'
    rw [refused] at outcome
    cases outcome with
    | outside leaves => exact .leaves leaves

/-- Where a range is accepted, the program breaks if there is something that cannot be sent. -/
private theorem breaks_iff_of_ok {h : History} {range : DateRange}
    (accepted : DateRange.read a b = .ok range) :
    Breaks h a b ↔
      ∃ m ∈ h.records, m.isWithin range.start range.stop = true ∧ m.hasHalf = true := by
  -- The range was accepted, so that no bound leaves the calendar.
  constructor
  · rintro (leaves | ⟨accepted', mem, within, half⟩)
    · cases accepted.symm.trans (DateRange.read_of_leaves given given' leaves)
    · obtain rfl := Except.ok.inj (accepted.symm.trans accepted')
      exact ⟨_, mem, within, half⟩
  · rintro ⟨m, mem, within, half⟩
    exact .unsendable accepted mem within half

/-- A request for a range is answered, with success or with a refusal unless the program breaks. -/
private theorem exists_answer_range {site : Site History} {g : Guarded History} {request : Request}
    (stored : site.enquiry.store = History.store)
    (aware : ∀ m ∈ g.inner.records, m.date.isAware = true) (asks : request.AsksForRange a b) :
    ∃ answer, ((site.answer request).runOn g).value = (.ok answer, g) ∧
      (answer.status = 200 ∨ answer.status = 400 ∨ answer.status = 500) ∧
      (answer.status = 500 ↔ Breaks g.inner a b) := by
  rw [value_answer_range stored aware asks]
  -- A refusal is described, and has a status of its own.
  have refusal (text : String) : (Answer.detail 400 text).status ≠ 500 := by
    rw [Answer.detail, Answer.status]
    decide
  cases read : DateRange.read a b with
  | error fault =>
    -- Of the faults, only that of leaving the calendar has no answer of its own.
    rw [breaks_iff_of_error given given' read]
    have outcome := DateRange.read_outcome given given'
    rw [read] at outcome
    cases outcome with
    | unreadable shown _ => exact ⟨_, rfl, .inr (.inl rfl), iff_of_false (refusal _) (by simp)⟩
    | inverted _ _ _ => exact ⟨_, rfl, .inr (.inl rfl), iff_of_false (refusal _) (by simp)⟩
    | outside _ => exact ⟨_, rfl, .inr (.inr rfl), iff_of_true rfl rfl⟩
  | ok range =>
    rw [breaks_iff_of_ok given given' read]
    have status := status_sorted g.inner.records range.start range.stop
    by_cases unsendable : ∃ m ∈ g.inner.records,
        m.isWithin range.start range.stop = true ∧ m.hasHalf = true
    · rw [if_pos unsendable] at status
      exact ⟨_, rfl, .inr (.inr status), iff_of_true status unsendable⟩
    · rw [if_neg unsendable] at status
      exact ⟨_, rfl, .inl status, iff_of_false (by rw [status]; decide) unsendable⟩

end Bounds

/-- A range is read as two moments at UTC of which the first is not after the second, or it is
refused as no range of dates, unless one of its bounds can be read and leaves the calendar at UTC:
then this is the fault. So a request for the range of a history whose dates have offsets is
answered, and changes nothing; the status is that of success or of a request that is refused, but
for a bound that leaves the calendar and for a measurement in the range with a text that cannot be
sent. -/
theorem range_is_answered {a b : Bound} (given : a.IsGiven) (given' : b.IsGiven) :
    DateRange.Outcome a b (DateRange.read a b) ∧
    (DateRange.Leaves a b → DateRange.read a b = .error .outOfRange) ∧
    ∀ (site : Site History) (g : Guarded History) (request : Request),
      site.enquiry.store = History.store → (∀ m ∈ g.inner.records, m.date.isAware = true) →
      request.AsksForRange a b →
      ∃ answer, ((site.answer request).runOn g).value = (.ok answer, g) ∧
        (answer.status = 200 ∨ answer.status = 400 ∨ answer.status = 500) ∧
        (answer.status = 500 ↔ Breaks g.inner a b) := by
  -- How the range is read is known, and the answer is made of it.
  refine ⟨DateRange.read_outcome given given', DateRange.read_of_leaves given given', ?_⟩
  intro site g request stored aware asks
  exact exists_answer_range given given' stored aware asks

/-! ## Two requests -/

/-- A site without a feed. -/
def quietSite : Site History where
  enquiry := quietEnquiry
  pass := return .refused

/-- A request for the measurements of a range. -/
def rangeRequest (query : String) : Request := ⟨"http://localhost", "GET", "/measurements", query⟩

/-- The status of what a request to the site is answered with. -/
def statusOf (request : Request) : Option Nat :=
  (((quietSite.answer request).runOn (Guarded.free noonHistory)).value.1.toOption).map Answer.status

/-- A request asks for a range by its parameters. -/
private theorem asksForRange_of_query {query start stop : String}
    (texts : ((Parameters.read query).last? "start", (Parameters.read query).last? "end") =
      (some start, some stop)) :
    (rangeRequest query).AsksForRange (.ofString start) (.ofString stop) where
  routed := show Routing.of "GET" "/measurements" = .found .measurements by decide +kernel
  start := congrArg (fun p => p.1.map Bound.ofString) texts
  stop := congrArg (fun p => p.2.map Bound.ofString) texts

/-- A range of one day is accepted, and a request for it is answered with success. -/
theorem range_is_answered_firstOfMay :
    (Bound.ofString "2026-05-01").IsGiven ∧
    DateRange.Outcome (.ofString "2026-05-01") (.ofString "2026-05-01")
      (DateRange.read (.ofString "2026-05-01") (.ofString "2026-05-01")) ∧
    ¬DateRange.Leaves (.ofString "2026-05-01") (.ofString "2026-05-01") ∧
    (rangeRequest "start=2026-05-01&end=2026-05-01").AsksForRange (.ofString "2026-05-01")
      (.ofString "2026-05-01") ∧
    (∀ m ∈ noonHistory.records, m.date.isAware = true) ∧
    ∃ answer, ((quietSite.answer (rangeRequest "start=2026-05-01&end=2026-05-01")).runOn
        (Guarded.free noonHistory)).value = (.ok answer, Guarded.free noonHistory) ∧
      answer.status = 200 ∧
      ¬Breaks noonHistory (.ofString "2026-05-01") (.ofString "2026-05-01") := by
  have given : (Bound.ofString "2026-05-01").IsGiven := ⟨_, rfl⟩
  -- The general statement, at the first of May.
  obtain ⟨outcome, _, answered⟩ := range_is_answered given given
  have asks : (rangeRequest "start=2026-05-01&end=2026-05-01").AsksForRange
      (.ofString "2026-05-01") (.ofString "2026-05-01") := asksForRange_of_query (by decide +kernel)
  obtain ⟨answer, value, _, breaks⟩ :=
    answered quietSite (Guarded.free noonHistory) _ rfl aware_noonHistory asks
  have status : answer.status = 200 := by
    have computed : statusOf (rangeRequest "start=2026-05-01&end=2026-05-01") = some 200 := by
      decide +kernel
    rw [statusOf, value] at computed
    exact Option.some.inj computed
  have unbroken := breaks.not.mp (by rw [status]; decide)
  exact ⟨given, outcome, fun leaves => unbroken (.leaves leaves), asks, aware_noonHistory, answer,
    value, status, unbroken⟩

/-- The first hours of the calendar at an offset to the east are before the calendar at UTC. A range
that starts with them is neither accepted nor refused, and a request for it breaks the program. -/
theorem range_before_first_year :
    DateRange.read (.ofString "0001-01-01T00:00:00+05:00") (.ofString "2026-05-01") =
      .error .outOfRange ∧
    (rangeRequest "start=0001-01-01T00:00:00%2B05:00&end=2026-05-01").AsksForRange
      (.ofString "0001-01-01T00:00:00+05:00") (.ofString "2026-05-01") ∧
    statusOf (rangeRequest "start=0001-01-01T00:00:00%2B05:00&end=2026-05-01") = some 500 := by
  -- All three parts are computed by the kernel.
  refine ⟨by decide +kernel, asksForRange_of_query (by decide +kernel), by decide +kernel⟩

end Web

end AirQuality
