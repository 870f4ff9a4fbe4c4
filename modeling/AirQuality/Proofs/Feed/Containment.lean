import AirQuality.Feed.Client
import AirQuality.Proofs.Json.Nesting
import AirQuality.Proofs.Number.Numeral
import AirQuality.Proofs.Time.Utc
import Mathlib.Data.List.Forall2

/-!
# Faults of the feed are contained, but for one

Whatever comes back for its requests, the client answers, unless calls cannot be nested deep enough:
a fault is caught somewhere on the way. Most places catch any fault. The list of stations is searched
and taken apart outside of these. Taking it apart, only values that do not fit can go wrong, and these
are caught; but the search fails for an answer that is nested too deep for it, and that fault leaves
the client.

## Key results

- `Ask.Answers`: a question has an answer; `Ask.answers_catching`: it has one if all of its faults
  are caught
- `Client.find_eq`: when an answer can be searched
- `isMisfit_of_stationIn`: an item of the list of stations does not fit, or it is a station
- `value_stations`: the stations, by what comes back for their list
- `client_answers_unless_too_deep`: the whole statement
- `stations_fail_for_brackets`: an answer of a thousand brackets
-/

namespace AirQuality

/-! ## Questions that have an answer -/

/-- A question has an answer: no fault leaves it. -/
def Ask.Answers {α : Type} (ask : Ask α) : Prop := ∃ a, ask.run.value = .ok a

/-- A question has an answer if every fault of it is caught and the other question has one. -/
theorem Ask.answers_catching {α : Type} {caught : Fault → Bool} {ask instead : Ask α}
    (all : ∀ fault, ask.run.value = .error fault → caught fault = true)
    (answers : instead.Answers) : (Ask.catching caught ask instead).Answers := by
  unfold Ask.Answers
  rw [Ask.value_run_catching]
  cases first : ask.run.value with
  | ok a => exact ⟨a, rfl⟩
  | error fault =>
    simp only [all fault first, if_true]
    exact answers

/-- The results of a list are those of its elements, one for each and in order. -/
theorem mapM_eq_ok_iff {α β ε : Type} {f : α → Except ε β} {as : List α} {bs : List β} :
    as.mapM f = .ok bs ↔ List.Forall₂ (fun a b => f a = .ok b) as bs := by
  -- On the list. The results are built in the same order.
  induction as generalizing bs with
  | nil => cases bs <;> simp [pure, Except.pure]
  | cons a as ih =>
    -- The first fault decides, that of the head or else that of the rest.
    rw [List.mapM_cons]
    cases head : f a with
    | error fault => cases bs <;> simp [bind, Except.bind, head]
    | ok b =>
      cases tail : as.mapM f with
      | error fault => cases bs <;> simp [bind, Except.bind, head, tail, ← ih]
      | ok rest => cases bs <;> simp [bind, Except.bind, pure, Except.pure, head, tail, ← ih]

/-- A list fails with one of its elements. -/
theorem exists_of_mapM_eq_error {α β ε : Type} {f : α → Except ε β} {as : List α} {fault : ε}
    (fails : as.mapM f = .error fault) : ∃ a ∈ as, f a = .error fault := by
  -- On the list: the fault is that of the head, or the head has a result and the rest fails.
  induction as with
  | nil => cases fails
  | cons a as ih =>
    rw [List.mapM_cons] at fails
    cases head : f a with
    | error first =>
      simp only [head, bind, Except.bind, Except.error.injEq] at fails
      exact ⟨a, List.mem_cons_self, fails ▸ head⟩
    | ok b =>
      cases tail : as.mapM f with
      | error later =>
        simp only [head, tail, bind, Except.bind, Except.error.injEq] at fails
        obtain ⟨a', mem, same⟩ := ih (fails ▸ tail)
        exact ⟨a', List.mem_cons_of_mem a mem, same⟩
      | ok rest => simp [head, tail, bind, Except.bind, pure, Except.pure] at fails

/-- A list has results if each of its elements has one. -/
theorem exists_mapM_eq_ok {α β ε : Type} {f : α → Except ε β} {as : List α}
    (each : ∀ a ∈ as, ∃ b, f a = .ok b) : ∃ bs, as.mapM f = .ok bs := by
  -- Otherwise there would be a fault, and that would be the fault of an element.
  cases all : as.mapM f with
  | ok bs => exact ⟨bs, rfl⟩
  | error fault =>
    obtain ⟨a, mem, fails⟩ := exists_of_mapM_eq_error all
    obtain ⟨b, made⟩ := each a mem
    rw [made] at fails
    cases fails

/-- Of two lists that are related in order, each element of the first is related to one of the
second. -/
theorem exists_of_forall₂ {α β : Type} {r : α → β → Prop} {as : List α} {bs : List β}
    (each : List.Forall₂ r as bs) {a : α} (mem : a ∈ as) : ∃ b ∈ bs, r a b := by
  induction each with
  | nil => cases mem
  | cons head _ ih =>
    rcases List.mem_cons.mp mem with rfl | later
    · exact ⟨_, List.mem_cons_self, head⟩
    · obtain ⟨b, there, related⟩ := ih later
      exact ⟨b, List.mem_cons_of_mem _ there, related⟩

/-- If there are results, each of the elements has one. -/
theorem exists_of_mapM_eq_ok {α β ε : Type} {f : α → Except ε β} {as : List α} {bs : List β}
    (results : as.mapM f = .ok bs) {a : α} (mem : a ∈ as) : ∃ b ∈ bs, f a = .ok b :=
  exists_of_forall₂ (mapM_eq_ok_iff.mp results) mem

/-- Each result is that of an element. -/
theorem exists_of_mem_mapM {α β ε : Type} {f : α → Except ε β} {as : List α} {bs : List β}
    (results : as.mapM f = .ok bs) {b : β} (mem : b ∈ bs) : ∃ a ∈ as, f a = .ok b :=
  exists_of_forall₂ (mapM_eq_ok_iff.mp results).flip mem

/-- The records of a list of values are those of its items, if all of these are valid. -/
theorem mapM_orFault_eq_ok_iff {α : Type} {check : Json → Checked α} {vs : List Json}
    {as : List α} : (vs.mapM fun v => (check v).orFault) = .ok as ↔
      List.Forall₂ (fun v a => check v = .valid a) vs as := by
  simp only [mapM_eq_ok_iff, Checked.orFault_eq_ok_iff]

namespace Feed

variable {c : Client}

/-! ## The list of stations -/

/-- The value that an item lists as its number, under the first of its spellings that is present. -/
def listedNumber (pairs : List (Text × Json)) : Option Json :=
  (Json.lookup? "id" pairs).or (Json.lookup? "Identyfikator stacji" pairs)

/-- The number that an item is listed with: an integer, or zero if there is none or it is no
integer text. -/
inductive ListedAs (pairs : List (Text × Json)) : Int → Prop where
  | integer {v : Json} {n : Int} (listed : listedNumber pairs = some v)
      (reads : integer? v = some n) : ListedAs pairs n
  | missing (missing : listedNumber pairs = none) : ListedAs pairs 0
  | unusable {v : Json} (listed : listedNumber pairs = some v) (unusable : integer? v = none) :
      ListedAs pairs 0

/-- A station is the one that an item of the list of stations stands for. -/
structure Lists (item : Json) (s : Station) : Prop where
  station : Client.stationIn item = .ok s
  listed : ∃ pairs, item = .obj pairs ∧ ListedAs pairs s.id

/-- The list that the client finds in an answer: under the first known key, or the answer itself if
none of them occurs. -/
inductive Resolved (c : Client) (keys : List Text) : Json → List Json → Prop where
  | underKey {root : Json} {items : List Json} (found : c.find keys root = .ok (some (.arr items))) :
      Resolved c keys root items
  | bare {items : List Json} (missing : c.find keys (.arr items) = .ok none) :
      Resolved c keys (.arr items) items

/-- Either there is a list in an answer, or there is none. -/
theorem stationItems?_eq_ok_iff {root : Json} {items : List Json} :
    c.stationItems? root = .ok (some items) ↔ Resolved c c.keys.stations root items := by
  constructor
  · intro listed
    obtain ⟨found, search, same⟩ := bind_eq_ok_iff.mp listed
    -- What is found under a key counts, and if it is no list the answer itself does not count.
    split at same
    · obtain rfl := Option.some.inj (Except.ok.inj same)
      exact .underKey search
    · cases same
    · obtain rfl := Option.some.inj (Except.ok.inj same)
      exact .bare search
    · cases same
  · intro resolved
    unfold Client.stationItems?
    cases resolved with
    | underKey found =>
      rw [found]
      rfl
    | bare missing =>
      rw [missing]
      rfl

/-- The number of an item: the first of its spellings that is present counts, whatever its value
is. -/
private theorem listedAs_id (pairs : List (Text × Json)) :
    ListedAs pairs ((field? pairs [.key "id", .key "Identyfikator stacji"] integer?).getD 0) := by
  have first : [Spelling.key "id", .key "Identyfikator stacji"].findSome? (Spelling.find? pairs) =
      listedNumber pairs := by
    -- The spellings are tried in order, and the first one that is there counts.
    simp only [List.findSome?_cons, List.findSome?_nil, Spelling.find?, listedNumber]
    cases Json.lookup? "id" pairs <;> cases Json.lookup? "Identyfikator stacji" pairs <;> rfl
  rw [field?, first]
  cases listed : listedNumber pairs with
  | none => exact .missing listed
  | some v =>
    cases reads : integer? v with
    | none => simpa [reads] using ListedAs.unusable listed reads
    | some n => simpa [reads] using ListedAs.integer listed reads

/-- An object stands for a station, whatever its fields are. -/
private theorem lists_of_object (pairs : List (Text × Json)) : ∃ s, Lists (.obj pairs) s :=
  ⟨_, rfl, pairs, rfl, listedAs_id pairs⟩

/-- An item that is no object does not fit, and that is the only way to be no station. -/
theorem isMisfit_of_stationIn {item : Json} {fault : Fault}
    (fails : Client.stationIn item = .error fault) : isMisfit fault = true := by
  -- A case per kind of value: only an object has fields to look at.
  cases item with
  | obj pairs => cases fails
  | _ =>
    cases fails
    rfl

/-- What is taken for a station is an object, and is listed with its number. -/
private theorem lists_of_stationIn {item : Json} {s : Station}
    (station : Client.stationIn item = .ok s) :
    Lists item s := by
  cases item with
  | obj pairs =>
    refine ⟨station, pairs, rfl, ?_⟩
    cases station
    exact listedAs_id pairs
  | _ => cases station

/-! ## Searching an answer -/

/-- Whether the runtime follows an answer all the way, when it is traced and when it is searched for
some keys. -/
def Stack.follows (stack : Stack) (keys : List Text) (root : Json) : Bool :=
  stack.trace.all (root.height ≤ ·) && Json.reachOfKeys keys root ≤ stack.search

/-- Whether the runtime follows whatever it has decoded. -/
structure Stack.FollowsDecoded (stack : Stack) : Prop where
  traced : ∀ levels, stack.trace = some levels → stack.decoder < levels
  searched : stack.decoder < stack.search

/-- What is found in an answer does not depend on the runtime, if the runtime follows the answer. -/
theorem Client.find_eq (keys : List Text) (root : Json) :
    c.find keys root =
      if c.stack.follows keys root then .ok (Json.findFirstKey keys root) else .error .tooDeep := by
  rw [find, trace, Json.findFirstKeyWithin_eq, Json.answerWithin, Stack.follows]
  -- The trace comes before the search, and each has a limit of its own.
  by_cases traced : c.stack.trace.all (root.height ≤ ·) = true
  · rw [if_pos traced, traced, Bool.true_and]
    by_cases searched : Json.reachOfKeys keys root ≤ c.stack.search
    · rw [if_pos searched, if_pos (decide_eq_true searched)]
      rfl
    · rw [if_neg searched, if_neg (by simpa using searched)]
      rfl
  · rw [if_neg traced, if_neg fun both => traced (Bool.and_eq_true_iff.mp both).1]
    rfl

/-- A search has a result if the runtime follows the answer, and the result is that of the search
without a limit. -/
theorem Client.find_eq_ok_iff {keys : List Text} {root : Json} {found : Option Json} :
    c.find keys root = .ok found ↔
      c.stack.follows keys root = true ∧ Json.findFirstKey keys root = found := by
  rw [find_eq]
  split <;> simp_all

/-- A body is null, or it is a document with at most so many levels of nesting. -/
private theorem height_le_of_decodeBody {levels : Nat} {bytes : List UInt8} {root : Json}
    (decoded : decodeBody levels bytes = .ok root) : root.height ≤ levels + 1 := by
  simp only [decodeBody] at decoded
  -- Nothing but blanks is null, and anything else has been read with so many levels.
  split at decoded
  · obtain rfl := Except.ok.inj decoded
    exact Nat.le_add_left 1 levels
  · split at decoded
    · rename_i read
      obtain rfl := Except.ok.inj decoded
      obtain ⟨text, -, read⟩ := Option.map_eq_some_iff.mp read
      exact Json.height_le_of_readWithin read
    · cases decoded
    · cases decoded

/-- What comes as an answer has been decoded. -/
private theorem height_le_of_json {path : String} {root : Json}
    (came : (c.json path).run.value = .ok root) : root.height ≤ c.stack.decoder + 1 := by
  have answered : (c.fetch path).json c.stack.decoder path = .ok root := came
  -- Only an answer that was accepted has a body to decode.
  cases response : c.fetch path with
  | answer status body =>
    simp only [response, Response.json] at answered
    split at answered
    · exact height_le_of_decodeBody answered
    · cases answered
  | broken text => simp [response, Response.json] at answered
  | badAddress => simp [response, Response.json] at answered
  | failed fault => simp [response, Response.json] at answered

/-- If the runtime follows whatever it has decoded, it follows an answer. -/
private theorem follows_of_json (all : c.stack.FollowsDecoded) {path : String} {root : Json}
    (came : (c.json path).run.value = .ok root) (keys : List Text) :
    c.stack.follows keys root = true := by
  have height := height_le_of_json came
  have reach := Json.reachOfKeys_le_height keys root
  have search := all.searched
  rw [Stack.follows, Bool.and_eq_true, decide_eq_true_eq]
  refine ⟨?_, by omega⟩
  cases traced : c.stack.trace with
  | none => rfl
  | some levels =>
    have trace := all.traced levels traced
    simp only [Option.all_some, decide_eq_true_eq]
    omega

/-! ## The stations -/

/-- If the runtime follows an answer, the stations are one for each item of its list, or there are
none. They are there if the list is there and all of its items are objects. -/
theorem value_stationsOf {root : Json} (follows : c.stack.follows c.keys.stations root = true) :
    ∃ stations, (c.stationsOf root).run.value = .ok stations ∧
      (stations = [] ∨
        ∃ items, Resolved c c.keys.stations root items ∧ List.Forall₂ Lists items stations) ∧
      ∀ items, Resolved c c.keys.stations root items → (∀ v ∈ items, ∃ pairs, v = .obj pairs) →
        List.Forall₂ Lists items stations := by
  have search : c.find c.keys.stations root = .ok (Json.findFirstKey c.keys.stations root) :=
    Client.find_eq_ok_iff.mpr ⟨follows, rfl⟩
  -- The search succeeds, so that there is a list in the answer or none.
  obtain ⟨items?, found⟩ : ∃ items?, c.stationItems? root = .ok items? := by
    rw [Client.stationItems?, search]
    simp only [bind, Except.bind]
    split <;> exact ⟨_, rfl⟩
  rw [Client.stationsOf, Ask.value_run_bind, Ask.value_run_ofExcept, found]
  cases items? with
  | none =>
    refine ⟨[], rfl, .inl rfl, fun items resolved => ?_⟩
    rw [stationItems?_eq_ok_iff.mpr resolved] at found
    cases found
  | some items =>
    have resolved := stationItems?_eq_ok_iff.mp found
    -- The list is determined by the answer.
    have only {others : List Json} (h : Resolved c c.keys.stations root others) :
        others = items := by
      have same := stationItems?_eq_ok_iff.mpr h
      rw [found] at same
      exact (Option.some.inj (Except.ok.inj same)).symm
    simp only [Ask.value_run_catching, Ask.value_run_ofExcept]
    cases mapped : items.mapM Client.stationIn with
    | ok stations =>
      have each : List.Forall₂ Lists items stations :=
        (mapM_eq_ok_iff.mp mapped).imp fun _ _ => lists_of_stationIn
      refine ⟨stations, rfl, .inr ⟨items, resolved, each⟩, fun others h _ => ?_⟩
      rw [only h]
      exact each
    | error fault =>
      -- The fault is that of an item, so that it is a kind of fault that is caught here.
      obtain ⟨v, mem, fails⟩ := exists_of_mapM_eq_error mapped
      have misfit := isMisfit_of_stationIn fails
      refine ⟨[], by simp only [misfit, if_true, Ask.value_run_reporting], .inl rfl,
        fun others h objects => ?_⟩
      rw [only h] at objects
      obtain ⟨pairs, rfl⟩ := objects v mem
      obtain ⟨s, lists⟩ := lists_of_object pairs
      rw [lists.station] at fails
      cases fails

/-- If the runtime does not follow an answer, the search for the list fails, and nothing catches
that. -/
theorem value_stationsOf_of_not_follows {root : Json}
    (short : c.stack.follows c.keys.stations root = false) :
    (c.stationsOf root).run.value = .error .tooDeep := by
  -- The fault of the search goes through every step after it.
  have search : c.find c.keys.stations root = .error .tooDeep := by
    rw [Client.find_eq, short]
    rfl
  have items : c.stationItems? root = .error .tooDeep := by
    rw [Client.stationItems?, search]
    rfl
  rw [Client.stationsOf, Ask.value_run_bind, Ask.value_run_ofExcept, items]

/-- The stations, by what comes back for their list. -/
theorem value_stations :
    c.stations.run.value =
      match (c.json Client.stationsPath).run.value with
      | .ok root => (c.stationsOf root).run.value
      | .error _ => .ok [] := by
  rw [Client.stations, Ask.value_run_bind, Ask.value_run_catching, Ask.value_run_map]
  cases (c.json Client.stationsPath).run.value <;> rfl

/-- The list of stations has no answer only if an answer came that is decoded and not followed. -/
theorem stations_eq_error_iff (fault : Fault) :
    c.provider.stations.run.value = .error fault ↔ fault = .tooDeep ∧
      ∃ root, (c.json Client.stationsPath).run.value = .ok root ∧
        c.stack.follows c.keys.stations root = false := by
  have value : c.provider.stations.run.value = _ := value_stations
  rw [value]
  cases (c.json Client.stationsPath).run.value with
  | error other =>
    -- Nothing has come, and that is caught.
    simp
  | ok root =>
    cases follows : c.stack.follows c.keys.stations root with
    | false =>
      dsimp only
      rw [value_stationsOf_of_not_follows follows, Except.error.injEq, eq_comm]
      simp [follows]
    | true =>
      obtain ⟨stations, answer, -⟩ := value_stationsOf follows
      simp [answer, follows]

/-- If the runtime follows whatever it has decoded, there is an answer about the stations. -/
theorem answers_stations (all : c.stack.FollowsDecoded) : c.provider.stations.Answers := by
  have value : c.provider.stations.run.value = _ := value_stations
  cases came : (c.json Client.stationsPath).run.value with
  | error fault => exact ⟨[], by rw [value, came]⟩
  | ok root =>
    obtain ⟨stations, answer, -⟩ := value_stationsOf (follows_of_json all came c.keys.stations)
    exact ⟨stations, by rw [value, came]; exact answer⟩

section Answered

variable {stations : List Station} (answered : c.provider.stations.run.value = .ok stations)

include answered

/-- Where there is an answer about the stations, and a list has come, it is what is made of this
list. -/
private theorem value_stationsOf_of_answered {root : Json}
    (came : (c.json Client.stationsPath).run.value = .ok root) :
    c.stack.follows c.keys.stations root = true ∧
      (c.stationsOf root).run.value = .ok stations := by
  have value : c.provider.stations.run.value = _ := value_stations
  rw [answered, came] at value
  dsimp only at value
  refine ⟨?_, value.symm⟩
  -- What is not followed would have had no answer.
  cases follows : c.stack.follows c.keys.stations root with
  | true => rfl
  | false =>
    rw [value_stationsOf_of_not_follows follows] at value
    cases value

/-- The stations are those of a list that has come, one for each item, or there are none. -/
private theorem stations_listed :
    stations = [] ∨ ∃ root items, (c.json Client.stationsPath).run.value = .ok root ∧
      Resolved c c.keys.stations root items ∧ List.Forall₂ Lists items stations := by
  have value : c.provider.stations.run.value = _ := value_stations
  cases came : (c.json Client.stationsPath).run.value with
  | error fault =>
    rw [answered, came] at value
    exact .inl (Except.ok.inj value)
  | ok root =>
    obtain ⟨follows, same⟩ := value_stationsOf_of_answered answered came
    obtain ⟨others, answer, listed, -⟩ := value_stationsOf follows
    obtain rfl : others = stations := Except.ok.inj (answer.symm.trans same)
    exact listed.imp_right fun ⟨items, resolved, each⟩ => ⟨root, items, rfl, resolved, each⟩

/-- There is a station for each item of a list that has come, if all of them are objects. -/
private theorem stations_of_objects {root : Json} {items : List Json}
    (came : (c.json Client.stationsPath).run.value = .ok root)
    (resolved : Resolved c c.keys.stations root items)
    (objects : ∀ v ∈ items, ∃ pairs, v = .obj pairs) :
    List.Forall₂ Lists items stations := by
  obtain ⟨follows, same⟩ := value_stationsOf_of_answered answered came
  obtain ⟨others, answer, -, there⟩ := value_stationsOf follows
  obtain rfl : others = stations := Except.ok.inj (answer.symm.trans same)
  exact there items resolved objects

end Answered

/-! ## The whole statement -/

/-- Any fault about a live index is caught. -/
private theorem answers_index (id : Int) : (c.index id).Answers :=
  Ask.answers_catching (fun _ _ => rfl) ⟨none, Ask.value_run_reporting _ _⟩

/-- Any fault about the sensors of a station is caught. -/
private theorem answers_measurements (id : Int) : (c.measurements id).Answers :=
  Ask.answers_catching (fun _ _ => rfl) ⟨[], Ask.value_run_reporting _ _⟩

/-- A question about a station has an answer if its number has a numeral, and else it has none. -/
theorem answers_about_iff {α : Type} {id : Int} {ask : Ask α} (answers : ask.Answers) :
    (Client.about id ask).Answers ↔ Number.hasNumeral id = true := by
  rw [Client.about]
  split
  · rename_i numeral
    exact iff_of_true answers numeral
  · rename_i long
    refine iff_of_false ?_ long
    rintro ⟨a, answered⟩
    cases answered

/-- There is an answer about a live index exactly if the number has a numeral. -/
theorem answers_index_iff (id : Int) :
    (c.provider.index id).Answers ↔ Number.hasNumeral id = true := by
  simp only [Client.provider]
  exact answers_about_iff (answers_index id)

/-- So there is about the sensors of a station. -/
theorem answers_measurements_iff (id : Int) :
    (c.provider.measurements id).Answers ↔ Number.hasNumeral id = true := by
  simp only [Client.provider]
  exact answers_about_iff (answers_measurements id)

/-- Whatever comes back for the requests of a client, and whatever its zone is: the questions about a
station have an answer, if the number of the station has a numeral. The list of stations has one,
unless an answer came that the runtime decodes and does not follow: that fault leaves the client. If
there is an answer, the stations are one for each item of the list that came, in order, with the
number that the item is listed with, or there are none; and there are none only if no list has come,
or one with an item that is no object. -/
theorem client_answers_unless_too_deep (c : Client) :
    (∀ id, (c.provider.index id).Answers ↔ Number.hasNumeral id = true) ∧
    (∀ id, (c.provider.measurements id).Answers ↔ Number.hasNumeral id = true) ∧
    (∀ fault, c.provider.stations.run.value = .error fault ↔ fault = .tooDeep ∧
      ∃ root, (c.json Client.stationsPath).run.value = .ok root ∧
        c.stack.follows c.keys.stations root = false) ∧
    (c.stack.FollowsDecoded → c.provider.stations.Answers) ∧
    ∀ stations, c.provider.stations.run.value = .ok stations →
      (stations = [] ∨ ∃ root items, (c.json Client.stationsPath).run.value = .ok root ∧
        Resolved c c.keys.stations root items ∧ List.Forall₂ Lists items stations) ∧
      ∀ root items, (c.json Client.stationsPath).run.value = .ok root →
        Resolved c c.keys.stations root items → (∀ v ∈ items, ∃ pairs, v = .obj pairs) →
        List.Forall₂ Lists items stations := by
  refine ⟨answers_index_iff, answers_measurements_iff, stations_eq_error_iff, answers_stations,
    fun stations answered => ⟨stations_listed answered, ?_⟩⟩
  exact fun root items came resolved objects => stations_of_objects answered came resolved objects

/-- A runtime that nests all calls a thousand deep, those of the decoder as well, which is called from
further inside than the search. -/
def Stack.shared : Stack := ⟨980, none, 985⟩

/-- A runtime that nests the calls of the program a thousand deep, and those of the decoder, which is
written in another language, thousands. -/
def Stack.separate : Stack := ⟨9000, none, 991⟩

/-- Two items in a list under a known key, the second one without a usable number. -/
def twoItems : String :=
  "\x7b\"lista\": [\x7b\"id\": 7\x7d, \x7b\"id\": \"seven\", \"stationName\": \"B\"\x7d]\x7d"

/-- A client whose feed lists two stations and answers nothing else. -/
def ofTwoItems : Client where
  baseUrl := "/"
  zone := none
  keys := .known
  clock := ⟨.first, some .zero⟩
  stack := .shared
  fetch path :=
    if path = Client.stationsPath then .answer 200 (Text.encode twoItems) else .broken "timeout"

/-- The two stations are listed with their numbers, and there are answers about them. -/
theorem client_answers_twoItems :
    ofTwoItems.stack.FollowsDecoded ∧ Number.hasNumeral 7 = true ∧
    (ofTwoItems.provider.index 7).Answers ∧ (ofTwoItems.provider.measurements 7).Answers ∧
    ∃ stations, ofTwoItems.provider.stations.run.value = .ok stations ∧
      stations.map Station.id = [7, 0] := by
  have all : ofTwoItems.stack.FollowsDecoded := {
    traced := fun _ traced => nomatch traced
    searched := by decide }
  have numeral : Number.hasNumeral 7 = true := by decide +kernel
  -- The general statement. The decoder goes less deep than the search.
  obtain ⟨index, measurements, -, answers, -⟩ := client_answers_unless_too_deep ofTwoItems
  obtain ⟨stations, answered⟩ := answers all
  refine ⟨all, numeral, (index 7).mpr numeral, (measurements 7).mpr numeral, stations, answered, ?_⟩
  have ids : ofTwoItems.stations.run.value.map (List.map Station.id) = .ok [7, 0] := by
    decide +kernel
  change ofTwoItems.stations.run.value = .ok stations at answered
  rw [answered] at ids
  exact Except.ok.inj ids

/-! ## Brackets -/

/-- Each bracket is a byte. -/
private theorem encode_brackets (n : Nat) : Text.encode (String.ofList (Json.brackets n)) =
    List.replicate n 0x5b ++ List.replicate n 0x5d := by
  -- All characters are of one byte, so that runs of characters are runs of bytes.
  have single {c : Char} {b : UInt8} (byte : String.utf8EncodeChar c = [b]) :
      (List.replicate n c).flatMap String.utf8EncodeChar = List.replicate n b := by
    rw [List.flatMap_replicate, byte, List.flatten_replicate_singleton]
  simp [Text.encode, String.toUTF8, List.utf8Encode, Json.brackets,
    single (show String.utf8EncodeChar '[' = [0x5b] by decide),
    single (show String.utf8EncodeChar ']' = [0x5d] by decide)]

/-- Brackets are decoded if there is a level for each of them. -/
private theorem decodeBody_brackets {levels n : Nat} (deep : n < levels) :
    decodeBody levels (Text.encode (String.ofList (Json.brackets (n + 1)))) =
      .ok (Json.nested n) := by
  have bytes := encode_brackets (n + 1)
  -- No byte is a blank, so that none is trimmed off.
  have plain : ∀ b ∈ Text.encode (String.ofList (Json.brackets (n + 1))),
      isBlankByte b = false := by
    rw [bytes]
    intro b mem
    rcases List.mem_append.mp mem with opening | closing
    · rw [List.eq_of_mem_replicate opening]
      rfl
    · rw [List.eq_of_mem_replicate closing]
      rfl
  have some : (Text.encode (String.ofList (Json.brackets (n + 1)))).isEmpty = false := by
    rw [bytes]
    rfl
  rw [decodeBody, Number.stripBy_of_forall plain]
  simp only [some, Bool.false_eq_true, if_false, Text.decode?_encode, Option.map_some,
    Json.readWithin_brackets deep]

/-- If brackets come that the runtime decodes, but does not follow as far, the fault leaves the
client. -/
private theorem value_stations_of_brackets {n : Nat}
    (came : c.fetch Client.stationsPath =
      .answer 200 (Text.encode (String.ofList (Json.brackets (n + 1)))))
    (decoded : n < c.stack.decoder) (short : c.stack.search ≤ n) (keyed : c.keys.stations ≠ []) :
    (c.json Client.stationsPath).run.value = .ok (Json.nested n) ∧
      c.provider.stations.run.value = .error .tooDeep := by
  -- The answer is what the decoder makes of the brackets.
  have answer : (c.json Client.stationsPath).run.value = .ok (Json.nested n) := by
    change (c.fetch Client.stationsPath).json c.stack.decoder Client.stationsPath = _
    rw [came]
    exact decodeBody_brackets decoded
  refine ⟨answer, ?_⟩
  have missing : Json.findFirstKey c.keys.stations (Json.nested n) = none :=
    List.findSome?_eq_none_iff.mpr fun key _ => Json.findKey_nested key n
  -- No key is found, so that the search goes to the innermost array.
  have follows : c.stack.follows c.keys.stations (Json.nested n) = false := by
    rw [Stack.follows, Json.reachOfKeys_of_missing keyed missing, Json.height_nested,
      decide_eq_false (by omega), Bool.and_false]
  change c.stations.run.value = _
  rw [value_stations, answer]
  exact value_stationsOf_of_not_follows follows

/-- A client that gets nothing but brackets inside one another. -/
def ofBrackets (count : Nat) : Client where
  baseUrl := "/"
  zone := none
  keys := .known
  clock := ⟨.first, some .zero⟩
  stack := .separate
  fetch _ := .answer 200 (Text.encode (String.ofList (Json.brackets count)))

/-- A thousand brackets are decoded, and the list of stations fails. -/
theorem stations_fail_for_brackets :
    ((ofBrackets 1000).json Client.stationsPath).run.value = .ok (Json.nested 999) ∧
      (ofBrackets 1000).provider.stations.run.value = .error .tooDeep :=
  value_stations_of_brackets rfl (by decide) (by decide) (by decide)

end Feed

end AirQuality
