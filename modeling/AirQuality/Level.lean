import AirQuality.Record.Check
import AirQuality.Text.Fold

/-!
# Levels of air quality

Six levels from the best to the worst. The feed has Polish and English labels for them, which
are recognised in any case and with blanks around them; records and the database use fixed names.

* `Level.ofLabel?`: the level of a label; `Level.ofLabel?_eq_some_iff`, which labels a level has
* `Level.ofName?`: the level of a name, and `Level.ofName?_name`
-/

namespace AirQuality

/-- A level of air quality. -/
inductive Level where
  | veryGood
  | good
  | moderate
  | sufficient
  | bad
  | veryBad
deriving Repr, DecidableEq

namespace Level

/-- All levels, from the best to the worst. -/
def all : List Level := [veryGood, good, moderate, sufficient, bad, veryBad]

theorem mem_all (l : Level) : l ∈ all := by cases l <;> decide

/-- 0 for the best level, 5 for the worst. -/
def severity : Level → Nat
  | veryGood => 0
  | good => 1
  | moderate => 2
  | sufficient => 3
  | bad => 4
  | veryBad => 5

/-- The name of a level in records. -/
def name : Level → String
  | veryGood => "VERY_GOOD"
  | good => "GOOD"
  | moderate => "MODERATE"
  | sufficient => "SUFFICIENT"
  | bad => "BAD"
  | veryBad => "VERY_BAD"

/-- The level of a name. -/
def ofName? (s : String) : Option Level := all.find? fun l => l.name == s

@[simp] theorem ofName?_name (l : Level) : ofName? l.name = some l := by
  cases l <;> decide +kernel

/-- The labels of a level: the Polish one and the English one. -/
def labels : Level → List String
  | veryGood => ["Bardzo dobry", "Very good"]
  | good => ["Dobry", "Good"]
  | moderate => ["Umiarkowany", "Moderate"]
  | sufficient => ["Dostateczny", "Sufficient"]
  | bad => ["Zły", "Bad"]
  | veryBad => ["Bardzo zły", "Very bad"]

/-- The level of a label, without regard to case and to blanks around it. -/
def ofLabel? (label : String) : Option Level :=
  let wanted := Text.folded label
  all.find? fun l => l.labels.any fun known => Text.folded known == wanted

/-- The labels of a level in their caseless form. The letter of "zły" keeps its stroke. -/
def caselessLabels : Level → List String
  | veryGood => ["bardzo dobry", "very good"]
  | good => ["dobry", "good"]
  | moderate => ["umiarkowany", "moderate"]
  | sufficient => ["dostateczny", "sufficient"]
  | bad => ["zły", "bad"]
  | veryBad => ["bardzo zły", "very bad"]

theorem map_folded_labels (l : Level) : l.labels.map Text.folded = l.caselessLabels := by
  cases l <;> decide +kernel

/-- No label is one of two levels. -/
theorem eq_of_mem_caselessLabels {l l' : Level} {s : String} (mem : s ∈ l.caselessLabels)
    (mem' : s ∈ l'.caselessLabels) : l = l' := by
  have apart : ∀ l ∈ all, ∀ l' ∈ all, ∀ s ∈ l.caselessLabels, s ∈ l'.caselessLabels → l = l' := by
    decide +kernel
  exact apart l (mem_all l) l' (mem_all l') s mem mem'

/-- The labels of a level are those with a caseless form in its table. -/
theorem ofLabel?_eq_some_iff {label : String} {l : Level} :
    ofLabel? label = some l ↔ Text.folded label ∈ l.caselessLabels := by
  have known (l : Level) : (l.labels.any fun known => Text.folded known == Text.folded label) =
      true ↔ Text.folded label ∈ l.caselessLabels := by
    rw [← map_folded_labels, List.mem_map, List.any_eq_true]
    simp only [beq_iff_eq]
  have of_found {l : Level} (found : ofLabel? label = some l) :
      Text.folded label ∈ l.caselessLabels := by
    rw [ofLabel?] at found
    exact (known l).mp (by simpa using List.find?_some found)
  constructor
  · exact of_found
  · intro mem
    cases found : ofLabel? label with
    | none => exact absurd ((known l).mpr mem) (List.find?_eq_none.mp found l (mem_all l))
    | some l' => rw [eq_of_mem_caselessLabels (of_found found) mem]

/-- A label is unknown if its caseless form is in no table. -/
theorem ofLabel?_eq_none_iff {label : String} :
    ofLabel? label = none ↔ ∀ l, Text.folded label ∉ caselessLabels l := by
  simp only [Option.eq_none_iff_forall_ne_some, ne_eq, ofLabel?_eq_some_iff]

/-- Neither blanks around a label nor the case of its letters matter. -/
theorem ofLabel?_append_capitals {front back : String}
    (infront : ∀ c ∈ front.toList, Text.isBlank c = true)
    (behind : ∀ c ∈ back.toList, Text.isBlank c = true) (label : String) :
    ofLabel? (front ++ label.map Text.capital ++ back) = ofLabel? label := by
  simp only [ofLabel?, Text.folded_append_append infront behind, Text.folded_capitals]

example : ofLabel? " BARDZO ZŁY\n" = some veryBad := by decide +kernel

-- Without its stroke a letter is another one.
example : ofLabel? "Zly" = none := by decide +kernel

/-- Whether a level counts as good. -/
def isGood (l : Level) : Bool := l == veryGood || l == good

/-- Whether a level is better than another one. -/
def isBetterThan (a b : Level) : Bool := a.severity < b.severity

/-- Whether a level is worse than another one. -/
def isWorseThan (a b : Level) : Bool := b.severity < a.severity

/-- A level by its exact name. -/
def check : Json → Checked Level
  | .str t => Check.wellFormed (fun s => Checked.ofOption .unknownName (ofName? s)) t
  | _ => Checked.problem .unknownName

/-- The name of a level, or null. -/
def toJson? : Option Level → Json
  | some l => .str l.name
  | none => .null

end Level

end AirQuality
