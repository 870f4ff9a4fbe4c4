import AirQuality.Text.Basic

/-!
# Faults

Why an operation does not give an answer. Faults of validation list every problem of the value, each
with the place it was found at; the other faults stand for themselves.

* `Fault.message?`: the text of a fault, for those that have one of this program
* `orFault_eq_ok_iff`, `map_eq_ok_iff`, `bind_eq_ok_iff`: when there is an answer
* `orFault_eq_error_iff`, `bind_eq_error_iff`: when there is a fault
-/

namespace AirQuality

/-- A step on the way from a value to a part of it. -/
inductive PathStep where
  | field (name : String)
  | item (index : Nat)
  | key (name : Text)
  /-- The key itself instead of the value under it. -/
  | keyItself
deriving Repr, DecidableEq

/-- What is wrong with a part of a value. -/
inductive ProblemKind where
  | missing
  | notARecord
  | notAText
  | unpairedText
  | notAnInteger
  | unreadableInteger
  | fractionalInteger
  | oversizedInteger
  | notFinite
  | notANumber
  | unreadableNumber
  | notAMoment
  | unreadableMoment
  | impossibleMoment
  | unknownName
  | notAList
  | notAMapping
  | tooSmall
  | readOnly
deriving Repr, DecidableEq

/-- A problem and the place of it, from the outside in. -/
structure Problem where
  path : List PathStep
  kind : ProblemKind
deriving Repr, DecidableEq

/-- Why an operation does not give an answer. -/
inductive Fault where
  /-- A value that has no meaning where it stands. -/
  | badValue
  /-- A number or a date beyond what can be represented. -/
  | outOfRange
  /-- Values of kinds that do not go together. -/
  | wrongKind
  /-- A key that has to be there and is not. -/
  | missingKey
  /-- A time zone that is not known. -/
  | unknownZone
  /-- A file that cannot be opened. -/
  | noFile
  /-- A text that is not JSON. -/
  | notJson
  /-- A JSON text that is nested too deep. -/
  | tooDeep
  /-- A text that cannot be written, because it is not well formed. -/
  | unwritable
  /-- A value that does not fit its record. -/
  | invalid (problems : List Problem)
  /-- The feed gives no usable answer; the reason is known unless the answer was
  undecodable. -/
  | feedUnavailable (reason : Option String)
  /-- A bound of a date range that is no date. -/
  | badDate (shown : String)
  /-- A date range that ends before it starts. -/
  | invertedRange
  /-- Settings of the database are missing. -/
  | incompleteSettings
  /-- No store goes by this name. -/
  | unknownBackend (name : String)
  /-- A collaborator failed with a text of its own. -/
  | failure (text : String)
deriving Repr, DecidableEq

/-- The text of a fault, for those that have one. -/
def Fault.message? : Fault → Option String
  | .feedUnavailable reason => reason
  | .badDate shown => some ("Invalid date format: " ++ shown ++ ". Expected YYYY-MM-DD or ISO-8601")
  | .invertedRange => some "Invalid date range: start must be <= end"
  | .incompleteSettings => some "Missing required InfluxDB environment variables"
  | .unknownBackend name => some ("Unknown storage backend: " ++ name)
  | .failure text => some text
  | _ => none

/-- The value of an option, or a fault if there is none. -/
def orFault {α : Type} (value? : Option α) (fault : Fault) : Except Fault α :=
  match value? with
  | some a => .ok a
  | none => .error fault

theorem orFault_eq_ok_iff {α : Type} {value? : Option α} {fault : Fault} {a : α} :
    orFault value? fault = .ok a ↔ value? = some a := by
  cases value? <;> simp [orFault]

theorem orFault_eq_error_iff {α : Type} {value? : Option α} {instead fault : Fault} :
    orFault value? instead = .error fault ↔ value? = none ∧ instead = fault := by
  cases value? <;> simp [orFault]

theorem map_eq_ok_iff {α β : Type} {f : α → β} {answer : Except Fault α} {b : β} :
    answer.map f = .ok b ↔ ∃ a, answer = .ok a ∧ f a = b := by
  cases answer <;> simp [Except.map]

/-- An answer that is built on another one needs both. -/
theorem bind_eq_ok_iff {ε α β : Type} {answer : Except ε α} {f : α → Except ε β} {b : β} :
    (answer >>= f) = .ok b ↔ ∃ a, answer = .ok a ∧ f a = .ok b := by
  cases answer <;> simp [bind, Except.bind]

/-- A fault is that of the answer, or that of what is built on it. -/
theorem bind_eq_error_iff {α β : Type} {answer : Except Fault α} {f : α → Except Fault β}
    {fault : Fault} : (answer >>= f) = .error fault ↔
      answer = .error fault ∨ ∃ a, answer = .ok a ∧ f a = .error fault := by
  cases answer <;> simp [bind, Except.bind]

end AirQuality
