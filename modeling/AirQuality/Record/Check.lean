import AirQuality.Fault
import AirQuality.Json.Basic
import AirQuality.Number.Record
import AirQuality.Time.Record

/-!
# Checking values against records

A check turns a JSON value into a typed one or lists everything that is wrong with it. Checks of the
fields of a record are combined so that the problems of all fields are listed, in the order of the
fields.

* `Checked`: a value, or problems
* `Check.text`, `Check.integer`, `Check.real`, `Check.moment`: checks of single values
* `Check.required`, `Check.optional`, `Check.record`, `Check.list`: checks of parts
-/

namespace AirQuality

/-- The outcome of a check: a value, or what is wrong. -/
inductive Checked (α : Type) where
  | valid (a : α)
  | invalid (problems : List Problem)

namespace Checked

/-- Applies a function to a valid value. -/
def map {α β : Type} (f : α → β) : Checked α → Checked β
  | valid a => valid (f a)
  | invalid ps => invalid ps

/-- Applies a checked function to a checked value; the problems of both are listed. -/
def ap {α β : Type} (f : Checked (α → β)) (a : Checked α) : Checked β :=
  match f, a with
  | valid f, valid a => valid (f a)
  | valid _, invalid ps => invalid ps
  | invalid ps, valid _ => invalid ps
  | invalid ps, invalid qs => invalid (ps ++ qs)

instance : Applicative Checked where
  map := map
  pure := valid
  seq f a := ap f (a ())

@[simp] theorem pure_seq_valid {α β : Type} (f : α → β) (a : α) :
    (Seq.seq (pure f : Checked (α → β)) fun _ => (valid a : Checked α)) = valid (f a) := rfl

/-- A single problem with the value itself. -/
def problem {α : Type} (kind : ProblemKind) : Checked α := invalid [⟨[], kind⟩]

/-- Problems of a part, seen from the whole. -/
def within {α : Type} (step : PathStep) : Checked α → Checked α
  | valid a => valid a
  | invalid ps => invalid (ps.map fun p => ⟨step :: p.path, p.kind⟩)

/-- A value, or a single problem if there is none. -/
def ofOption {α : Type} (kind : ProblemKind) : Option α → Checked α
  | some a => valid a
  | none => problem kind

/-- The value, or a fault with all problems. -/
def orFault {α : Type} : Checked α → Except Fault α
  | valid a => .ok a
  | invalid ps => .error (.invalid ps)

theorem orFault_eq_ok_iff {α : Type} {checked : Checked α} {a : α} :
    checked.orFault = .ok a ↔ checked = valid a := by
  cases checked <;> simp [orFault]

end Checked

namespace Check

open Checked (problem ofOption)

/-- The magnitude that a double has to stay below to count as an integer. -/
def integerLimit : Nat := Number.twoTo 63

/-- What a check makes of the string that a text is. -/
def wellFormed {α : Type} (check : String → Checked α) (t : Text) : Checked α :=
  match t.string? with
  | some s => check s
  | none => problem .unpairedText

/-- An integer as a text. -/
def integerText (s : String) : Checked Int :=
  match Number.recordInteger s with
  | .value n => .valid n
  | .tooLong => problem .oversizedInteger
  | .malformed => problem .unreadableInteger

/-- An integer, a truth value, a double without fraction, or a numeral. -/
def integer : Json → Checked Int
  | .num (.int n) => .valid n
  | .bool b => .valid (if b then 1 else 0)
  | .num (.float x) =>
    match Number.Dyadic.ofFloat? x with
    | none => problem .notFinite
    | some d =>
      if d.num % d.den ≠ 0 then problem .fractionalInteger
      else if integerLimit ≤ d.num / d.den then problem .oversizedInteger
      else .valid (Number.signed d.negative (d.num / d.den))
  | .str t => wellFormed integerText t
  | _ => problem .notAnInteger

/-- A number, a truth value or a numeral. -/
def real : Json → Checked Float
  | .num n => ofOption .notANumber n.toFloat?
  | .bool b => .valid (if b then 1.0 else 0.0)
  | .str t => wellFormed (fun s => ofOption .unreadableNumber (Number.recordFloat? s)) t
  | _ => problem .notANumber

/-- A text. -/
def text : Json → Checked Text
  | .str t => .valid t
  | _ => problem .notAText

/-- A moment as a text. -/
def momentText (s : String) : Checked Time.Moment :=
  match Time.Record.momentOfText s with
  | .value m => .valid m
  | .outside => problem .impossibleMoment
  | .malformed => problem .unreadableMoment

/-- A moment as a text or a number. An integer has to have a finite double. -/
def moment : Json → Checked Time.Moment
  | .str t => wellFormed momentText t
  | .num n =>
    if n.toFloat?.isNone then problem .notAMoment
    else ofOption .impossibleMoment (Time.Record.momentOfNumber? n)
  | _ => problem .notAMoment

/-- Null, or a value of the given kind. -/
def nullable {α : Type} (check : Json → Checked α) : Json → Checked (Option α)
  | .null => .valid none
  | v => (check v).map some

/-- The items of an array, from an index on. -/
def items {α : Type} (check : Json → Checked α) (index : Nat) : List Json → Checked (List α)
  | [] => .valid []
  | v :: rest => List.cons <$> (check v).within (.item index) <*> items check (index + 1) rest

/-- An array with items of the given kind. -/
def list {α : Type} (check : Json → Checked α) : Json → Checked (List α)
  | .arr vs => items check 0 vs
  | _ => problem .notAList

/-- The pairs of an object. -/
def record {α : Type} (check : List (Text × Json) → Checked α) : Json → Checked α
  | .obj pairs => check pairs
  | _ => problem .notARecord

/-- A field that has to be there. -/
def required {α : Type} (name : String) (check : Json → Checked α) (pairs : List (Text × Json)) :
    Checked α :=
  match Json.lookup? name pairs with
  | some v => (check v).within (.field name)
  | none => .invalid [⟨[.field name], .missing⟩]

/-- A field with a value of its own when it is absent. -/
def optional {α : Type} (name : String) (absent : α) (check : Json → Checked α)
    (pairs : List (Text × Json)) : Checked α :=
  match Json.lookup? name pairs with
  | some v => (check v).within (.field name)
  | none => .valid absent

/-- A field that may be null or absent. -/
def nullableField {α : Type} (name : String) (check : Json → Checked α) :
    List (Text × Json) → Checked (Option α) :=
  optional name none (nullable check)

/-- A value that is not smaller than a bound. -/
def atLeast {α : Type} (fits : α → Bool) (check : Json → Checked α) (v : Json) : Checked α :=
  match check v with
  | .valid a => if fits a then .valid a else problem .tooSmall
  | .invalid ps => .invalid ps

end Check

end AirQuality
