import AirQuality.Fault
import AirQuality.Time.Text

/-!
# The journal

What an operation does besides giving an answer: the lines that it logs and the addresses that it
requests, in order. An operation that changes a state keeps the changes, and what it has written,
when it fails later on.

* `Traced`: an answer with the events on the way to it
* `Ask`: a question that may fail; `Ask.catching` answers another one after some of the faults
* `Act`: an operation on a state that may fail; `runOn_bind` and `runOn_tryCatch` say how the state
  and the events are kept
-/

namespace AirQuality

/-- How important a log line is. -/
inductive Severity where
  | info
  | warning
  | error
deriving Repr, DecidableEq

/-- A log line; that of an error says what went wrong and not why. -/
structure LogLine where
  severity : Severity
  text : String
deriving Repr, DecidableEq

/-- The word for a severity. -/
def Severity.word : Severity → String
  | .info => "INFO"
  | .warning => "WARNING"
  | .error => "ERROR"

/-- The line with its severity. -/
def LogLine.shown (l : LogLine) : String := l.severity.word ++ " " ++ l.text

/-- Something that is seen from outside. -/
inductive Event where
  | logged (line : LogLine)
  | requested (url : String)
deriving Repr, DecidableEq

/-- Whether something that is seen from outside is no more than a log line. -/
def Event.isLogged : Event → Bool
  | .logged _ => true
  | .requested _ => false

/-- An answer with the events on the way to it. -/
structure Traced (α : Type) where
  value : α
  events : List Event

namespace Traced

instance : Monad Traced where
  pure a := ⟨a, []⟩
  bind t f :=
    let u := f t.value
    ⟨u.value, t.events ++ u.events⟩

/-- A single event. -/
def event (e : Event) : Traced Unit := ⟨(), [e]⟩

/-- A line of information. -/
def info (text : String) : Traced Unit := event (.logged ⟨.info, text⟩)

/-- A warning. -/
def warning (text : String) : Traced Unit := event (.logged ⟨.warning, text⟩)

/-- The report of an error. -/
def error (text : String) : Traced Unit := event (.logged ⟨.error, text⟩)

@[simp] theorem value_pure {α : Type} (a : α) : (pure a : Traced α).value = a := rfl

@[simp] theorem events_pure {α : Type} (a : α) : (pure a : Traced α).events = [] := rfl

@[simp] theorem value_bind {α β : Type} (t : Traced α) (f : α → Traced β) :
    (t >>= f).value = (f t.value).value := rfl

@[simp] theorem events_bind {α β : Type} (t : Traced α) (f : α → Traced β) :
    (t >>= f).events = t.events ++ (f t.value).events := rfl

instance : LawfulMonad Traced :=
  LawfulMonad.mk' Traced (fun t => by cases t; simp [Functor.map])
    (fun _ _ => rfl) (fun t f g => by simp [bind, List.append_assoc])

@[simp] theorem value_map {α β : Type} (f : α → β) (t : Traced α) :
    (f <$> t).value = f t.value := rfl

end Traced

/-- A question that may fail. -/
abbrev Ask (α : Type) := ExceptT Fault Traced α

namespace Ask

variable {α β : Type}

/-- A question that cannot fail. -/
def ofTraced (t : Traced α) : Ask α := ExceptT.lift t

/-- A value or a fault as the answer of a question. -/
def ofExcept (e : Except Fault α) : Ask α := ExceptT.mk (pure e)

/-- The report of an error, and an answer in spite of it. -/
def reporting (text : String) (a : α) : Ask α := do
  ofTraced (Traced.error text)
  return a

/-- The answer of a question, or that of another one after a fault that is caught. Any other fault
is passed on. -/
def catching (caught : Fault → Bool) (ask instead : Ask α) : Ask α :=
  tryCatch ask fun fault => if caught fault then instead else throw fault

/-! ## Answers of questions, without their events -/

@[simp] theorem value_run_ofExcept (e : Except Fault α) : (ofExcept e).run.value = e := rfl

@[simp] theorem value_run_reporting (text : String) (a : α) :
    (reporting text a).run.value = .ok a := rfl

theorem value_run_bind (ask : Ask α) (f : α → Ask β) :
    (ask >>= f).run.value =
      match ask.run.value with
      | .ok a => (f a).run.value
      | .error fault => .error fault := by
  rw [ExceptT.run_bind, Traced.value_bind]
  cases ask.run.value <;> rfl

theorem value_run_map (f : α → β) (ask : Ask α) :
    (f <$> ask).run.value = ask.run.value.map f := by
  rw [ExceptT.run_map, Traced.value_map]

theorem value_run_catching (caught : Fault → Bool) (ask instead : Ask α) :
    (catching caught ask instead).run.value =
      match ask.run.value with
      | .ok a => .ok a
      | .error fault => if caught fault then instead.run.value else .error fault := by
  unfold catching ExceptT.run
  simp only [tryCatch, tryCatchThe, MonadExceptOf.tryCatch, ExceptT.tryCatch, ExceptT.mk, bind]
  rcases ask with ⟨result, events⟩
  cases result with
  | ok a => rfl
  | error fault => cases h : caught fault <;> simp only [h] <;> rfl

/-- Questions that are all answered, one after the other. -/
theorem value_run_mapM {f : α → Ask β} {g : α → β}
    (answers : ∀ a, (f a).run.value = .ok (g a)) (as : List α) :
    (as.mapM f).run.value = .ok (as.map g) := by
  induction as with
  | nil => rfl
  | cons a as ih =>
    rw [List.mapM_cons, value_run_bind, answers]
    simp only
    rw [value_run_bind, ih]
    rfl

end Ask

/-- An operation on a state that may fail. -/
abbrev Act (σ α : Type) := ExceptT Fault (StateT σ Traced) α

namespace Act

variable {σ α : Type}

/-- A question as an operation. -/
def ofAsk (ask : Ask α) : Act σ α := ExceptT.mk (StateT.lift ask.run)

/-- Events as an operation. -/
def ofTraced (t : Traced α) : Act σ α := ExceptT.lift (StateT.lift t)

/-- A value or a fault as the answer of an operation. -/
def ofExcept (e : Except Fault α) : Act σ α := ExceptT.mk (pure e)

/-- The state. -/
def state : Act σ σ := ExceptT.lift get

/-- Replaces the state. -/
def setState (s : σ) : Act σ Unit := ExceptT.lift (set s)

/-- A line of information. -/
def info (text : String) : Act σ Unit := ofTraced (Traced.info text)

/-- A warning. -/
def warning (text : String) : Act σ Unit := ofTraced (Traced.warning text)

/-- The report of an error. -/
def error (text : String) : Act σ Unit := ofTraced (Traced.error text)

/-- Fails. -/
def fail (fault : Fault) : Act σ α := ExceptT.mk (pure (.error fault))

/-- Logs an error if the operation fails, and fails all the same. -/
def reporting (text : String) (act : Act σ α) : Act σ α :=
  tryCatch act fun fault => do
    error text
    fail fault

/-- Runs an operation: the answer or the fault, and the state after it, with the events. -/
def runOn (act : Act σ α) (s : σ) : Traced (Except Fault α × σ) := StateT.run (ExceptT.run act) s

/-! ## Runs of operations -/

@[simp] theorem runOn_pure (a : α) (s : σ) :
    (pure a : Act σ α).runOn s = pure (.ok a, s) := rfl

@[simp] theorem runOn_fail (fault : Fault) (s : σ) :
    (fail fault : Act σ α).runOn s = pure (.error fault, s) := rfl

@[simp] theorem runOn_state (s : σ) : (state : Act σ σ).runOn s = pure (.ok s, s) := rfl

@[simp] theorem runOn_setState (new s : σ) :
    (setState new : Act σ Unit).runOn s = pure (.ok (), new) := rfl

@[simp] theorem runOn_ofExcept (e : Except Fault α) (s : σ) :
    (ofExcept e : Act σ α).runOn s = pure (e, s) := rfl

@[simp] theorem runOn_ofAsk (ask : Ask α) (s : σ) :
    (ofAsk ask : Act σ α).runOn s = (fun r => (r, s)) <$> ask.run := rfl

@[simp] theorem runOn_ofTraced (t : Traced α) (s : σ) :
    (ofTraced t : Act σ α).runOn s = (fun a => (.ok a, s)) <$> t := by
  simp [ofTraced, runOn, ExceptT.run_lift]

/-- What follows an operation is run only if the operation gives an answer; the state and the events
are kept in either case. -/
theorem runOn_bind {β : Type} (act : Act σ α) (f : α → Act σ β) (s : σ) :
    (act >>= f).runOn s = (act.runOn s >>= fun r =>
      match r.1 with
      | .ok a => (f a).runOn r.2
      | .error fault => pure (.error fault, r.2)) := by
  unfold runOn ExceptT.run StateT.run
  simp only [bind, ExceptT.bind, ExceptT.mk, StateT.bind]
  rcases act s with ⟨⟨result, next⟩, events⟩
  cases result <;> rfl

/-- An operation that stands in for a fault goes on from the state at the fault. -/
theorem runOn_tryCatch (act : Act σ α) (handle : Fault → Act σ α) (s : σ) :
    (tryCatch act handle).runOn s = (act.runOn s >>= fun r =>
      match r.1 with
      | .ok a => pure (.ok a, r.2)
      | .error fault => (handle fault).runOn r.2) := by
  unfold runOn ExceptT.run StateT.run
  simp only [tryCatch, tryCatchThe, MonadExceptOf.tryCatch, ExceptT.tryCatch, ExceptT.mk, bind,
    StateT.bind]
  rcases act s with ⟨⟨result, next⟩, events⟩
  cases result <;> rfl

/-! ## Answers of operations, without their events -/

@[simp] theorem value_runOn_info (text : String) (s : σ) :
    ((info text : Act σ Unit).runOn s).value = (.ok (), s) := by simp [info]

@[simp] theorem value_runOn_warning (text : String) (s : σ) :
    ((warning text : Act σ Unit).runOn s).value = (.ok (), s) := by simp [warning]

@[simp] theorem value_runOn_error (text : String) (s : σ) :
    ((error text : Act σ Unit).runOn s).value = (.ok (), s) := by simp [error]

theorem value_runOn_bind {β : Type} (act : Act σ α) (f : α → Act σ β) (s : σ) :
    ((act >>= f).runOn s).value =
      match (act.runOn s).value with
      | (.ok a, next) => ((f a).runOn next).value
      | (.error fault, next) => (.error fault, next) := by
  rw [runOn_bind, Traced.value_bind]
  rcases (act.runOn s).value with ⟨result, next⟩
  cases result <;> rfl

theorem value_runOn_tryCatch (act : Act σ α) (handle : Fault → Act σ α) (s : σ) :
    ((tryCatch act handle).runOn s).value =
      match (act.runOn s).value with
      | (.ok a, next) => (.ok a, next)
      | (.error fault, next) => ((handle fault).runOn next).value := by
  rw [runOn_tryCatch, Traced.value_bind]
  rcases (act.runOn s).value with ⟨result, next⟩
  cases result <;> rfl

/-- The report of an error changes neither the answer nor the state. -/
theorem value_runOn_reporting (text : String) (act : Act σ α) (s : σ) :
    ((reporting text act).runOn s).value = (act.runOn s).value := by
  rw [reporting, value_runOn_tryCatch]
  rcases (act.runOn s).value with ⟨result, next⟩
  cases result with
  | ok a => rfl
  | error fault => simp [value_runOn_bind]

end Act

end AirQuality
