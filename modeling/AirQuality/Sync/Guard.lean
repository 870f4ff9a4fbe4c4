import AirQuality.Sync.Pass

/-!
# Passes that exclude each other

Passes are asked for by the schedule or by hand. Only one of them runs at a time: one that is asked
for while another one runs is refused, without touching anything. The guard is free again after
every pass, also after one that failed.

* `Guarded.enter`, `Guarded.finish`: taking the guard, and freeing it after a pass
* `Guarded.exclusively`: a pass if the guard is free
-/

namespace AirQuality.Sync

/-- Who asks for a pass. -/
inductive Source where
  | scheduled
  | manual
deriving Repr, DecidableEq

/-- The word for a source. -/
def Source.word : Source → String
  | .scheduled => "scheduled"
  | .manual => "manual"

/-- A state with the guard of its passes. -/
structure Guarded (σ : Type) where
  isRunning : Bool
  inner : σ

namespace Guarded

variable {σ α : Type}

/-- A state in which no pass is running. -/
def free (s : σ) : Guarded σ := ⟨false, s⟩

/-- An operation on the state behind the guard. -/
def inside (act : Act σ α) : Act (Guarded σ) α :=
  ExceptT.mk (StateT.mk fun g => do
    let (r, s) ← act.runOn g.inner
    return (r, { g with inner := s }))

/-- A request that is made by hand is logged. -/
def ask (source : Source) : Act (Guarded σ) Unit :=
  match source with
  | .manual => Act.info "Manual sync triggered"
  | .scheduled => return ()

/-- Takes the guard if it is free, and tells whether it was. -/
def enter (source : Source) : Act (Guarded σ) Bool := do
  ask source
  let g ← Act.state
  if g.isRunning then
    Act.warning ("Skipping " ++ source.word ++ " sync: another pass is still running")
    return false
  else
    Act.setState { g with isRunning := true }
    return true

/-- Runs a pass that has entered. The guard is free afterwards, whether the pass fails or not. -/
def finish (pass : Act σ Report) : Act (Guarded σ) Report :=
  ExceptT.mk (StateT.mk fun g => do
    let (r, s) ← pass.runOn g.inner
    return (r, free s))

/-- Runs a pass if no other one is running; else it is refused. -/
def exclusively (source : Source) (pass : Act σ Report) : Act (Guarded σ) Report := do
  if ← enter source then finish pass else return .refused

/-! ## What the guard answers -/

/-- An operation behind the guard answers as it does without it, and leaves the guard alone. -/
theorem value_runOn_inside (act : Act σ α) (g : Guarded σ) :
    ((inside act).runOn g).value =
      ((act.runOn g.inner).value.1, { g with inner := (act.runOn g.inner).value.2 }) := rfl

/-- The guard is taken afterwards, by this request if it was free before. -/
theorem value_runOn_enter (source : Source) (g : Guarded σ) :
    ((enter source).runOn g).value = (.ok (!g.isRunning), ⟨true, g.inner⟩) := by
  rcases g with ⟨running, inner⟩
  cases source <;> cases running <;> rfl

/-- Asking for the guard does nothing that is seen from outside but logging. -/
theorem logged_of_enter (source : Source) (g : Guarded σ) :
    ∀ e ∈ ((enter source).runOn g).events, e.isLogged = true := by
  rw [← List.all_eq_true]
  rcases g with ⟨running, inner⟩
  cases source <;> cases running <;> rfl

theorem value_runOn_exclusively (source : Source) (pass : Act σ Report) (g : Guarded σ) :
    ((exclusively source pass).runOn g).value =
      if g.isRunning then (.ok .refused, g)
      else ((pass.runOn g.inner).value.1, free (pass.runOn g.inner).value.2) := by
  rw [exclusively, Act.value_runOn_bind, value_runOn_enter]
  rcases g with ⟨running, inner⟩
  cases running <;> rfl

end Guarded

end AirQuality.Sync
