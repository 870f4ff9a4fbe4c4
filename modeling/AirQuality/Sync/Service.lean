import AirQuality.Sync.Guard
import AirQuality.Sync.Interleaving

/-!
# The service that passes are asked of

Any number of calls ask one service for passes, by the schedule or by hand, and go on at the same
time. A call tries the guard when it comes to that, and is refused if the guard is taken; else it
runs a pass, in steps between which the other calls go on, and frees the guard at the end of its
pass. A pass may also break off at any time with a fault; then its call frees the guard, too.

* `Call`, `Service`: a call, and the calls of a service with the guarded state
* `Service.Step`: a single step of one of the calls
* `Service.Run`: the steps that have been made, one after the other
* `Guarded.exclusively` makes all the steps of one call
-/

namespace AirQuality.Sync

/-- A call that asks for a pass. -/
inductive Call where
  /-- The call has come and not yet tried the guard. -/
  | waiting (source : Source)
  | running (pass : Course)
  | ended (result : Except Fault Report)

/-- Whether the pass of a call is running. -/
def Call.isRunning : Call → Bool
  | .running _ => true
  | _ => false

/-- What is done in a step; calls go by their numbers. -/
inductive Move where
  | come (source : Source)
  | enter (call : Nat)
  | work (call : Nat)
  | leave (call : Nat)
  | breakOff (call : Nat)
  /-- Something else than the calls changes the state behind the guard. -/
  | elsewhere

/-- A service with the calls that have come to it, numbered in the order in which they have come. -/
structure Service (σ : Type) where
  guarded : Guarded σ
  calls : List Call

namespace Service

variable {σ : Type}

/-- A service to which no call has come. -/
def idle (st : σ) : Service σ := ⟨.free st, []⟩

/-- Whether the pass of the call with a number is running. -/
def Runs (x : Service σ) (n : Nat) : Prop :=
  ∃ call, x.calls[n]? = some call ∧ call.isRunning = true

/-- A single step. The environments that the passes may meet are the same for all of them. -/
inductive Step (envs : Env σ → Prop) (plan : Plan) : Move → Service σ → Service σ → Prop where
  | come {x : Service σ} (source : Source) :
      Step envs plan (.come source) x { x with calls := x.calls ++ [.waiting source] }
  /-- The call tries the guard. -/
  | enter {x : Service σ} {n : Nat} {source : Source} {entered : Bool} {g : Guarded σ}
      (call : x.calls[n]? = some (.waiting source))
      (answer : ((Guarded.enter source).runOn x.guarded).value = (.ok entered, g)) :
      Step envs plan (.enter n) x
        ⟨g, x.calls.set n (if entered then .running .start else .ended (.ok .refused))⟩
  /-- The pass of the call takes a step. -/
  | work {x : Service σ} {n : Nat} {pass next : Course} {st : σ}
      (call : x.calls[n]? = some (.running pass))
      (step : Sync.Step envs plan (pass, x.guarded.inner) (next, st)) :
      Step envs plan (.work n) x ⟨{ x.guarded with inner := st }, x.calls.set n (.running next)⟩
  /-- The pass of the call is over; its result may also be a fault. -/
  | leave {x : Service σ} {n : Nat} {pass : Course} {result : Except Fault Report}
      (call : x.calls[n]? = some (.running pass)) (ended : pass.duty = .ended result) :
      Step envs plan (.leave n) x ⟨.free x.guarded.inner, x.calls.set n (.ended result)⟩
  /-- The pass of the call breaks off before it is over. -/
  | breakOff {x : Service σ} {n : Nat} {pass : Course} (fault : Fault)
      (call : x.calls[n]? = some (.running pass)) :
      Step envs plan (.breakOff n) x
        ⟨.free x.guarded.inner, x.calls.set n (.ended (.error fault))⟩
  | elsewhere {x : Service σ} (st : σ) :
      Step envs plan .elsewhere x { x with guarded := { x.guarded with inner := st } }

/-- The steps that have been made, the last one at the end. -/
inductive Run (envs : Env σ → Prop) (plan : Plan) (x : Service σ) :
    List Move → Service σ → Prop where
  | none : Run envs plan x [] x
  | step {moves : List Move} {move : Move} {y z : Service σ} (before : Run envs plan x moves y)
      (step : Step envs plan move y z) : Run envs plan x (moves ++ [move]) z

end Service

end AirQuality.Sync
