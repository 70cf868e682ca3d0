import TrueNorth.Lib.Runs

/-
  The circuit breaker around calls to other services
  (circuit_breaker.py), and calls that overlap.

  The breaker is locked while a call enters and while its
  outcome is recorded, and not while its function runs.  A
  step of the world is one of these; what the clock reads is
  a choice of the step.

  Key definitions include:
    * `CircuitBreaker`
    * `enter`, `onFailure`, `onSuccess`
    * `World`, `Action`, `step`
    * `Kept`
-/

--------
-- The Breaker
--------

namespace TrueNorth

namespace CircuitBreakers

inductive CircuitState
| closed
| open_
| halfOpen
deriving DecidableEq

structure CircuitBreaker (T : Type) where
  name : String
  failureThreshold : Nat
  recoveryTimeout : T
  successThreshold : Nat
  state : CircuitState
  failureCount : Nat
  successCount : Nat
  lastFailureTime : T

structure CircuitOpenError (T : Type) where
  name : String
  retryAfter : T

variable {T : Type}

/- A new breaker. -/
def CircuitBreaker.new
    [Zero T]
    (name : String)
    (failureThreshold : Nat)
    (recoveryTimeout : T)
    (successThreshold : Nat) : CircuitBreaker T where
  name := name
  failureThreshold := failureThreshold
  recoveryTimeout := recoveryTimeout
  successThreshold := successThreshold
  state := .closed
  failureCount := 0
  successCount := 0
  lastFailureTime := 0

namespace CircuitBreaker

variable [Sub T] [LT T] [DecidableLT T]

/- The check that `call` starts with. -/
def enter
    (cb : CircuitBreaker T)
    (now : T) :
    Except (CircuitOpenError T) (CircuitBreaker T) :=
  match cb.state with
  | .open_ =>
      let elapsed := now - cb.lastFailureTime
      if elapsed < cb.recoveryTimeout then
        .error
          { name := cb.name
            retryAfter := cb.recoveryTimeout - elapsed }
      else
        .ok { cb with state := .halfOpen, successCount := 0 }
  | .closed => .ok cb
  | .halfOpen => .ok cb

omit [Sub T] [LT T] [DecidableLT T] in
/- `_on_failure`. -/
def onFailure
    (cb : CircuitBreaker T)
    (now : T) : CircuitBreaker T :=
  let counted :=
    { cb with
      failureCount := cb.failureCount + 1
      lastFailureTime := now }
  match cb.state with
  | .halfOpen => { counted with state := .open_ }
  | .closed =>
      if cb.failureThreshold ≤ counted.failureCount then
        { counted with state := .open_ }
      else counted
  | .open_ => counted

omit [Sub T] [LT T] [DecidableLT T] in
/- `_on_success`. -/
def onSuccess (cb : CircuitBreaker T) : CircuitBreaker T :=
  match cb.state with
  | .halfOpen =>
      let counted :=
        { cb with successCount := cb.successCount + 1 }
      if cb.successThreshold ≤ counted.successCount then
        { counted with state := .closed, failureCount := 0 }
      else counted
  | .closed => { cb with failureCount := 0 }
  | .open_ => cb

end CircuitBreaker

end CircuitBreakers

end TrueNorth

--------
-- Calls
--------

namespace TrueNorth

namespace CircuitBreakers

/- How far a call has come once it has entered. -/
inductive Phase
| running
| returned
| raised
| finished
deriving DecidableEq

/-
  A call, and for one that was started as a probe the opening
  of the circuit that it probes.
-/
structure Call where
  probeOf : Option Nat
  phase : Phase

/- An outcome as it was recorded. -/
structure Outcome (T : Type) where
  success : Bool
  time : T
  probeOf : Option Nat
  opening : Nat
  halfOpen : Bool

/-
  The breaker, the calls that entered and what was recorded of
  them, the newest first, and how often the circuit has
  opened.  The breaker reads none of the last three.
-/
structure World (T : Type) where
  breaker : CircuitBreaker T
  calls : List Call
  recorded : List (Outcome T)
  openings : Nat

/-
  A call enters; the function of one returns, raises or is
  cancelled; an outcome is recorded.
-/
inductive Action (T : Type)
| enter (now : T)
| ends (i : Nat) (phase : Phase)
| record (i : Nat) (now : T)

variable {T : Type}

namespace World

/- No call has entered yet. -/
def start (breaker : CircuitBreaker T) : World T where
  breaker := breaker
  calls := []
  recorded := []
  openings := 0

def setPhase
    (w : World T)
    (i : Nat)
    (call : Call)
    (phase : Phase) : World T :=
  { w with calls := w.calls.set i { call with phase := phase } }

/- `w`, with an outcome recorded and the breaker as it is now. -/
def record
    (w : World T)
    (call : Call)
    (success : Bool)
    (now : T)
    (breaker : CircuitBreaker T) : World T where
  breaker := breaker
  calls := w.calls
  recorded :=
    { success := success
      time := now
      probeOf := call.probeOf
      opening := w.openings
      halfOpen := w.breaker.state = .halfOpen } :: w.recorded
  openings :=
    if w.breaker.state ≠ .open_ ∧ breaker.state = .open_ then
      w.openings + 1
    else w.openings

/- `w`, with one more call running. -/
def letIn
    (w : World T)
    (breaker : CircuitBreaker T) : World T where
  breaker := breaker
  calls := w.calls ++
    [{ probeOf :=
        if breaker.state = .closed then none
        else some w.openings
       phase := .running }]
  recorded := w.recorded
  openings := w.openings

variable [Sub T] [LT T] [DecidableLT T]

/- One step; an action that does not apply changes nothing. -/
def step
    (w : World T) : Action T → World T
| .enter now =>
    match w.breaker.enter now with
    | .error _ => w
    | .ok breaker => w.letIn breaker
| .ends i phase =>
    match w.calls[i]? with
    | some call =>
        if call.phase = .running then w.setPhase i call phase
        else w
    | none => w
| .record i now =>
    match w.calls[i]? with
    | some call =>
        match call.phase with
        | .returned =>
            (w.setPhase i call .finished).record call true now
              w.breaker.onSuccess
        | .raised =>
            (w.setPhase i call .finished).record call false now
              (w.breaker.onFailure now)
        | .running => w
        | .finished => w
    | none => w

--------
-- The Contract
--------

variable {T : Type}

/- How many calls started as probes are running. -/
def runningProbes (w : World T) : Nat :=
  w.calls.countP (fun call =>
    call.probeOf.isSome && call.phase = .running)

/- When the last failure was recorded. -/
def lastFailure (w : World T) : Option T :=
  (w.recorded.find? (fun o => !o.success)).map Outcome.time

/- The failures since the last success. -/
def failuresInARow (w : World T) : Nat :=
  (w.recorded.takeWhile (fun o => !o.success)).length

/- Successes of calls started as probes since it last opened. -/
def probeSuccesses (w : World T) : Nat :=
  w.recorded.countP (fun o =>
    o.success && o.probeOf = some w.openings)

variable [Sub T] [LT T] [DecidableLT T]

/- What the contract asks of one step. -/
structure Kept
    (w : World T)
    (a : Action T) : Prop where
  shut : ∀ now t, a = .enter now → w.breaker.state = .open_ →
    w.lastFailure = some t →
    now - t < w.breaker.recoveryTimeout →
    (w.step a).calls = w.calls
  oneProbe : (w.step a).breaker.state ≠ .closed →
    (w.step a).runningProbes ≤ 1
  closes : w.breaker.state = .halfOpen →
    (w.step a).breaker.state = .closed →
    w.breaker.successThreshold ≤ (w.step a).probeSuccesses
  opens : w.breaker.state = .closed →
    (w.step a).breaker.state = .open_ →
    w.breaker.failureThreshold ≤ (w.step a).failuresInARow

end World

end CircuitBreakers

end TrueNorth
