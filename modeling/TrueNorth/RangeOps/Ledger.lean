import Mathlib.Data.List.Infix
import TrueNorth.Lib.Runs
import TrueNorth.Fencing.Lease
import TrueNorth.RangeOps.States

/-
  The operation ledger of one range (range_ops/service.py)
  and the worker's hold (worker/maintenance_windows.py).

  A step of the API runs under the range's row lock; a step
  that raises is rolled back.  What a step reads elsewhere
  (the clock, windows, the lease, snapshots, exercises, the
  recorded VMs, the shared networks) comes with the step.

  Key definitions include:
    * `Operation`
    * `Ledger`
    * `Ledger.reconcile`
    * `Ledger.parked`
    * `Ledger.check`
    * `Ledger.accept`
    * `Ledger.dispatch`
    * `Ledger.step`
-/

--------
-- Operations and Ledgers
--------

namespace TrueNorth

namespace RangeOps

/- `op.error`: a code and a message. -/
structure OpError where
  code : String
  message : String
deriving DecidableEq

structure Operation where
  id : Nat
  action : RangeAction
  generation : Nat
  idempotencyKey : Option String
  requestHash : Nat
  windowBypass : Option String
  status : OpStatus
  taskId : Option String
  dispatchAttempts : Nat
  error : Option OpError
  dispatchedAt : Option Nat
  finishedAt : Option Nat
deriving DecidableEq

namespace Operation

def inFlight (op : Operation) : Bool :=
  op.status.inFlight

end Operation

/- A range's row and its operations, oldest first. -/
structure Ledger where
  state : RangeState
  errorMessage : Option String
  ops : List Operation
deriving DecidableEq

/- The ways a step raises. -/
inductive Refusal where
| http (status : Nat) (detail : String)
| valueError (message : String)
| integrityError
deriving DecidableEq

/- A snapshot being taken or restored. -/
inductive SnapshotBusy where
| creating
| restoring
deriving DecidableEq

/- What `accept` reads outside the ledger. -/
structure Surroundings where
  now : Nat
  -- the refusal of a window that covers the range
  window : Option String
  -- the holder of the range's unexpired lease
  workerActing : Option Fencing.Holder
  recordedVms : Nat
  snapshotBusy : Option SnapshotBusy
  exerciseRunning : Bool
  -- the shared networks' refusal of a provision
  poolExhausted : Option String

--------
-- Reconciling
--------

/- `stale_after()` in seconds, at its default. -/
def staleAfter : Nat := 6 * 3600

/- The first 500 characters of a message. -/
def clip (message : String) : String :=
  String.ofList (message.toList.take 500)

/- What a failed range says of itself. -/
def failure (errorMessage : Option String) : String :=
  match errorMessage with
  | none => "The worker reported a failure"
  | some message =>
      if message = "" then "The worker reported a failure"
      else message

/- `reconcile`, for one operation. -/
def Operation.reconcile
    (state : RangeState)
    (errorMessage : Option String)
    (now : Nat)
    (op : Operation) : Operation :=
  if op.status = .dispatched then
    match op.action.outcome state with
    | some outcome =>
        { op with
          status := outcome
          finishedAt := some now
          error :=
            if outcome = .failed then
              some
                { code := "range_failed"
                  message := clip (failure errorMessage) }
            else
              op.error }
    | none =>
        match op.dispatchedAt with
        | some sent =>
            if now - sent > staleAfter ∧ op.error = none then
              -- flagged, but still in flight
              { op with
                error :=
                  some
                    { code := "no_outcome"
                      message :=
                        "No result from the worker 6:00:00 after it was sent. The task may have been lost; check the hypervisor, then abandon the operation if nothing is running." } }
            else
              op
        | none => op
  else
    op

namespace Ledger

def reconcile
    (l : Ledger)
    (now : Nat) : Ledger :=
  { l with
    ops :=
      l.ops.map
        (Operation.reconcile l.state l.errorMessage now) }

/- The operations in flight. -/
def inFlight (l : Ledger) : List Operation :=
  l.ops.filter Operation.inFlight

/- `max(generation) + 1`. -/
def nextGeneration (l : Ledger) : Nat :=
  (l.ops.map Operation.generation).foldr max 0 + 1

/-
  `parked`: a destroy may start although the state does not
  allow one.
-/
def parked
    (l : Ledger)
    (seen : Surroundings) : Bool :=
  if seen.workerActing ≠ none then
    false
  else
    match l.state with
    | .provisioning =>
        !l.inFlight.isEmpty &&
          l.inFlight.all (fun op =>
            op.action == .provision &&
              (op.status == .held || op.status == .pending))
    | .destroying =>
        l.inFlight.isEmpty &&
          decide (heldMarker.toList <:+:
            (l.errorMessage.getD "").toList)
    | _ => false

end Ledger

end RangeOps

end TrueNorth

--------
-- Accepting
--------

namespace TrueNorth

namespace RangeOps

namespace Operation

/- A destroy of the range replaced it. -/
def supersede
    (now : Nat)
    (op : Operation) : Operation :=
  if op.inFlight then
    { op with
      status := .superseded
      finishedAt := some now
      error :=
        some
          { code := "superseded"
            message := "A destroy of the range replaced it" } }
  else
    op

end Operation

namespace Ledger

def conflict
    {α : Type}
    (detail : String) : Except Refusal α :=
  .error (.http 409 detail)

/- Why a worker's lease refuses an action. -/
def workerActingDetail
    (action : RangeAction)
    (holder : Fencing.Holder) : String :=
  "Cannot " ++ action.name ++
    ": a worker is still acting on this range; try again later (" ++
    (if holder.isTombstone then
      "the abandoned operation's worker may still be finishing on the hypervisor. If it is dead this clears within 180 s; if alive, when its work ends, at worst about 1 h 55 min (a hung worker: its 55 min time limit, then 1 h kept); an admin can force-release it once the worker is proven stopped"
    else
      "a dead worker's lease expires within 180 s; abandoning its operation hands the range back once the worker, if alive, has stopped") ++
    ")."

/- The checks of `_check` before the ledger itself. -/
def checkRange
    (l : Ledger)
    (seen : Surroundings)
    (action : RangeAction) : Except Refusal Unit :=
  if !l.state.canTransitionTo action.inProgress &&
      !(action == .destroy && l.parked seen) then
    conflict
      ("Cannot " ++ action.name ++ " range in state " ++
        l.state.value)
  else if (action = .stop ∨ action = .start) ∧
      seen.recordedVms = 0 then
    conflict
      ("Cannot " ++ action.name ++
        ": the range has no VMs recorded")
  else if (action = .stop ∨ action = .start) ∧
      seen.snapshotBusy ≠ none then
    conflict
      ("Cannot " ++ action.name ++
        ": a snapshot of this range is being " ++
        (if seen.snapshotBusy = some .creating then "taken"
        else "restored"))
  else if action = .stop ∧ seen.exerciseRunning then
    conflict
      "Cannot stop: an exercise is running on this range"
  else if action = .provision ∧ seen.recordedVms ≠ 0 then
    conflict
      ("The range still has " ++ toString seen.recordedVms ++
        " VMs from an earlier build; destroy it first")
  else
    match seen.workerActing with
    | some holder =>
        if action = .destroy then
          .ok ()
        else
          conflict (workerActingDetail action holder)
    | none => .ok ()

/-
  `_check`: reconcile, the range's checks, and then a
  destroy supersedes what is in flight; anything else waits
  for it.
-/
def check
    (l : Ledger)
    (seen : Surroundings)
    (action : RangeAction) : Except Refusal Ledger :=
  let l := l.reconcile seen.now
  match l.checkRange seen action with
  | .error refusal => .error refusal
  | .ok () =>
      if action = .destroy then
        .ok
          { l with
            ops := l.ops.map (Operation.supersede seen.now) }
      else
        match l.inFlight with
        | busy :: _ =>
            conflict
              ("A " ++ busy.action.name ++
                " of this range is still in progress (operation " ++
                toString busy.id ++ ")")
        | [] => .ok l

/- The table's primary key and its two unique constraints. -/
def insert
    (l : Ledger)
    (op : Operation) : Except Refusal Ledger :=
  if l.ops.any (fun o =>
      o.id == op.id || o.generation == op.generation ||
        (op.idempotencyKey != none &&
          o.idempotencyKey == op.idempotencyKey)) then
    .error .integrityError
  else
    .ok { l with ops := l.ops ++ [op] }

/-
  The operation a replay of a key returns.  An empty key is
  no key here, although it is recorded as one.
-/
def existing
    (l : Ledger)
    (idempotencyKey : Option String) : Option Operation :=
  match idempotencyKey with
  | none => none
  | some key =>
      if key = "" then
        none
      else
        l.ops.find? (fun op => op.idempotencyKey == some key)

/- The operation `accept` records. -/
def newOperation
    (l : Ledger)
    (requestHash : RangeAction → Nat)
    (id : Nat)
    (action : RangeAction)
    (idempotencyKey windowBypass : Option String) :
    Operation :=
  { id := id
    action := action
    generation := l.nextGeneration
    idempotencyKey := idempotencyKey
    requestHash := requestHash action
    windowBypass := windowBypass
    status := .pending
    taskId := none
    dispatchAttempts := 0
    error := none
    dispatchedAt := none
    finishedAt := none }

/- A bypass is one of a destroy, and of a known kind. -/
def bypassAllowed
    (action : RangeAction)
    (windowBypass : Option String) : Bool :=
  match windowBypass with
  | none => true
  | some kind => action == .destroy && bypassKinds.contains kind

/-
  `accept`: the ledger after it, the operation, and whether
  this call created it.
-/
def accept
    (requestHash : RangeAction → Nat)
    (l : Ledger)
    (seen : Surroundings)
    (id : Nat)
    (action : RangeAction)
    (idempotencyKey windowBypass : Option String) :
    Except Refusal (Ledger × Operation × Bool) :=
  if !bypassAllowed action windowBypass then
    .error
      (.valueError
        ("no maintenance-window bypass '" ++
          windowBypass.getD "" ++ "' for " ++ action.name))
  else
    match l.existing idempotencyKey with
    | some op =>
        if op.requestHash ≠ requestHash action then
          conflict
            "This Idempotency-Key was already used for a different request"
        else
          .ok (l, op, false)
    | none =>
        match
          if action.refusedInside && windowBypass == none then
            seen.window
          else
            none
        with
        | some detail => conflict detail
        | none =>
            match l.check seen action with
            | .error refusal => .error refusal
            | .ok l' =>
                match
                  if action = .provision then
                    seen.poolExhausted
                  else
                    none
                with
                | some detail =>
                    conflict ("Cannot provision: " ++ detail)
                | none =>
                    let op :=
                      l'.newOperation requestHash id action
                        idempotencyKey windowBypass
                    match
                      insert
                        { l' with
                          state := action.inProgress
                          errorMessage := none } op
                    with
                    | .error refusal => .error refusal
                    | .ok l'' => .ok (l'', op, true)

end Ledger

end RangeOps

end TrueNorth

--------
-- Sending, Holding and Ending
--------

namespace TrueNorth

namespace RangeOps

def brokerUnavailable : OpError :=
  { code := "broker_unavailable"
    message :=
      "The task queue is not reachable; the operation is recorded and will be sent when it is." }

namespace Operation

/-
  `_hold_operation`, the worker's hold at a task's entry:
  from `pending` too, where the task arrived before the API
  wrote that it was sent.
-/
def hold
    (why : String)
    (op : Operation) : Operation :=
  if op.status = .pending ∨ op.status = .dispatched then
    { op with
      status := .held
      dispatchedAt := none
      error :=
        some
          { code := "maintenance_window"
            message := clip why } }
  else
    op

/- The status write of `dispatch`, over `sentFrom` only. -/
def sent
    (sentFrom : OpStatus)
    (taskId : Option String)
    (now : Nat)
    (op : Operation) : Operation :=
  if op.status = sentFrom then
    match taskId with
    | some task =>
        { op with
          dispatchAttempts := op.dispatchAttempts + 1
          status := .dispatched
          taskId := some task
          dispatchedAt := some now
          error := none }
    | none =>
        { op with
          dispatchAttempts := op.dispatchAttempts + 1
          error := some brokerUnavailable }
  else
    op

/- `run_destroy_with_bypass`, on the destroy it found. -/
def takeBypass
    (windowBypass : String)
    (force : Bool)
    (op : Operation) : Operation :=
  let op' :=
    if op.windowBypass = none ∨ force then
      { op with windowBypass := some windowBypass }
    else
      op
  if op'.status = .held then
    { op' with
      status := .pending
      error :=
        some
          { code := "bypass"
            message :=
              "Runs now: " ++ windowBypass ++
                " teardown of a held destroy" } }
  else
    op'

/- `abandon`, on an operation in flight. -/
def abandon
    (message : String)
    (now : Nat)
    (op : Operation) : Operation :=
  { op with
    status := .failed
    finishedAt := some now
    error := some { code := "abandoned", message := message } }

end Operation

namespace Ledger

/- Rewrite the operation with this id. -/
def update
    (l : Ledger)
    (id : Nat)
    (f : Operation → Operation) : Ledger :=
  { l with
    ops := l.ops.map (fun op => if op.id = id then f op else op) }

def find
    (l : Ledger)
    (id : Nat) : Option Operation :=
  l.ops.find? (fun op => op.id == id)

/-
  `dispatch`: the send's answer is the task's id, if the
  broker took it; `heldBetween` is a worker's hold that
  lands between the send and the status write.
-/
def dispatch
    (l : Ledger)
    (id : Nat)
    (taskId heldBetween : Option String)
    (now : Nat) : Ledger :=
  match l.find id with
  | none => l
  | some op =>
      if op.status = .pending ∨ op.status = .held then
        let l' :=
          match heldBetween with
          | some why => l.update id (Operation.hold why)
          | none => l
        l'.update id (Operation.sent op.status taskId now)
      else
        l

/- The destroy in flight with the greatest generation. -/
def destroyInFlight (l : Ledger) : Option Operation :=
  (l.inFlight.filter (fun op => op.action == .destroy)).foldr
    (fun op best =>
      match best with
      | none => some op
      | some b =>
          if op.generation < b.generation then some b
          else some op)
    none

def runDestroyWithBypass
    (l : Ledger)
    (windowBypass : String)
    (force : Bool) :
    Except Refusal (Ledger × Option Operation) :=
  if !bypassKinds.contains windowBypass then
    .error
      (.valueError
        ("no maintenance-window bypass '" ++ windowBypass ++
          "'"))
  else
    match l.destroyInFlight with
    | none => .ok (l, none)
    | some op =>
        .ok
          (l.update op.id (Operation.takeBypass windowBypass force),
            some (op.takeBypass windowBypass force))

/-
  `abandon`: an operator's decision that an operation in
  flight will not finish.
-/
def abandon
    (l : Ledger)
    (id : Nat)
    (message : String)
    (now : Nat) : Except Refusal Ledger :=
  let l := l.reconcile now
  match l.find id with
  | none => .error (.http 404 "Operation not found")
  | some op =>
      if op.inFlight then
        let l' := l.update id (Operation.abandon message now)
        if l'.state = op.action.inProgress then
          .ok
            { l' with
              state := .failed
              errorMessage :=
                some
                  (op.action.name ++
                    " abandoned by an operator; check the hypervisor for the VMs' real state") }
        else
          .ok l'
      else
        conflict ("Operation is already " ++ op.status.value)

end Ledger

end RangeOps

end TrueNorth

--------
-- Steps
--------

namespace TrueNorth

namespace RangeOps

inductive Step where
| accept
    (seen : Surroundings)
    (id : Nat)
    (action : RangeAction)
    (idempotencyKey windowBypass : Option String)
| dispatch
    (id : Nat)
    (taskId heldBetween : Option String)
    (now : Nat)
-- the worker's hold of an operation whose task it has
| hold (id : Nat) (why : String)
| reconcile (now : Nat)
| runDestroyWithBypass (windowBypass : String) (force : Bool)
| abandon (id : Nat) (message : String) (now : Nat)
-- the worker reports what it observed
| worker (state : RangeState) (errorMessage : Option String)

namespace Ledger

def step
    (requestHash : RangeAction → Nat)
    (l : Ledger) : Step → Ledger
| .accept seen id action key bypass =>
    match l.accept requestHash seen id action key bypass with
    | .ok (l', _, _) => l'
    | .error _ => l
| .dispatch id taskId heldBetween now =>
    l.dispatch id taskId heldBetween now
| .hold id why => l.update id (Operation.hold why)
| .reconcile now => l.reconcile now
| .runDestroyWithBypass bypass force =>
    match l.runDestroyWithBypass bypass force with
    | .ok (l', _) => l'
    | .error _ => l
| .abandon id message now =>
    match l.abandon id message now with
    | .ok l' => l'
    | .error _ => l
| .worker state errorMessage =>
    { l with state := state, errorMessage := errorMessage }

/- A range with no operations. -/
def empty (state : RangeState) : Ledger :=
  { state := state
    errorMessage := none
    ops := [] }

end Ledger

end RangeOps

end TrueNorth
