import TrueNorth.Lib.Runs
import TrueNorth.RangeCredentials.Accounts

/-
  What the API and the worker do with a range's passwords
  (routers/ranges.py, range_credentials/router.py, worker
  tasks.py and credential_rotation.py, maintenance_windows.py
  `at_entry`).

  An API request and the end of a task, with the signal
  handler that follows it, are each one step.  A change in a
  guest and its verification are one.  Who may ask, windows
  and operations in flight are an answer a request is given.

  Key definitions include:
    * `World.createSnapshot`, `World.restore`
    * `World.rotate`, `World.forceSettle`
    * `World.snapshotEnds`, `World.restoreEnds`
    * `World.rotationEnds`
    * `World.step`
-/

--------
-- Requests
--------

namespace TrueNorth

namespace RangeCredentials

open Checks

inductive Refusal where
| refused
| state
| inProgress
| pending
| notReady
| notRotatable
| notChangeable
| notPending
| notSent
deriving DecidableEq

namespace World

/- `create_snapshot`, under a new id. -/
def createSnapshot
    (w : World)
    (snapshotId : Nat)
    (allowed sent : Bool) : Except Refusal World := do
  refuseIf (!allowed) .refused
  refuseIf (!([.ready, .running, .stopped].contains w.state))
    .state
  refuseIf w.restoring .inProgress
  .ok
    { w with
      snapshots :=
        w.snapshots.set snapshotId
          { state := if sent then .creating else .failed
            rangeStateAtSnapshot := w.state
            recorded := w.onSnapshot
            accepted := w.guest
            contains := none }
      tasks :=
        if sent then .snapshot snapshotId :: w.tasks
        else w.tasks }

/-
  `restore_snapshot`.  A restore whose task is not sent is
  undone.
-/
def restore
    (w : World)
    (snapshotId : Nat)
    (new : Nat → Nat)
    (allowed sent : Bool) : Except Refusal World := do
  refuseIf (!allowed) .refused
  refuseIf
    (!([.ready, .running, .stopped, .failed].contains w.state))
    .state
  refuseIf w.restoring .inProgress
  refuseIf w.anyPending .pending
  match w.snapshots.get? snapshotId with
  | none => .error .notReady
  | some snap => do
      refuseIf (snap.state ≠ .ready) .notReady
      let rows := w.onRestore snap.recorded snapshotId new
      .ok
        (if sent then
          { w with
            rows := rows
            snapshots :=
              w.snapshots.set snapshotId
                { snap with state := .restoring }
            tasks := .restore w.nextRun snapshotId :: w.tasks
            nextRun := w.nextRun + 1 }
        else
          { w with
            rows := undoRotation rows (w.undo rows)
            snapshots := w.snapshots.set snapshotId snap })

/- `rotate`, with the password that it issues. -/
def rotate
    (w : World)
    (credentialId new : Nat)
    (allowed sent : Bool) : Except Refusal World :=
  match w.rows.get? credentialId with
  | none => .error .refused
  | some row => do
      refuseIf (!row.rotatable) .notRotatable
      refuseIf row.pending .pending
      if [.created, .destroyed].contains w.state then
        .ok
          { w with
            rows :=
              w.rows.set credentialId
                { row with password := new, applied := false } }
      else do
        refuseIf (!([.ready, .running].contains w.state)) .state
        refuseIf (!row.changeable) .notChangeable
        refuseIf (!allowed) .refused
        refuseIf w.restoring .inProgress
        let operation := Operation.rotation w.nextRun
        .ok
          { w with
            rows :=
              w.rows.set credentialId
                (row.rotateInPlace row.password operation
                  w.nextRun new)
            tasks :=
              if sent then
                .rotate w.nextRun operation (some credentialId)
                  none :: w.tasks
              else
                w.tasks
            nextRun := w.nextRun + 1 }

/- `force_settle`. -/
def forceSettle
    (w : World)
    (credentialId : Nat) : Except Refusal World :=
  match w.rows.get? credentialId with
  | none => .error .refused
  | some row => do
      refuseIf (!row.pending) .notPending
      .ok
        (w.settleWhere (fun id _ => id = credentialId)
          w.inGuestPassword none)

end World

end RangeCredentials

end TrueNorth

--------
-- Tasks
--------

namespace TrueNorth

namespace RangeCredentials

/- How an attempt to take a snapshot ends. -/
inductive Taking where
| taken
| retried
| failed
deriving DecidableEq

/-
  How an attempt to restore ends: `restored` or `skipped`,
  `held` at entry by a maintenance window, fenced out
  (`lost`), failed and to be tried again, or failed for good,
  where its time limit may have cut it off.  `reverted` are
  the accounts whose VM it reverted.
-/
inductive RestoreResult where
| restored
| skipped
| held
| lost (reverted : Nat → Bool)
| retried (reverted : Nat → Bool)
| failed (reverted : Nat → Bool) (cutOff : Bool)

def RestoreResult.isRestored : RestoreResult → Bool
| .restored => true
| _ => false

namespace World

/- `snapshot_range`, one attempt. -/
def snapshotEnds
    (w : World)
    (snapshotId : Nat)
    (taking : Taking) : World :=
  match w.snapshots.get? snapshotId with
  | none => w
  | some snap =>
      if snap.state ≠ .creating && snap.state ≠ .failed then
        w.finish (.snapshot snapshotId)
      else
        match taking with
        | .taken =>
            { w.finish (.snapshot snapshotId) with
              snapshots :=
                w.snapshots.set snapshotId
                  { snap with
                    state := .ready
                    contains := some w.guest } }
        | .retried =>
            { w with
              snapshots :=
                w.snapshots.set snapshotId
                  { snap with state := .failed } }
        | .failed =>
            { w.finish (.snapshot snapshotId) with
              snapshots :=
                w.snapshots.set snapshotId
                  { snap with state := .failed } }

/- A pending change of an operation, of all accounts or one. -/
def targeted
    (operation : Operation)
    (only : Option Nat)
    (credentialId : Nat)
    (row : RangeCredential) : Bool :=
  row.generated && row.pending &&
    row.pendingOperation = some operation &&
    (only = none || only = some credentialId)

/- The password that a change which failed is put back to. -/
def revertTo
    (w : World)
    (snapshotId : Option Nat)
    (credentialId : Nat)
    (row : RangeCredential) : Nat :=
  ((snapshotId.bind (fun id =>
    (w.snapshots.get? id).bind (fun snap =>
      snap.recorded.get? credentialId))).or
        row.previousPassword).getD row.password

/-
  `rotate_range_credentials`: each account it is for is
  changed in its guest and verified, or put back.
-/
def rotationEnds
    (w : World)
    (run : Nat)
    (operation : Operation)
    (only snapshotId : Option Nat)
    (verified : Nat → Bool) : World :=
  ((w.changeGuests
    (fun id row => targeted operation only id row && verified id)
    (fun _ row => row.password)).settleWhere
      (targeted operation only)
      (fun id row =>
        if verified id then row.password
        else w.revertTo snapshotId id row)
      (some run)).finish
        (.rotate run operation only snapshotId)

/- `roll_back_operation`. -/
def rollBack
    (w : World)
    (run : Nat)
    (operation : Operation) : World :=
  w.settleWhere
    (fun _ row =>
      row.pending && row.pendingOperation = some operation)
    (fun id row => w.revertTo none id row)
    (some run)

/- A revert brings back what the snapshot recorded. -/
def revert
    (w : World)
    (recorded : Dict Nat Nat)
    (reverted : Nat → Bool) : World :=
  w.changeGuests
    (fun id _ => reverted id && (recorded.get? id).isSome)
    (fun id _ => (recorded.get? id).getD (w.guest id))

/- `_RESTORABLE_STATES`. -/
def restorable (w : World) : Bool :=
  [.ready, .running, .stopped, .failed].contains w.state

/- The range stands as it was built. -/
def intact (w : World) : Bool :=
  [.ready, .running, .stopping, .stopped, .starting].contains
    w.state

/-
  A restore failed.  If it had reverted some of the VMs, the
  range matches neither its old state nor the snapshot.
-/
def markFailed
    (w : World)
    (changed cutOff : Bool) : World :=
  { w with
    state :=
      if (changed || cutOff) && w.restorable then .failed
      else w.state
    mixed := w.mixed || changed }

/- Whether any account of the range was reverted. -/
def anyReverted
    (w : World)
    (reverted : Nat → Bool) : Bool :=
  w.rows.entries.any (fun entry => reverted entry.1)

/- The restore task ends, and its snapshot is ready again. -/
def back
    (w : World)
    (run snapshotId : Nat)
    (snap : Snapshot) : World :=
  { w.finish (.restore run snapshotId) with
    snapshots :=
      w.snapshots.set snapshotId { snap with state := .ready } }

/-
  An attempt of `restore_snapshot` ends, and the signal
  handler of the task's end follows.
-/
def restoreEnds
    (w : World)
    (run snapshotId : Nat)
    (result : RestoreResult)
    (sent : Bool) : World :=
  match w.snapshots.get? snapshotId with
  | none => w
  | some snap =>
      let back := w.back run snapshotId snap
      match result with
      | .restored =>
          { back.revert snap.recorded (fun _ => true) with
            state := snap.rangeStateAtSnapshot
            mixed := false
            tasks :=
              if sent then
                .rotate run (.restore snapshotId) none
                  (some snapshotId) :: back.tasks
              else
                back.tasks }
      | .skipped => back.rollBack run (.restore snapshotId)
      | .held => back
      | .lost reverted => back.revert snap.recorded reverted
      | .retried reverted =>
          (w.revert snap.recorded reverted).markFailed
            (w.anyReverted reverted) false
      | .failed reverted cutOff =>
          ((back.revert snap.recorded reverted).markFailed
            (w.anyReverted reverted) cutOff).rollBack run
              (.restore snapshotId)

end World

end RangeCredentials

end TrueNorth

--------
-- Runs
--------

namespace TrueNorth

namespace RangeCredentials

open RangeOps (RangeState)

inductive Action where
| createSnapshot (snapshotId : Nat) (allowed sent : Bool)
| snapshotEnds (snapshotId : Nat) (taking : Taking)
| restore
    (snapshotId : Nat)
    (new : Nat → Nat)
    (allowed sent : Bool)
| restoreEnds
    (run snapshotId : Nat)
    (result : RestoreResult)
    (sent : Bool)
| rotate (credentialId new : Nat) (allowed sent : Bool)
| rotationEnds
    (run : Nat)
    (operation : Operation)
    (only snapshotId : Option Nat)
    (verified : Nat → Bool)
| forceSettle (credentialId : Nat)
| operate (state : RangeState)

namespace World

/- A refused request changes nothing. -/
def settle
    (w : World) :
    Except Refusal World → World
| .ok w' => w'
| .error _ => w

/- No task of the operation of the account's change runs. -/
def quiet
    (w : World)
    (credentialId : Nat) : Bool :=
  match w.rows.get? credentialId with
  | none => true
  | some row =>
      w.tasks.all (fun task =>
        row.pendingOperation = none ||
          task.operation ≠ row.pendingOperation)

/-
  What another operation may make of the range's state: it
  is not built again, one that failed is not mended, and
  beside a restore it can only be torn down.
-/
def operable
    (w : World) :
    RangeState → Bool
| .destroying => true
| .failed => !w.restoring
| .created => false
| .provisioning => false
| .destroyed => false
| _ => w.intact && !w.restoring

/-
  A task ends once, and only if it was sent; a restore ends
  restored only from a state it is made in.  An admin settles
  a change only when no task of it is running.
-/
def step
    (w : World) :
    Action → World
| .createSnapshot snapshotId allowed sent =>
    if (w.snapshots.get? snapshotId).isSome then w
    else w.settle (w.createSnapshot snapshotId allowed sent)
| .snapshotEnds snapshotId taking =>
    if w.tasks.contains (.snapshot snapshotId) then
      w.snapshotEnds snapshotId taking
    else
      w
| .restore snapshotId new allowed sent =>
    w.settle (w.restore snapshotId new allowed sent)
| .restoreEnds run snapshotId result sent =>
    if w.tasks.contains (.restore run snapshotId) &&
        (!result.isRestored || w.restorable) then
      w.restoreEnds run snapshotId result sent
    else
      w
| .rotate credentialId new allowed sent =>
    w.settle (w.rotate credentialId new allowed sent)
| .rotationEnds run operation only snapshotId verified =>
    if w.tasks.contains
        (.rotate run operation only snapshotId) then
      w.rotationEnds run operation only snapshotId verified
    else
      w
| .forceSettle credentialId =>
    if w.quiet credentialId then
      w.settle (w.forceSettle credentialId)
    else
      w
| .operate state =>
    if w.operable state then { w with state := state } else w

end World

end RangeCredentials

end TrueNorth
