import TrueNorth.Lib.Checks
import TrueNorth.Lib.Dict
import TrueNorth.RangeOps.States

/-
  The accounts of one built range, its snapshots, and what
  its guests have (range_credentials/models.py,
  range_credentials/service.py, worker db_ops
  `settle_credential_change`).

  A machine has one VM, so that an account is in one guest.
  Passwords are opaque; a sealed value is the password it
  seals.

  Key definitions include:
    * `RangeCredential`
    * `Snapshot`
    * `World`
    * `World.onSnapshot`
    * `World.onRestore`, `World.undoRotation`
    * `World.inGuestPassword`
    * `World.settleWhere`
-/

--------
-- Accounts
--------

namespace TrueNorth

namespace RangeCredentials

/- An admin rotation's own id, or `restore:<snapshot>`. -/
inductive Operation where
| rotation (id : Nat)
| restore (snapshotId : Nat)
deriving DecidableEq

structure RangeCredential where
  generated : Bool
  scenario : Bool
  studentVisible : Bool
  -- `guest_change_refusal` has no reason against it
  changeable : Bool
  password : Nat
  previousPassword : Option Nat
  pendingOperation : Option Operation
  applied : Bool
  -- which acceptance made the pending change; no code reads it
  run : Nat
deriving DecidableEq

namespace RangeCredential

/- A change is being applied in the guests. -/
def pending (row : RangeCredential) : Bool :=
  row.previousPassword.isSome

/- `rotatable`: generated, and not a scenario account's. -/
def rotatable (row : RangeCredential) : Bool :=
  row.generated && !row.scenario

/- The account's password is never changed in a guest. -/
def fixed (row : RangeCredential) : Bool :=
  !(row.rotatable && row.changeable)

/- `_rotate_in_place`, with the new password. -/
def rotateInPlace
    (row : RangeCredential)
    (guestHas : Nat)
    (operation : Operation)
    (run new : Nat) : RangeCredential :=
  { row with
    previousPassword := some guestHas
    pendingOperation := some operation
    password := new
    applied := false
    run := run }

/- What a settled change leaves. -/
def settled
    (row : RangeCredential)
    (password : Nat) : RangeCredential :=
  { row with
    password := password
    previousPassword := none
    pendingOperation := none
    applied := true }

end RangeCredential

end RangeCredentials

end TrueNorth

--------
-- Ranges
--------

namespace TrueNorth

namespace RangeCredentials

open RangeOps (RangeState)

inductive SnapshotState where
| creating
| ready
| failed
| restoring
deriving DecidableEq

/-
  `accepted` and `contains` are what happened, which no code
  reads: the passwords of the guests as the snapshot was
  accepted, and as the hypervisor took it.
-/
structure Snapshot where
  state : SnapshotState
  rangeStateAtSnapshot : RangeState
  recorded : Dict Nat Nat
  accepted : Nat → Nat
  contains : Option (Nat → Nat)

/- A worker task that was sent and has not ended. -/
inductive Task where
| snapshot (snapshotId : Nat)
| restore (run snapshotId : Nat)
| rotate
    (run : Nat)
    (operation : Operation)
    (credentialId : Option Nat)
    (snapshotId : Option Nat)
deriving DecidableEq

/- The acceptance that a change goes back to. -/
def Task.run : Task → Option Nat
| .snapshot _ => none
| .restore run _ => some run
| .rotate run .. => some run

/- The operation a task carries. -/
def Task.operation : Task → Option Operation
| .snapshot _ => none
| .restore _ snapshotId => some (.restore snapshotId)
| .rotate _ operation .. => some operation

/-
  A change that was settled: of which account, made by which
  acceptance, and settled by a task of which, or by an admin.
-/
structure Settlement where
  credentialId : Nat
  run : Nat
  settledBy : Option Nat
deriving DecidableEq

def Settlement.change (e : Settlement) : Nat × Nat :=
  (e.credentialId, e.run)

/-
  `guest`: the password that the guest of an account has.
  `mixed`: a restore failed that had reverted some of the
  VMs, and none has restored them all since; no code reads
  it, and the code marks such a range `failed`.
-/
structure World where
  state : RangeState
  rows : Dict Nat RangeCredential
  snapshots : Dict Nat Snapshot
  guest : Nat → Nat
  mixed : Bool
  tasks : List Task
  nextRun : Nat
  log : List Settlement

/-
  An account as a build left it: set and verified in its
  guest, or not, and what the guest has then.
-/
structure BuiltAccount where
  generated : Bool
  scenario : Bool
  studentVisible : Bool
  changeable : Bool
  password : Nat
  applied : Bool
  otherwise : Nat
deriving DecidableEq

namespace BuiltAccount

def row (a : BuiltAccount) : RangeCredential :=
  { generated := a.generated
    scenario := a.scenario
    studentVisible := a.studentVisible
    changeable := a.changeable
    password := a.password
    previousPassword := none
    pendingOperation := none
    applied := a.applied
    run := 0 }

def inGuest (a : BuiltAccount) : Nat :=
  if a.applied then a.password else a.otherwise

end BuiltAccount

/- A range that was just built. -/
def World.built
    (accounts : Dict Nat BuiltAccount) : World where
  state := .ready
  rows := accounts.mapValues (fun _ a => a.row)
  snapshots := .empty
  guest credentialId :=
    ((accounts.get? credentialId).map
      BuiltAccount.inGuest).getD 0
  mixed := false
  tasks := []
  nextRun := 0
  log := []

end RangeCredentials

end TrueNorth

--------
-- Passwords
--------

namespace TrueNorth

namespace RangeCredentials

namespace World

/- `on_snapshot`: the passwords recorded at acceptance. -/
def onSnapshot (w : World) : Dict Nat Nat :=
  w.rows.mapValues (fun _ row =>
    row.previousPassword.getD row.password)

/- `any_pending`. -/
def anyPending (w : World) : Bool :=
  w.rows.entries.any (fun entry => entry.2.pending)

/- A restore of the range is in progress. -/
def restoring (w : World) : Bool :=
  w.snapshots.entries.any (fun entry =>
    entry.2.state = .restoring)

/- What a restore changes of one account. -/
def restoreRow
    (recorded : Dict Nat Nat)
    (snapshotId run : Nat)
    (new : Nat → Nat)
    (credentialId : Nat)
    (row : RangeCredential) : RangeCredential :=
  if !row.rotatable || !row.applied || !row.changeable then
    row
  else if row.studentVisible then
    row.rotateInPlace row.password (.restore snapshotId) run
      (new credentialId)
  else if (recorded.get? credentialId).getD row.password ≠
      row.password then
    row.rotateInPlace row.password (.restore snapshotId) run
      row.password
  else
    row

/- `on_restore`; `new` are the passwords that it issues. -/
def onRestore
    (w : World)
    (recorded : Dict Nat Nat)
    (snapshotId : Nat)
    (new : Nat → Nat) : Dict Nat RangeCredential :=
  w.rows.mapValues (restoreRow recorded snapshotId w.nextRun new)

/- What `on_restore` changed, as it was. -/
def undo
    (w : World)
    (rows : Dict Nat RangeCredential) :
    List (Nat × RangeCredential) :=
  w.rows.entries.filter (fun entry =>
    rows.get? entry.1 ≠ some entry.2)

/- `undo_rotation`. -/
def undoRotation
    (rows : Dict Nat RangeCredential)
    (undo : List (Nat × RangeCredential)) :
    Dict Nat RangeCredential :=
  rows.mapValues (fun credentialId row =>
    ((undo.find? (fun entry =>
      entry.1 = credentialId)).map Prod.snd).getD row)

/- `in_guest_password`. -/
def inGuestPassword
    (w : World)
    (credentialId : Nat)
    (row : RangeCredential) : Nat :=
  match row.previousPassword with
  | none => row.password
  | some previous =>
      match row.pendingOperation with
      | some (.restore snapshotId) =>
          match w.snapshots.get? snapshotId with
          | none => previous
          | some snap =>
              if snap.state = .restoring then previous
              else (snap.recorded.get? credentialId).getD previous
      | _ => previous

/-
  The changes that `which` picks are settled, with the
  passwords that are the accounts' from then on.
-/
def settleWhere
    (w : World)
    (which : Nat → RangeCredential → Bool)
    (password : Nat → RangeCredential → Nat)
    (settledBy : Option Nat) : World :=
  { w with
    rows :=
      w.rows.mapValues (fun credentialId row =>
        if which credentialId row then
          row.settled (password credentialId row)
        else
          row)
    log :=
      w.log ++
        (w.rows.entries.filter (fun entry =>
          which entry.1 entry.2)).map (fun entry =>
            ⟨entry.1, entry.2.run, settledBy⟩) }

/- The guests of the accounts that `which` picks change. -/
def changeGuests
    (w : World)
    (which : Nat → RangeCredential → Bool)
    (password : Nat → RangeCredential → Nat) : World :=
  { w with
    guest := fun credentialId =>
      match w.rows.get? credentialId with
      | none => w.guest credentialId
      | some row =>
          if which credentialId row then
            password credentialId row
          else
            w.guest credentialId }

def finish
    (w : World)
    (task : Task) : World :=
  { w with tasks := w.tasks.filter (· ≠ task) }

end World

end RangeCredentials

end TrueNorth
