import TrueNorth.LabSessions.Tasks

/-
  The outbox of one lab session: its lease, its pending tasks
  and the processes that run operations on it
  (lab_sessions/service.py `_send`, `flush_outbox`, `claim`,
  `_keep`, `launch`, `advance`, `run_locked`;
  routers/lab_sessions.py).

  A process works in transactions.  The row that one of them
  has written stays locked until it ends, and what it wrote
  is seen by the others once it commits.  A process keeps the
  session it has read in memory, from one transaction to the
  next.

  Key definitions include:
    * `Row`
    * `Phase`
    * `World.claim`, `World.commit`
    * `World.flush`, `World.send`, `World.finish`
    * `World.step`
-/

--------
-- Rows
--------

namespace TrueNorth

namespace LabSessions

namespace Outbox

/- `LEASE_SECONDS`. -/
def leaseSeconds : Nat := 120

/-
  A task that waits to be sent.  `position` is its place in
  all that was ever queued, which no code reads.
-/
structure Queued where
  position : Nat
  call : Call
deriving DecidableEq

/- What the outbox reads and writes of a `LabSession`. -/
structure Row where
  pending : List Queued
  leaseUntil : Option Nat
  leaseHolder : Option Nat
  stateSince : Nat
  error : String
deriving DecidableEq

namespace Row

/- No process holds the lease, or not any more. -/
def free
    (row : Row)
    (now : Nat) : Bool :=
  match row.leaseUntil with
  | none => true
  | some leaseUntil => leaseUntil < now

/- The lease, taken by a run or renewed. -/
def leased
    (row : Row)
    (token now : Nat) : Row :=
  { row with
    leaseUntil := some (now + leaseSeconds)
    leaseHolder := some token }

def released (row : Row) : Row :=
  { row with
    leaseUntil := none
    leaseHolder := none }

/- `_keep`: only the run that holds the lease may write it. -/
def keep
    (row : Row)
    (token now : Nat) : Option Row :=
  if row.leaseHolder = some token then
    some (row.leased token now)
  else
    none

/- `_keep(release=True)`. -/
def keepReleased
    (row : Row)
    (token : Nat) : Option Row :=
  if row.leaseHolder = some token then some row.released
  else none

/- `_send`. -/
def send
    (row : Row)
    (queued : Queued) : Row :=
  { row with pending := row.pending ++ [queued] }

end Row

end Outbox

end LabSessions

end TrueNorth

--------
-- Processes
--------

namespace TrueNorth

namespace LabSessions

namespace Outbox

/-
  Where a process is in its run, with the session as it has
  it in memory and the token of its lease:

  * `working`: the transaction that took the lease and runs
    the operation is open; `asked` are the tasks it queued,
  * `committed`: that transaction is committed,
  * `sending`: the transaction of `flush_outbox` is open.
-/
inductive Phase where
| idle
| working
    (session : Row)
    (token : Nat)
    (asked : List Queued)
    (resent : Bool)
| committed (session : Row) (token : Nat) (resent : Bool)
| sending
    (session : Row)
    (token : Nat)
    (left kept : List Queued)
    (sent resent : Bool)
deriving DecidableEq

/- A transaction of the process has the row locked. -/
def Phase.locks : Phase → Bool
| .working .. => true
| .sending .. => true
| _ => false

/- The token of the lease that the process took. -/
def Phase.token : Phase → Option Nat
| .idle => none
| .working _ token .. => some token
| .committed _ token _ => some token
| .sending _ token .. => some token

/- The lease as the process has written or read it. -/
def Phase.leaseHolder : Phase → Option Nat
| .idle => none
| .working session .. => session.leaseHolder
| .committed session .. => session.leaseHolder
| .sending session .. => session.leaseHolder

/-
  `queued`, `sent` and `refused` are what happened: what
  committed transactions queued, what the broker took, in
  this order and as often as it did, and what was dropped.
-/
structure World where
  now : Nat
  row : Option Row
  lock : Option Nat
  procs : Nat → Phase
  nextToken : Nat
  queued : List Queued
  sent : List Queued
  refused : List Queued

namespace World

/- Before the lab is launched. -/
def fresh : World where
  now := 0
  row := none
  lock := none
  procs _ := .idle
  nextToken := 0
  queued := []
  sent := []
  refused := []

def setProc
    (w : World)
    (p : Nat)
    (phase : Phase) : World :=
  { w with
    procs := fun q => if q = p then phase else w.procs q }

/- The tasks that the committed row has pending. -/
def pending (w : World) : List Queued :=
  match w.row with
  | none => []
  | some row => row.pending

/-
  Who holds the lease: as the process sees it that has the
  row locked, or else as it is committed.
-/
def leaseHolder (w : World) : Option Nat :=
  match w.lock with
  | some p => (w.procs p).leaseHolder
  | none => w.row.bind Row.leaseHolder

/- The positions of tasks that are queued from now on. -/
def positioned
    (w : World)
    (asked : List Queued)
    (task : LabTask) : Queued where
  position := w.queued.length + asked.length
  call := task.call

--------
-- Operations
--------

/- An operation's calls of `_send`, one after the other. -/
def sendAll
    (w : World) :
    Row → List Queued → List LabTask → Row × List Queued
| session, asked, [] => (session, asked)
| session, asked, task :: tasks =>
    let queued := w.positioned asked task
    w.sendAll (session.send queued) (asked ++ [queued]) tasks

/- `launch` adds the row, with the lease of its own run. -/
def launch
    (w : World)
    (p : Nat)
    (tasks : List LabTask) : World :=
  match w.row, w.lock, w.procs p with
  | none, none, .idle =>
      let session : Row :=
        { pending := []
          leaseUntil := some (w.now + leaseSeconds)
          leaseHolder := some w.nextToken
          stateSince := w.now
          error := "" }
      let (session, asked) := w.sendAll session [] tasks
      { w.setProc p (.working session w.nextToken asked false) with
        lock := some p
        nextToken := w.nextToken + 1 }
  | _, _, _ => w

/-
  `claim`, at the time the process read: the row is written
  if the lease is free, once no other has it locked.
-/
def claim
    (w : World)
    (p read : Nat) : World :=
  match w.row, w.lock, w.procs p with
  | some row, none, .idle =>
      if row.free read then
        { w.setProc p
            (.working (row.leased w.nextToken read) w.nextToken []
              false) with
          lock := some p
          nextToken := w.nextToken + 1 }
      else
        w
  | _, _, _ => w

/- An operation other than `advance`. -/
def operate
    (w : World)
    (p : Nat)
    (tasks : List LabTask) : World :=
  match w.procs p with
  | .working session token asked resent =>
      let (session, asked) := w.sendAll session asked tasks
      w.setProc p (.working session token asked resent)
  | _ => w

/-
  `advance`: tasks that are left are sent first, and no step
  is taken that assumes they went out.
-/
def advance
    (w : World)
    (p : Nat)
    (tasks : List LabTask) : World :=
  match w.procs p with
  | .working session token asked resent =>
      if session.pending = [] then
        let (session, asked) := w.sendAll session asked tasks
        w.setProc p (.working session token asked resent)
      else
        w.setProc p (.working session token asked true)
  | _ => w

/-
  The operation is refused: what it did is rolled back, and
  the lease given up.
-/
def refuse
    (w : World)
    (p : Nat) : World :=
  match w.procs p with
  | .working .. =>
      { w.setProc p .idle with
        row := w.row.map Row.released
        lock := none }
  | _ => w

/-
  `run_locked` keeps its lease and commits, or rolls back
  when another has it.  A launch, whose row no other process
  has seen, only commits.
-/
def commit
    (w : World)
    (p read : Nat) : World :=
  match w.procs p with
  | .working session token asked resent =>
      match w.row with
      | none =>
          { w.setProc p (.committed session token resent) with
            row := some session
            lock := none
            queued := w.queued ++ asked }
      | some _ =>
          match session.keep token read with
          | none =>
              { w.setProc p .idle with lock := none }
          | some session =>
              { w.setProc p (.committed session token resent) with
                row := some session
                lock := none
                queued := w.queued ++ asked }
  | _ => w

--------
-- Sending
--------

/-
  `flush_outbox` renews the lease, once no other has the row
  locked, or sends nothing when another took it.
-/
def flush
    (w : World)
    (p read : Nat) : World :=
  match w.procs p, w.lock, w.row with
  | .committed session token resent, none, some row =>
      match row.keep token read with
      | none => w.setProc p .idle
      | some _ =>
          { w.setProc p
              (.sending (session.leased token read) token
                session.pending [] false resent) with
            lock := some p }
  | _, _, _ => w

/-
  The next task.  One that the broker does not take is kept,
  with all behind it; one that the contract refuses is
  dropped, and said on the session.
-/
def send
    (w : World)
    (p : Nat)
    (accepted : Bool) : World :=
  match w.procs p with
  | .sending session token (task :: left) kept sent resent =>
      if kept ≠ [] then
        w.setProc p
          (.sending session token left (kept ++ [task]) sent
            resent)
      else
        match validateArgs task.call with
        | .error e =>
            let error := "internal error: the " ++
              task.call.task ++ " task was refused (" ++ e ++ ")"
            { w.setProc p
                (.sending
                  { session with
                    error := String.ofList (error.toList.take 2000) }
                  token left kept sent resent) with
              refused := w.refused ++ [task] }
        | .ok () =>
            if accepted then
              { w.setProc p
                  (.sending session token left kept true resent)
                  with
                sent := w.sent ++ [task] }
            else
              w.setProc p
                (.sending session token left (kept ++ [task]) sent
                  resent)
  | _ => w

/-
  All are sent or kept: the rest is written to the session,
  and its lease given up.
-/
def finish
    (w : World)
    (p : Nat) : World :=
  match w.procs p with
  | .sending session token [] kept sent resent =>
      let session : Row :=
        { session with
          pending := kept
          stateSince :=
            if sent && resent then w.now else session.stateSince }
      { w.setProc p .idle with
        row := some ((session.keepReleased token).getD session)
        lock := none }
  | _ => w

/- The sending is cut short, and `finally` commits. -/
def interrupt
    (w : World)
    (p : Nat) : World :=
  match w.procs p with
  | .sending session .. =>
      { w.setProc p .idle with
        row := some session
        lock := none }
  | _ => w

/- The process dies: its open transaction is rolled back. -/
def crash
    (w : World)
    (p : Nat) : World :=
  { w.setProc p .idle with
    lock := if w.lock = some p then none else w.lock }

end World

inductive Action where
| tick (seconds : Nat)
| launch (p : Nat) (tasks : List LabTask)
| claim (p read : Nat)
| operate (p : Nat) (tasks : List LabTask)
| advance (p : Nat) (tasks : List LabTask)
| refuse (p : Nat)
| commit (p read : Nat)
| flush (p read : Nat)
| send (p : Nat) (accepted : Bool)
| finish (p : Nat)
| interrupt (p : Nat)
| crash (p : Nat)

/- The process that takes the step. -/
def Action.process : Action → Option Nat
| .tick _ => none
| .launch p _ => some p
| .claim p _ => some p
| .operate p _ => some p
| .advance p _ => some p
| .refuse p => some p
| .commit p _ => some p
| .flush p _ => some p
| .send p _ => some p
| .finish p => some p
| .interrupt p => some p
| .crash p => some p

def World.step
    (w : World) :
    Action → World
| .tick seconds => { w with now := w.now + seconds }
| .launch p tasks => w.launch p tasks
| .claim p read => w.claim p read
| .operate p tasks => w.operate p tasks
| .advance p tasks => w.advance p tasks
| .refuse p => w.refuse p
| .commit p read => w.commit p read
| .flush p read => w.flush p read
| .send p accepted => w.send p accepted
| .finish p => w.finish p
| .interrupt p => w.interrupt p
| .crash p => w.crash p

end Outbox

end LabSessions

end TrueNorth
