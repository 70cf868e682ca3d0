import TrueNorth.Lib.Runs
import TrueNorth.Fencing.Lease

/-
  Executions of the fenced tasks of one range, and the API's
  steps on its lease, statement by statement
  (worker/fencing.py).

  Every execution has its own thread and a heartbeat thread.
  A thread that reads the row classifies what it read in a
  later step, and a renewal uses the holder that was current
  when the thread took it up, so that steps of the other
  thread, of other executions and of the API land in
  between.

  Key definitions include:
    * `Execution`
    * `Execution.observe`
    * `World`
    * `World.step`
-/

--------
-- Executions
--------

namespace TrueNorth

namespace Fencing

/- Where an execution's own thread is. -/
inductive Place where
-- in `claim`: the upsert is committed, the range's state is
-- to be checked
| checking (leased : Bool)
| running
-- after a soft time limit: `lease.current` to be read, and
-- then the row to be extended
| keeping
| extending (holder : Holder)
-- `release` comes next
| releasing
| ended
deriving DecidableEq

/- Where its heartbeat thread is. -/
inductive Beat where
| waiting
| renewing (holder : Holder)
| reading
| classifying (seen : Option Holder)
| renewingAgain (holder : Holder)
| ended
deriving DecidableEq

/-
  An execution and its `_Lease`.  `sight` is a holder its
  own thread has read and not classified yet.
-/
structure Execution where
  token : Token
  current : Holder
  abandoned : Bool
  lost : Bool
  stopped : Bool
  place : Place
  beat : Beat
  sight : Option (Option Holder)
deriving DecidableEq

inductive Status where
| held
| abandoned
| lost
deriving DecidableEq

namespace Execution

def holder (e : Execution) : Holder :=
  .plain e.token

/- An execution as `_claim_lease` leaves it. -/
def claimed
    (token : Token)
    (leased : Bool) : Execution :=
  { token := token
    current := .plain token
    abandoned := false
    lost := false
    stopped := false
    place := .checking leased
    beat := .ended
    sight := none }

/- `observe`: classify the row's holder. -/
def observe
    (e : Execution)
    (holderNow : Option Holder) : Execution × Status :=
  if holderNow = some e.holder ∧ e.abandoned = false then
    (e, .held)
  else if holderNow = some (tombstone e.holder) then
    ({ e with
        current := tombstone e.holder
        abandoned := true }, .abandoned)
  else
    ({ e with lost := true }, .lost)

end Execution

end Fencing

end TrueNorth

--------
-- Worlds
--------

namespace TrueNorth

namespace Fencing

/-
  A write to the range: by `guarded_range_update`, or a
  reservation after `ensure_held`.  `seen` is the holder its
  transaction read, `atCommit` the row's when it committed.
-/
structure Write where
  task : Nat
  guarded : Bool
  seen : Option Holder
  atCommit : Option Holder
deriving DecidableEq

/- A `keep` that found the row the execution's own. -/
structure Kept where
  token : Token
  time : Nat
deriving DecidableEq

/-
  The range's lease row and its executions, in the order
  they claimed.  `locked` is the execution whose reservation
  holds the range's row lock, with the holder it read.

  `writes`, `kept` and `forced` are the history: what was
  written, which rows were kept, and the owners of the
  tombstones that were force-released.
-/
structure World where
  now : Nat
  row : Option LeaseRow
  tasks : List Execution
  locked : Option (Nat × Option Holder)
  writes : List Write
  kept : List Kept
  forced : List Token
deriving DecidableEq

/- What one execution does. -/
inductive TaskStep where
-- `claim`, after the upsert: the range is in the state, or
-- it is not (or the check raised)
| checked (isInState : Bool)
-- the heartbeat thread
| wake
| renew (time : Nat)
| read
| classify
| renewAgain (time : Nat)
| blip
-- `refresh` and `verify`, in two steps
| look
| observe
-- writes to the range
| guardedRangeUpdate
| reserve
| commit
| rollback
-- the ways the wrapper ends
| softTimeLimit
| takeCurrent
| keep (time : Nat)
| keepFailed
| finish
| release
| releaseFailed
| die
deriving DecidableEq

inductive Step where
| tick (seconds : Nat)
| claim (token : Token) (time : Nat)
| task (i : Nat) (step : TaskStep)
| abandon (action : TaskAction) (legacy : Bool) (time : Nat)
| forceRelease
deriving DecidableEq

namespace World

def fresh : World :=
  { now := 0
    row := none
    tasks := []
    locked := none
    writes := []
    kept := []
    forced := [] }

def tokens (w : World) : List Token :=
  w.tasks.map Execution.token

/- Replace the `i`-th execution. -/
def put
    (w : World)
    (i : Nat)
    (e : Execution) : World :=
  { w with tasks := w.tasks.set i e }

/- Drop the row lock if it is the `i`-th execution's. -/
def unlock
    (w : World)
    (i : Nat) : World :=
  if w.locked.map Prod.fst = some i then
    { w with locked := none }
  else
    w

end World

end Fencing

end TrueNorth

--------
-- Steps
--------

namespace TrueNorth

namespace Fencing

variable (leaseSeconds : Nat)

namespace World

/-
  The heartbeat thread (`_beat`).  It gives up for good only
  where it finds `lost` set at the end of a round.
-/
def beatStep
    (w : World)
    (i : Nat)
    (e : Execution) : TaskStep → World
| .wake =>
    if e.beat = .waiting then
      w.put i
        { e with
          beat :=
            if e.stopped then .ended
            else .renewing e.current }
    else
      w
| .renew time =>
    match e.beat with
    | .renewing holder =>
        if time ≤ w.now then
          match extendLease w.row holder time leaseSeconds with
          | (row, true) =>
              { w with row := row }.put i
                { e with beat := .waiting }
          | (_, false) => w.put i { e with beat := .reading }
        else
          w
    | _ => w
| .read =>
    if e.beat = .reading then
      w.put i
        { e with beat := .classifying (leaseHolder w.row) }
    else
      w
| .classify =>
    match e.beat with
    | .classifying seen =>
        match e.observe seen with
        | (e', .abandoned) =>
            w.put i
              { e' with beat := .renewingAgain e'.current }
        | (e', _) =>
            w.put i
              { e' with
                beat :=
                  if e'.lost then .ended else .waiting }
    | _ => w
| .renewAgain time =>
    match e.beat with
    | .renewingAgain holder =>
        if time ≤ w.now then
          { w with
            row :=
              (extendLease w.row holder time
                leaseSeconds).1 }.put i
            { e with
              beat := if e.lost then .ended else .waiting }
        else
          w
    | _ => w
| .blip =>
    match e.beat with
    | .renewing _ => w.put i { e with beat := .waiting }
    | .reading => w.put i { e with beat := .waiting }
    | .renewingAgain _ => w.put i { e with beat := .waiting }
    | _ => w
| _ => w

/-
  The task's body.  `guarded_range_update` locks the range
  row and the lease row before it reads, so nothing lands
  before its write; a reservation locks the range row only.
-/
def bodyStep
    (w : World)
    (i : Nat)
    (e : Execution) : TaskStep → World
| .look =>
    if e.place = .running ∨ e.place = .releasing then
      w.put i { e with sight := some (leaseHolder w.row) }
    else
      w
| .observe =>
    match e.sight with
    | some seen =>
        w.put i { (e.observe seen).1 with sight := none }
    | none => w
| .guardedRangeUpdate =>
    if e.place = .running ∧ w.locked = none then
      match e.observe (leaseHolder w.row) with
      | (_, .held) =>
          { w with
            writes :=
              w.writes ++
                [{ task := i
                   guarded := true
                   seen := leaseHolder w.row
                   atCommit := leaseHolder w.row }] }
      | (e', _) => w.put i e'
    else
      w
| .reserve =>
    if e.place = .running ∧ w.locked = none then
      match e.observe (leaseHolder w.row) with
      | (_, .held) =>
          { w with locked := some (i, leaseHolder w.row) }
      | (e', _) => w.put i e'
    else
      w
| .commit =>
    match w.locked with
    | some (j, seen) =>
        if i = j then
          { w with
            locked := none
            writes :=
              w.writes ++
                [{ task := i
                   guarded := false
                   seen := seen
                   atCommit := leaseHolder w.row }] }
        else
          w
    | none => w
| .rollback => w.unlock i
| _ => w

/-
  `claim` after its upsert, and the ways out of `fenced`.  A
  soft time limit keeps the lease; every other end releases
  it; a worker that dies does neither.
-/
def wrapperStep
    (w : World)
    (i : Nat)
    (e : Execution) : TaskStep → World
| .checked isInState =>
    match e.place with
    | .checking true =>
        if isInState then
          w.put i
            { e with place := .running, beat := .waiting }
        else
          w.put i { e with place := .releasing }
    | .checking false => w.put i { e with place := .ended }
    | _ => w
| .softTimeLimit =>
    if e.place = .running then
      (w.put i
        { e with
          place := .keeping
          stopped := true
          sight := none }).unlock i
    else
      w
| .takeCurrent =>
    if e.place = .keeping then
      w.put i { e with place := .extending e.current }
    else
      w
| .keep time =>
    match e.place with
    | .extending holder =>
        if time ≤ w.now then
          { w with
            row :=
              (extendLease w.row holder time
                keptLeaseSeconds).1
            kept :=
              if (leaseHolder w.row).map Holder.owner =
                  some e.token then
                ⟨e.token, time⟩ :: w.kept
              else
                w.kept }.put i { e with place := .ended }
        else
          w
    | _ => w
| .keepFailed =>
    match e.place with
    | .extending _ => w.put i { e with place := .ended }
    | _ => w
| .finish =>
    if e.place = .running then
      (w.put i
        { e with
          place := .releasing
          stopped := true }).unlock i
    else
      w
| .release =>
    if e.place = .releasing then
      { w with row := releaseLease w.row e.holder }.put i
        { e with place := .ended }
    else
      w
| .releaseFailed =>
    if e.place = .releasing then
      w.put i { e with place := .ended }
    else
      w
| .die =>
    (w.put i
      { e with
        place := .ended
        beat := .ended
        sight := none }).unlock i
| _ => w

def taskStep
    (w : World)
    (i : Nat)
    (e : Execution)
    (step : TaskStep) : World :=
  match step with
  | .wake => beatStep leaseSeconds w i e step
  | .renew _ => beatStep leaseSeconds w i e step
  | .read => beatStep leaseSeconds w i e step
  | .classify => beatStep leaseSeconds w i e step
  | .renewAgain _ => beatStep leaseSeconds w i e step
  | .blip => beatStep leaseSeconds w i e step
  | .look => w.bodyStep i e step
  | .observe => w.bodyStep i e step
  | .guardedRangeUpdate => w.bodyStep i e step
  | .reserve => w.bodyStep i e step
  | .commit => w.bodyStep i e step
  | .rollback => w.bodyStep i e step
  | _ => w.wrapperStep i e step

/-
  A claim's token is a fresh random one.  The API's steps
  lock the range row first, and so wait for a reservation's
  transaction to end.
-/
def step
    (w : World) : Step → World
| .tick seconds => { w with now := w.now + seconds }
| .claim token time =>
    if token ∉ w.tokens ∧ time ≤ w.now then
      match
        claimLease leaseSeconds w.row (.plain token) time
      with
      | (row, leased) =>
          { w with
            row := row
            tasks := w.tasks ++ [.claimed token leased] }
    else
      w
| .task i step =>
    match w.tasks[i]? with
    | some e => w.taskStep leaseSeconds i e step
    | none => w
| .abandon action legacy time =>
    if w.locked = none ∧ time ≤ w.now then
      { w with
        row :=
          fenceLease leaseSeconds w.row action legacy time }
    else
      w
| .forceRelease =>
    if w.locked = none then
      { w with
        row := forceReleaseTombstone w.row
        forced :=
          match w.row with
          | some r =>
              if r.holder.isTombstone then
                r.holder.owner :: w.forced
              else
                w.forced
          | none => w.forced }
    else
      w

end World

end Fencing

end TrueNorth
