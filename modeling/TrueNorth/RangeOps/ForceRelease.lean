import Mathlib.Algebra.Order.Field.Rat
import Mathlib.Data.List.Sort
import Mathlib.Tactic.Linarith
import TrueNorth.Fencing.Keep
import TrueNorth.Lib.Runs
import TrueNorth.RangeOps.Ledger

/-
  When the tombstone of an abandoned operation may be deleted
  (range_ops/lease_status.py `assess`, range_ops/service.py
  `force_release_tombstone`): a worker that is alive renews
  its lease, or the tombstone, at every heartbeat.

  Key definitions include:
    * `assess`
    * `Blocked.step`
    * `Blocked.Inv`

  Main theorems:
    * `Blocked.step_inv`
    * `Blocked.force_release_safe`
-/

--------
-- The Proof
--------

namespace TrueNorth

namespace RangeOps

open Fencing (Holder LeaseRow TaskAction Token)

inductive LeaseKind where
| none
| task
| tombstone
deriving DecidableEq

/- Why the lease may be released or not. -/
inductive Reason where
| noLease
| heldByTask
| queued
| inFlight
| snapshot (busy : SnapshotBusy)
| unmatched
| renewed
| tooSoon (wait : ℚ)
| lapsed
| stopped
deriving DecidableEq

/- `LeaseStatusOut`; `guidance` goes with a refusal. -/
structure LeaseStatus where
  kind : LeaseKind
  holder : Option Holder
  expiresAt : Option Nat
  blocking : Bool
  inFlight : Option Operation
  abandonedAt : Option Nat
  forceReleaseAllowed : Bool
  reason : Reason
deriving DecidableEq

/- The action a task of it names in its lease's holder. -/
def RangeAction.leased : RangeAction → TaskAction
| .provision => .provision
| .destroy => .destroy
| .stop => .stop
| .start => .start

/- The operation in flight with the greatest generation. -/
def Ledger.busyOp (l : Ledger) : Option Operation :=
  l.inFlight.foldr
    (fun op best =>
      match best with
      | none => some op
      | some b =>
          if op.generation < b.generation then some b
          else some op)
    none

/- `ORDER BY finished_at DESC`, where no time comes first. -/
def finishedLater (a b : Operation) : Bool :=
  match a.finishedAt, b.finishedAt with
  | none, _ => true
  | some _, none => false
  | some x, some y => y ≤ x

/- The operation is of the tombstone's action, if it has one. -/
def Operation.matchesTombstone
    (op : Operation) : Holder → Bool
| .abandoned (.plain token) =>
    token.action.all (fun action => action = op.action.leased)
| _ => false

/- When `_abandoned_operation` was abandoned. -/
def Ledger.abandonedAt
    (l : Ledger)
    (holder : Holder) : Option Nat :=
  (((l.ops.filter (fun op =>
      op.status = .failed && op.matchesTombstone holder)
    ).insertionSort (fun a b => finishedLater a b = true)
    ).take 20).findSome? (fun op =>
      if op.error.any (fun e => e.code = "abandoned") then
        op.finishedAt
      else none)

/-
  `assess`, at the time `now`, with a heartbeat every `beat`
  seconds.
-/
def assess
    (leaseSeconds : Nat)
    (beat : ℚ)
    (now : Nat)
    (l : Ledger)
    (row : Option LeaseRow)
    (busy : Option SnapshotBusy) : LeaseStatus :=
  let l := l.reconcile now
  match row with
  | none =>
      { kind := .none
        holder := none
        expiresAt := none
        blocking := false
        inFlight := l.busyOp
        abandonedAt := none
        forceReleaseAllowed := false
        reason := .noLease }
  | some r =>
      let refused (at' : Option Nat) (reason : Reason) :=
        { kind := .tombstone
          holder := some r.holder
          expiresAt := some r.expiresAt
          blocking := now < r.expiresAt
          inFlight := l.busyOp
          abandonedAt := at'
          forceReleaseAllowed := false
          reason := reason : LeaseStatus }
      if !r.holder.isTombstone then
        { refused none .heldByTask with kind := .task }
      else
        match l.busyOp with
        | some op =>
            refused none
              (if op.status = .held then .queued else .inFlight)
        | none =>
            match busy with
            | some busy => refused none (.snapshot busy)
            | none =>
                match l.abandonedAt r.holder with
                | none => refused none .unmatched
                | some at' =>
                    let wait : ℚ := at' + 2 * beat - now
                    if at' + leaseSeconds + beat / 2 <
                        (r.expiresAt : ℚ) then
                      refused (some at') .renewed
                    else if r.expiresAt ≤ now then
                      { refused (some at') .lapsed with
                        forceReleaseAllowed := true }
                    else if 0 < wait then
                      refused (some at') (.tooSoon wait)
                    else
                      { refused (some at') .stopped with
                        forceReleaseAllowed := true }

theorem busyOp_none
    {l : Ledger}
    (hNone : l.busyOp = none) :
    l.inFlight = [] := by
  unfold Ledger.busyOp at hNone
  cases hOps : l.inFlight with
  | nil => rfl
  | cons op ops =>
      rw [hOps, List.foldr_cons] at hNone
      split at hNone
      · cases hNone
      · split at hNone <;> cases hNone

/- What a status that allows the release has found. -/
theorem assess_allowed
    {leaseSeconds now : Nat}
    {beat : ℚ}
    {l : Ledger}
    {row : Option LeaseRow}
    {busy : Option SnapshotBusy}
    (hAllowed : (assess leaseSeconds beat now l row busy
      ).forceReleaseAllowed = true) :
    (l.reconcile now).inFlight = [] ∧ busy = none ∧
    ∃ r at', row = some r ∧ r.holder.isTombstone = true ∧
      (l.reconcile now).abandonedAt r.holder = some at' ∧
      (r.expiresAt : ℚ) ≤ at' + leaseSeconds + beat / 2 ∧
      (r.expiresAt ≤ now ∨ (at' : ℚ) + 2 * beat ≤ now) := by
  unfold assess at hAllowed
  cases row with
  | none => cases hAllowed
  | some r =>
      dsimp only at hAllowed
      by_cases hTomb : r.holder.isTombstone = true
      · rw [if_neg (by rw [hTomb]; decide)] at hAllowed
        cases hBusy : (l.reconcile now).busyOp with
        | some op =>
            rw [hBusy] at hAllowed
            cases hAllowed
        | none =>
            rw [hBusy] at hAllowed
            cases busy with
            | some busy => cases hAllowed
            | none =>
                cases hAt : (l.reconcile now).abandonedAt
                    r.holder with
                | none =>
                    rw [hAt] at hAllowed
                    cases hAllowed
                | some at' =>
                    rw [hAt] at hAllowed
                    dsimp only at hAllowed
                    split at hAllowed
                    · cases hAllowed
                    · next hKept =>
                        refine ⟨busyOp_none hBusy, rfl, r, at',
                          rfl, hTomb, hAt, not_lt.mp hKept, ?_⟩
                        split at hAllowed
                        · next hLapsed => exact .inl hLapsed
                        · split at hAllowed
                          · cases hAllowed
                          · next hWait =>
                              right
                              linarith [not_lt.mp hWait]
      · rw [if_pos (by simp [hTomb])] at hAllowed
        cases hAllowed

--------
-- Workers, Abandons and Time
--------

open Fencing

/- An execution of a fenced task, and its last renewal. -/
structure Worker where
  token : Token
  running : Bool
  beatAt : Nat
deriving DecidableEq

/- A range's lease, its workers, operations and snapshots. -/
structure Blocked where
  now : Nat
  row : Option LeaseRow
  workers : List Worker
  ledger : Ledger
  busy : Option SnapshotBusy

inductive Happening where
| tick (seconds : Nat)
| claim (token : Token)
-- a renewal, of the lease or of its tombstone
| beat (token : Token)
-- a soft time limit: kept for an hour, and then ended
| keep (token : Token)
| ends (token : Token)
| dies (token : Token)
-- of the API, or what the worker writes of an operation
| operation (step : Step)
| snapshot (busy : Option SnapshotBusy)
| forceRelease

namespace Blocked

def fresh (state : RangeState) : Blocked where
  now := 0
  row := none
  workers := []
  ledger := .empty state
  busy := none

/- The execution of this token is running. -/
def acts
    (w : Blocked)
    (token : Token) : Bool :=
  w.workers.any (fun x => x.token = token && x.running)

/- The row, which lasts at least so long if it is the token's. -/
def renewed
    (w : Blocked)
    (token : Token)
    (seconds : Nat) : Option LeaseRow :=
  match w.row with
  | none => none
  | some r =>
      if r.holder.owner = token then
        (extendLease w.row r.holder w.now seconds).1
      else w.row

def stopped
    (w : Blocked)
    (token : Token) : List Worker :=
  w.workers.map (fun x =>
    if x.token = token then { x with running := false } else x)

/- The row after an abandon has fenced the task's lease. -/
def fenced
    (leaseSeconds : Nat)
    (w : Blocked) : Step → Option LeaseRow
| .abandon id _ now =>
    let l := w.ledger.reconcile now
    match l.find id with
    | some op =>
        if op.inFlight then
          fenceLease leaseSeconds w.row op.action.leased
            (l.inFlight.all (fun o => o.id = id)) w.now
        else w.row
    | none => w.row
| _ => w.row

/- Time goes on only as far as the next heartbeat is due. -/
def step
    (requestHash : RangeAction → Nat)
    (leaseSeconds : Nat)
    (beat : ℚ)
    (w : Blocked) : Happening → Blocked
| .tick seconds =>
    if ∀ x ∈ w.workers, x.running = true →
        ((w.now + seconds : Nat) : ℚ) ≤ x.beatAt + beat then
      { w with now := w.now + seconds }
    else w
| .claim token =>
    match claimLease leaseSeconds w.row (.plain token) w.now with
    | (row, true) =>
        { w with
          row := row
          workers := w.workers ++ [⟨token, true, w.now⟩] }
    | (_, false) => w
| .beat token =>
    if w.acts token then
      { w with
        row := w.renewed token leaseSeconds
        workers := w.workers.map (fun x =>
          if x.token = token then { x with beatAt := w.now }
          else x) }
    else w
| .keep token =>
    if w.acts token then
      { w with
        row := w.renewed token keptLeaseSeconds
        workers := w.stopped token }
    else w
| .ends token =>
    if w.acts token then
      { w with
        row := releaseLease w.row (.plain token)
        workers := w.stopped token }
    else w
| .dies token => { w with workers := w.stopped token }
| .operation step =>
    { w with
      row := w.fenced leaseSeconds step
      ledger := w.ledger.step requestHash step }
| .snapshot busy => { w with busy := busy }
| .forceRelease =>
    if (assess leaseSeconds beat w.now w.ledger w.row
        w.busy).forceReleaseAllowed then
      { w with row := forceReleaseTombstone w.row }
    else w

--------
-- A Worker That Is Alive Is Seen
--------

open Fencing

variable {requestHash : RangeAction → Nat}
variable {leaseSeconds : Nat}
variable {beat : ℚ}
variable {w : Blocked}

/- The lease of a running worker, and when it was renewed. -/
structure Covered
    (leaseSeconds : Nat)
    (beat : ℚ)
    (w : Blocked)
    (x : Worker) : Prop where
  guards : Guards x.token (x.beatAt + leaseSeconds) w.row
  past : x.beatAt ≤ w.now
  timely : (w.now : ℚ) ≤ x.beatAt + beat

def Inv
    (leaseSeconds : Nat)
    (beat : ℚ)
    (w : Blocked) : Prop :=
  ∀ x ∈ w.workers, x.running = true →
    w.Covered leaseSeconds beat x

/- While a worker runs, no status allows the release. -/
theorem Inv.refuses
    (hPos : 0 < beat)
    (hHalf : 2 * beat ≤ leaseSeconds)
    (hInv : w.Inv leaseSeconds beat)
    (hAllowed : (assess leaseSeconds beat w.now w.ledger w.row
      w.busy).forceReleaseAllowed = true) :
    ∀ x ∈ w.workers, x.running = false := by
  intro x hMem
  rw [← Bool.not_eq_true]
  intro hRunning
  rcases hInv x hMem hRunning with
    ⟨⟨r, hRow, _, hExpires⟩, _, hTimely⟩
  rcases assess_allowed hAllowed with
    ⟨_, _, r', at', hRow', _, _, hWritten, hLate⟩
  cases hRow.symm.trans hRow'
  have hLasts : (x.beatAt : ℚ) + leaseSeconds ≤ r.expiresAt := by
    exact_mod_cast hExpires
  rcases hLate with hLapsed | hLate
  · have hPast : (r.expiresAt : ℚ) ≤ w.now := by
      exact_mod_cast hLapsed
    linarith
  · linarith

theorem renewed_other
    {token : Token}
    {till : Nat}
    (hGuards : Guards token till w.row)
    {other : Token}
    (hNe : token ≠ other)
    (seconds : Nat) :
    Guards token till (w.renewed other seconds) := by
  rcases hGuards with ⟨r, hRow, hOwner, hTill⟩
  refine ⟨r, ?_, hOwner, hTill⟩
  unfold renewed
  rw [hRow]
  exact if_neg (by rw [hOwner]; exact hNe)

theorem renewed_own
    {token : Token}
    {till : Nat}
    (hGuards : Guards token till w.row)
    (seconds : Nat) :
    Guards token (w.now + seconds) (w.renewed token seconds) := by
  rcases hGuards with ⟨r, hRow, hOwner, _⟩
  refine ⟨{ r with expiresAt := max r.expiresAt (w.now + seconds) },
    ?_, hOwner, Nat.le_max_right _ _⟩
  simp [renewed, hRow, hOwner, extendLease]

theorem mem_stopped
    {token : Token}
    {x : Worker}
    (hMem : x ∈ w.stopped token)
    (hRunning : x.running = true) :
    x ∈ w.workers ∧ x.token ≠ token := by
  rcases List.mem_map.mp hMem with ⟨y, hY, hEq⟩
  by_cases hToken : y.token = token
  · rw [if_pos hToken] at hEq
    rw [← hEq] at hRunning
    cases hRunning
  · rw [if_neg hToken] at hEq
    rw [← hEq]
    exact ⟨hY, hToken⟩

theorem fenced_guards
    {token : Token}
    {till : Nat}
    (hGuards : Guards token till w.row)
    (hTill : till ≤ w.now + leaseSeconds)
    (step : Step) :
    Guards token till (w.fenced leaseSeconds step) := by
  unfold fenced
  split
  · dsimp only
    split
    · split
      · exact hGuards.fenceLease (fun _ _ _ _ => hTill)
      · exact hGuards
    · exact hGuards
  · exact hGuards

theorem step_inv
    (hPos : 0 < beat)
    (hHalf : 2 * beat ≤ leaseSeconds)
    (w : Blocked)
    (a : Happening)
    (hInv : w.Inv leaseSeconds beat) :
    (w.step requestHash leaseSeconds beat a).Inv leaseSeconds
      beat := by
  cases a with
  | tick seconds =>
      unfold step
      dsimp only
      split
      · next hDue =>
          intro x hMem hRunning
          rcases hInv x hMem hRunning with ⟨hGuards, hPast, _⟩
          exact ⟨hGuards, Nat.le_add_right_of_le hPast,
            hDue x hMem hRunning⟩
      · exact hInv
  | claim token =>
      unfold step
      dsimp only
      split
      · next row hClaim =>
          intro x hMem hRunning
          rcases List.mem_append.mp hMem with hOld | hNew
          · rcases hInv x hOld hRunning with
              ⟨hGuards, hPast, hTimely⟩
            refine ⟨?_, hPast, hTimely⟩
            -- a lease that is renewed in time has not expired
            have hNot : ¬ x.beatAt + leaseSeconds < w.now := by
              intro hExpired
              have hCast : (x.beatAt : ℚ) + leaseSeconds <
                  w.now := by
                exact_mod_cast hExpired
              linarith
            have hRow : Guards x.token (x.beatAt + leaseSeconds)
                (claimLease leaseSeconds w.row (.plain token)
                  w.now).1 :=
              (hGuards.claimLease (.plain token) w.now
                ).resolve_left hNot
            rwa [hClaim] at hRow
          · rw [List.mem_singleton.mp hNew]
            refine ⟨⟨⟨.plain token, w.now + leaseSeconds⟩, ?_,
              rfl, Nat.le_refl _⟩, Nat.le_refl _, ?_⟩
            · unfold claimLease at hClaim
              split at hClaim
              · cases hClaim
                rfl
              · split at hClaim
                · cases hClaim
                  rfl
                · cases hClaim
            · dsimp only
              linarith
      · exact hInv
  | beat token =>
      unfold step
      dsimp only
      split
      · intro x hMem hRunning
        rcases List.mem_map.mp hMem with ⟨y, hY, hEq⟩
        by_cases hToken : y.token = token
        · rw [if_pos hToken] at hEq
          rw [← hEq] at hRunning ⊢
          rcases hInv y hY hRunning with ⟨hGuards, _, _⟩
          rw [hToken] at hGuards
          refine ⟨?_, Nat.le_refl _, ?_⟩
          · dsimp only
            rw [hToken]
            exact renewed_own hGuards leaseSeconds
          · dsimp only
            linarith
        · rw [if_neg hToken] at hEq
          rw [← hEq] at hRunning ⊢
          rcases hInv y hY hRunning with
            ⟨hGuards, hPast, hTimely⟩
          exact ⟨renewed_other hGuards hToken _, hPast, hTimely⟩
      · exact hInv
  | keep token =>
      unfold step
      dsimp only
      split
      · intro x hMem hRunning
        rcases mem_stopped hMem hRunning with ⟨hOld, hToken⟩
        rcases hInv x hOld hRunning with ⟨hGuards, hPast, hTimely⟩
        exact ⟨renewed_other hGuards hToken _, hPast, hTimely⟩
      · exact hInv
  | ends token =>
      unfold step
      dsimp only
      split
      · intro x hMem hRunning
        rcases mem_stopped hMem hRunning with ⟨hOld, hToken⟩
        rcases hInv x hOld hRunning with ⟨hGuards, hPast, hTimely⟩
        exact ⟨hGuards.releaseLease (e := .claimed token true)
          (Ne.symm hToken), hPast, hTimely⟩
      · exact hInv
  | dies token =>
      intro x hMem hRunning
      rcases hInv x (mem_stopped hMem hRunning).1 hRunning with
        ⟨hGuards, hPast, hTimely⟩
      exact ⟨hGuards, hPast, hTimely⟩
  | operation step =>
      intro x hMem hRunning
      rcases hInv x hMem hRunning with ⟨hGuards, hPast, hTimely⟩
      exact ⟨fenced_guards hGuards
        (Nat.add_le_add_right hPast _) step, hPast, hTimely⟩
  | snapshot busy =>
      intro x hMem hRunning
      rcases hInv x hMem hRunning with ⟨hGuards, hPast, hTimely⟩
      exact ⟨hGuards, hPast, hTimely⟩
  | forceRelease =>
      unfold step
      dsimp only
      split
      · next hAllowed =>
          intro x hMem hRunning
          rw [hInv.refuses hPos hHalf hAllowed x hMem] at hRunning
          cases hRunning
      · exact hInv

/-
  Force-release is safe: whatever was abandoned, renewed,
  kept or lapsed before, a status that allows it finds a
  tombstone, no worker running, no operation in flight and no
  snapshot busy; and it deletes the row only under such a
  status.
-/
theorem force_release_safe
    (requestHash : RangeAction → Nat)
    (leaseSeconds : Nat)
    (beat : ℚ)
    (hPos : 0 < beat)
    (hHalf : 2 * beat ≤ leaseSeconds)
    (state : RangeState)
    (happenings : List Happening) :
    let w := Runs.run (step requestHash leaseSeconds beat)
      (fresh state) happenings
    let status := assess leaseSeconds beat w.now w.ledger w.row
      w.busy
    (status.forceReleaseAllowed = true →
      (∀ x ∈ w.workers, x.running = false) ∧
      (w.ledger.reconcile w.now).inFlight = [] ∧
      w.busy = none ∧
      ∃ r, w.row = some r ∧ r.holder.isTombstone = true) ∧
    ((w.step requestHash leaseSeconds beat .forceRelease).row ≠
        w.row →
      status.forceReleaseAllowed = true) := by
  intro w status
  have hInv : w.Inv leaseSeconds beat :=
    Runs.run_invariant (Inv leaseSeconds beat)
      (step_inv hPos hHalf) (fun x hMem => by cases hMem)
      happenings
  constructor
  · intro hAllowed
    rcases assess_allowed hAllowed with
      ⟨hIdle, hBusy, r, _, hRow, hTomb, _⟩
    exact ⟨hInv.refuses hPos hHalf hAllowed, hIdle, hBusy, r,
      hRow, hTomb⟩
  · intro hDeleted
    by_contra hNot
    exact hDeleted (by simp only [step]; rw [if_neg hNot])

/- A worker that dies, an abandon, and two heartbeats. -/
def diesAbandoned : List Happening :=
  [.operation (.accept
      { now := 0, window := none, workerActing := none,
        recordedVms := 0, snapshotBusy := none,
        exerciseRunning := false, poolExhausted := none }
      1 .provision none none),
    .claim ⟨some .provision, 7⟩, .tick 20,
    .beat ⟨some .provision, 7⟩, .dies ⟨some .provision, 7⟩,
    .tick 5, .operation (.abandon 1 "admin" 25), .tick 60]

theorem force_release_safe_dies :
    (assess 180 30
      (Runs.run (step (fun _ => 0) 180 30) (fresh .created)
        diesAbandoned).now
      (Runs.run (step (fun _ => 0) 180 30) (fresh .created)
        diesAbandoned).ledger
      (Runs.run (step (fun _ => 0) 180 30) (fresh .created)
        diesAbandoned).row
      (Runs.run (step (fun _ => 0) 180 30) (fresh .created)
        diesAbandoned).busy).forceReleaseAllowed = true ∧
    ∀ x ∈ (Runs.run (step (fun _ => 0) 180 30) (fresh .created)
      diesAbandoned).workers, x.running = false := by
  have hSafe := force_release_safe (fun _ => 0) 180 30
    (by norm_num) (by norm_num) .created diesAbandoned
  have hAllowed : (assess 180 30
      (Runs.run (step (fun _ => 0) 180 30) (fresh .created)
        diesAbandoned).now
      (Runs.run (step (fun _ => 0) 180 30) (fresh .created)
        diesAbandoned).ledger
      (Runs.run (step (fun _ => 0) 180 30) (fresh .created)
        diesAbandoned).row
      (Runs.run (step (fun _ => 0) 180 30) (fresh .created)
        diesAbandoned).busy).forceReleaseAllowed = true := by
    decide +kernel
  exact ⟨hAllowed, (hSafe.1 hAllowed).1⟩

end Blocked

end RangeOps

end TrueNorth
