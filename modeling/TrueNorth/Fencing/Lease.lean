import TrueNorth.Lib.Leases

/-
  The range's lease row and the statements that change it
  (worker/fencing.py, range_ops/service.py), for one range.

  A holder string is an execution's token or a holder behind
  the prefix `abandoned:`.  A token is `<action>:<nonce>`,
  or a nonce alone, written before holders carried an
  action.  Times are the database's; a statement sees the
  time its transaction began.

  Key definitions include:
    * `Holder`
    * `LeaseRow`
    * `claimLease`
    * `extendLease`
    * `releaseLease`
    * `fenceLease`
    * `rowOf`
-/

--------
-- Holders
--------

namespace TrueNorth

namespace Fencing

/- The actions of the fenced tasks. -/
inductive TaskAction where
| provision
| destroy
| stop
| start
| restore
| confirmTeardown
deriving DecidableEq

structure Token where
  action : Option TaskAction
  nonce : Nat
deriving DecidableEq

inductive Holder where
| plain (token : Token)
| abandoned (holder : Holder)
deriving DecidableEq

def tombstone (holder : Holder) : Holder :=
  .abandoned holder

/- The execution a holder names, behind any prefix. -/
def Holder.owner : Holder → Token
| .plain token => token
| .abandoned holder => holder.owner

def Holder.isTombstone : Holder → Bool
| .plain _ => false
| .abandoned _ => true

/-
  The filter of `fence_lease`: a holder `<action>:...`, or,
  with `legacy`, one without an action.
-/
def Holder.fencedBy
    (action : TaskAction)
    (legacy : Bool) : Holder → Bool
| .plain token =>
    token.action == some action ||
      (legacy && token.action == none)
| .abandoned _ => false

--------
-- Statements
--------

structure LeaseRow where
  holder : Holder
  expiresAt : Nat
deriving DecidableEq

/- How long `keep` holds the lease. -/
def keptLeaseSeconds : Nat := 3600

/- `_claim_lease`: an upsert, and whether it took the row. -/
def claimLease
    (leaseSeconds : Nat)
    (row : Option LeaseRow)
    (holder : Holder)
    (now : Nat) : Option LeaseRow × Bool :=
  match row with
  | none => (some ⟨holder, now + leaseSeconds⟩, true)
  | some r =>
      if r.expiresAt < now then
        (some ⟨holder, now + leaseSeconds⟩, true)
      else
        (some r, false)

/- `_release_lease`: the holder's lease, or its tombstone. -/
def releaseLease
    (row : Option LeaseRow)
    (holder : Holder) : Option LeaseRow :=
  match row with
  | none => none
  | some r =>
      if r.holder = holder ∨ r.holder = tombstone holder then
        none
      else
        some r

/- `_extend_lease`: never shortens; re-takes even expired. -/
def extendLease
    (row : Option LeaseRow)
    (holder : Holder)
    (now seconds : Nat) : Option LeaseRow × Bool :=
  match row with
  | none => (none, false)
  | some r =>
      if r.holder = holder then
        (some
          { r with
            expiresAt := max r.expiresAt (now + seconds) },
          true)
      else
        (some r, false)

/- `_lease_holder`. -/
def leaseHolder
    (row : Option LeaseRow) : Option Holder :=
  row.map LeaseRow.holder

/- `fence_lease`: rename the lease to a tombstone. -/
def fenceLease
    (leaseSeconds : Nat)
    (row : Option LeaseRow)
    (action : TaskAction)
    (legacy : Bool)
    (now : Nat) : Option LeaseRow :=
  match row with
  | none => none
  | some r =>
      if r.holder.fencedBy action legacy then
        some ⟨tombstone r.holder, now + leaseSeconds⟩
      else
        some r

/-
  `force_release_tombstone`, where `assess` allows it: only
  a tombstone is deleted.
-/
def forceReleaseTombstone
    (row : Option LeaseRow) : Option LeaseRow :=
  match row with
  | none => none
  | some r => if r.holder.isTombstone then none else some r

--------
-- The Row as an Abstract Lease
--------

open Leases

/- The row's owner, and whether the lease was renamed. -/
def rowOf
    (row : Option LeaseRow) : Option (Row Token) :=
  row.map (fun r =>
    ⟨r.holder.owner, r.holder.isTombstone, r.expiresAt⟩)

/- The execution's own lease, not renamed, is in the row. -/
abbrev Holds
    (token : Token)
    (row : Option LeaseRow) : Prop :=
  Held token (rowOf row)

/- The execution's lease or tombstone is in the row. -/
abbrev Owns
    (token : Token)
    (row : Option LeaseRow) : Prop :=
  Belongs token (rowOf row)

theorem holds_iff
    {token : Token}
    {row : Option LeaseRow} :
    Holds token row ↔
      leaseHolder row = some (.plain token) := by
  constructor
  · rintro ⟨r, hRow, hOwner, hFenced⟩
    cases row with
    | none => cases hRow
    | some l =>
        cases hRow
        cases hHolder : l.holder with
        | plain t =>
            simp only [hHolder, Holder.owner] at hOwner
            simp [leaseHolder, hHolder, hOwner]
        | abandoned h => simp [hHolder, Holder.isTombstone] at hFenced
  · intro hHolder
    cases row with
    | none => cases hHolder
    | some l =>
        simp only [leaseHolder, Option.map_some,
          Option.some.injEq] at hHolder
        exact ⟨_, rfl, by simp [hHolder, Holder.owner],
          by simp [hHolder, Holder.isTombstone]⟩

theorem owns_iff
    {token : Token}
    {row : Option LeaseRow} :
    Owns token row ↔
      ∃ l, row = some l ∧ l.holder.owner = token := by
  constructor
  · rintro ⟨r, hRow, hOwner⟩
    cases row with
    | none => cases hRow
    | some l =>
        cases hRow
        exact ⟨l, rfl, hOwner⟩
  · rintro ⟨l, rfl, hOwner⟩
    exact ⟨_, rfl, hOwner⟩

variable {leaseSeconds now time : Nat}
variable {fresh : Token → Prop}

theorem claimLease_move
    {token : Token}
    (row : Option LeaseRow)
    (hFresh : fresh token)
    (hTime : time ≤ now) :
    Move now fresh (rowOf row)
      (rowOf
        (claimLease leaseSeconds row (.plain token) time).1)
    := by
  unfold claimLease
  cases row with
  | none =>
      refine .taken none token _ hFresh ?_
      intro r hRow
      cases hRow
  | some r =>
      by_cases hExpired : r.expiresAt < time
      · simp only [if_pos hExpired]
        refine .taken _ token _ hFresh ?_
        intro r' hRow
        cases hRow
        simp only
        omega
      · simp only [if_neg hExpired]
        exact .same _

theorem releaseLease_move
    (row : Option LeaseRow)
    (holder : Holder) :
    Move now fresh (rowOf row)
      (rowOf (releaseLease row holder)) := by
  unfold releaseLease
  cases row with
  | none => exact .same _
  | some r =>
      simp only
      split
      · exact .removed _
      · exact .same _

theorem extendLease_move
    (row : Option LeaseRow)
    (holder : Holder)
    (seconds : Nat) :
    Move now fresh (rowOf row)
      (rowOf (extendLease row holder time seconds).1) := by
  unfold extendLease
  cases row with
  | none => exact .same _
  | some r =>
      simp only
      split
      · exact .extended _ _ (Nat.le_max_left _ _)
      · exact .same _

theorem fenceLease_move
    (row : Option LeaseRow)
    (action : TaskAction)
    (legacy : Bool) :
    Move now fresh (rowOf row)
      (rowOf
        (fenceLease leaseSeconds row action legacy time)) := by
  unfold fenceLease
  cases row with
  | none => exact .same _
  | some r =>
      simp only
      split
      · next hFenced =>
          refine .fenced _ _ ?_
          cases hHolder : r.holder with
          | plain t => simp [hHolder, Holder.isTombstone]
          | abandoned h =>
              simp [hHolder, Holder.fencedBy] at hFenced
      · exact .same _

theorem forceReleaseTombstone_move
    (row : Option LeaseRow) :
    Move now fresh (rowOf row)
      (rowOf (forceReleaseTombstone row)) := by
  unfold forceReleaseTombstone
  cases row with
  | none => exact .same _
  | some r =>
      simp only
      split
      · exact .removed _
      · exact .same _

/- An unexpired row refuses every claim. -/
theorem claimLease_blocked
    {r : LeaseRow}
    (holder : Holder)
    (hTime : time ≤ now)
    (hExpires : now ≤ r.expiresAt) :
    claimLease leaseSeconds (some r) holder time =
      (some r, false) := by
  unfold claimLease
  simp only
  rw [if_neg (by omega)]

end Fencing

end TrueNorth
