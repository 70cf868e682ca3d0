import TrueNorth.LabSessions.Lifecycle
import TrueNorth.Lib.Runs

/-
  The networks of a lab are its own until its machines are
  gone.

  An operation leaves the leases as they are, or leases free
  port groups to its session, or gives all of the session's
  port groups back; it does the last only once the session
  has no range that could still be on them.

  Key definitions include:
    * `holder`
    * `Op.Keeps`
    * `Op.Outcome`
    * `World.Sound`
    * `World.MayRelease`
-/

--------
-- Holders
--------

namespace TrueNorth

namespace LabSessions

namespace Lifecycle

/- The session that a port group is leased to. -/
def holder
    (leases : Dict String NetworkLease)
    (portGroup : String) : Option Nat :=
  (leases.get? portGroup).bind NetworkLease.sessionId

theorem holder_set
    (leases : Dict String NetworkLease)
    (portGroup portGroup' : String)
    (lease : NetworkLease) :
    holder (leases.set portGroup lease) portGroup' =
      if portGroup' = portGroup then lease.sessionId
      else holder leases portGroup' := by
  unfold holder
  rw [Dict.get?_set]
  by_cases hSame : portGroup' = portGroup
  · rw [if_pos hSame, if_pos hSame, Option.bind_some]
  · rw [if_neg hSame, if_neg hSame]

namespace Op

/- A port group without a row is leased to no one. -/
theorem holder_pool
    (cfg : Settings)
    (leases : Dict String NetworkLease)
    (portGroup : String) :
    holder (pool cfg leases) portGroup =
      holder leases portGroup := by
  unfold holder pool Dict.setdefaults
  rw [Dict.get?_update]
  cases hOld : leases.get? portGroup with
  | some lease => rfl
  | none =>
      rw [Option.none_or, Option.bind_none]
      cases hNew :
          (Dict.collect cfg.portGroups
            (fun _ => some (⟨none, ""⟩ : NetworkLease))).get?
              portGroup with
      | none => rfl
      | some lease =>
          rcases Dict.get?_collect.mp hNew with ⟨_, hLease⟩
          cases hLease
          rfl

theorem holder_freePortGroups
    {cfg : Settings}
    {leases : Dict String NetworkLease}
    {portGroup : String}
    (hFree : portGroup ∈ freePortGroups cfg leases) :
    holder leases portGroup = none := by
  unfold freePortGroups at hFree
  rw [List.mem_mergeSort] at hFree
  rcases List.mem_map.mp hFree with ⟨⟨_, lease⟩, hRow, rfl⟩
  rw [List.mem_filter, Bool.and_eq_true,
    decide_eq_true_eq] at hRow
  rcases hRow with ⟨hRow, hNone, _⟩
  unfold holder
  rw [Dict.get?_eq_some_iff.mpr hRow, Option.bind_some]
  exact hNone

/- Free port groups that are leased to one session. -/
theorem holder_foldl_set
    {id : Nat}
    {pairs : List (String × String)}
    {leases : Dict String NetworkLease}
    (hFree : ∀ pair ∈ pairs,
      holder leases pair.1 = none ∨
        holder leases pair.1 = some id)
    (portGroup : String) :
    let leases' :=
      pairs.foldl
        (fun leases pair =>
          leases.set pair.1 ⟨some id, pair.2⟩)
        leases
    holder leases' portGroup = holder leases portGroup ∨
      (holder leases portGroup = none ∧
        holder leases' portGroup = some id) := by
  induction pairs generalizing leases with
  | nil => exact .inl rfl
  | cons pair pairs ih =>
      have hNext : ∀ pair' ∈ pairs,
          holder (leases.set pair.1 ⟨some id, pair.2⟩)
              pair'.1 = none ∨
            holder (leases.set pair.1 ⟨some id, pair.2⟩)
              pair'.1 = some id := by
        intro pair' hMem
        rw [holder_set]
        by_cases hSame : pair'.1 = pair.1
        · rw [if_pos hSame]
          exact .inr rfl
        · rw [if_neg hSame]
          exact hFree pair' (List.mem_cons_of_mem _ hMem)
      have hRest := ih hNext
      rw [holder_set] at hRest
      by_cases hSame : portGroup = pair.1
      · rw [if_pos hSame] at hRest
        have hTaken :
            holder
                ((pair :: pairs).foldl
                  (fun leases pair =>
                    leases.set pair.1 ⟨some id, pair.2⟩)
                  leases) portGroup = some id := by
          rcases hRest with hRest | ⟨_, hRest⟩
          · exact hRest
          · exact hRest
        rcases hFree pair List.mem_cons_self with
          hNone | hOwn
        · right
          rw [hSame] at hTaken ⊢
          exact ⟨hNone, hTaken⟩
        · left
          rw [hSame] at hTaken ⊢
          exact hTaken.trans hOwn.symm
      · rw [if_neg hSame] at hRest
        exact hRest

theorem holder_releaseNetworks
    (op : Op)
    (portGroup : String) :
    holder op.releaseNetworks.leases portGroup =
      if holder op.leases portGroup = some op.id then none
      else holder op.leases portGroup := by
  unfold holder releaseNetworks
  rw [Dict.get?_mapValues]
  cases op.leases.get? portGroup with
  | none => rfl
  | some lease =>
      simp only [Option.map_some, Option.bind_some]
      by_cases hOwn : lease.sessionId = some op.id
      · rw [if_pos hOwn, if_pos hOwn]
      · rw [if_neg hOwn, if_neg hOwn]

end Op

end Lifecycle

end LabSessions

end TrueNorth

--------
-- Frames
--------

namespace TrueNorth

namespace LabSessions

namespace Lifecycle

open RangeOps (RangeState)
open RangeCredentials (SnapshotState)

namespace LabSession

@[simp] theorem setState_state
    (s : LabSession)
    (state : SessionState)
    (now : Nat) :
    (s.setState state now).state = state := by
  unfold setState
  by_cases hSame : s.state = state
  · rw [if_pos hSame]
    exact hSame
  · rw [if_neg hSame]

@[simp] theorem setState_key
    (s : LabSession)
    (state : SessionState)
    (now : Nat) :
    (s.setState state now).key = s.key := by
  unfold setState
  by_cases hSame : s.state = state
  · rw [if_pos hSame]
  · rw [if_neg hSame]

@[simp] theorem setState_rangeId
    (s : LabSession)
    (state : SessionState)
    (now : Nat) :
    (s.setState state now).rangeId = s.rangeId := by
  unfold setState
  by_cases hSame : s.state = state
  · rw [if_pos hSame]
  · rw [if_neg hSame]

@[simp] theorem setState_retiredRanges
    (s : LabSession)
    (state : SessionState)
    (now : Nat) :
    (s.setState state now).retiredRanges = s.retiredRanges := by
  unfold setState
  by_cases hSame : s.state = state
  · rw [if_pos hSame]
  · rw [if_neg hSame]

theorem setState_stateSince
    {s : LabSession}
    {state : SessionState}
    (hNew : s.state ≠ state)
    (now : Nat) :
    (s.setState state now).stateSince = now := by
  unfold setState
  rw [if_neg hNew]

end LabSession

namespace Op

/- The session's range, if it has one, is on record. -/
def HasRange (op : Op) : Prop :=
  ∀ rangeId, op.session.rangeId = some rangeId →
    (op.ranges.get? rangeId).isSome

/- What every part of an operation keeps. -/
structure Keeps (a b : Op) : Prop where
  id : b.id = a.id
  now : b.now = a.now
  key : b.session.key = a.session.key
  searched : ∀ search ∈ a.searched, search ∈ b.searched
  ranges : ∀ rangeId, (a.ranges.get? rangeId).isSome →
    (b.ranges.get? rangeId).isSome
  hasRange : a.HasRange → b.HasRange

/- What all but two of the parts keep. -/
structure Quiet (a b : Op) : Prop extends Keeps a b where
  leases : b.leases = a.leases

theorem Keeps.refl (a : Op) : Keeps a a where
  id := rfl
  now := rfl
  key := rfl
  searched := fun _ hMem => hMem
  ranges := fun _ hSome => hSome
  hasRange := fun hOwn => hOwn

theorem Keeps.trans
    {a b c : Op}
    (hFirst : Keeps a b)
    (hSecond : Keeps b c) : Keeps a c where
  id := hSecond.id.trans hFirst.id
  now := hSecond.now.trans hFirst.now
  key := hSecond.key.trans hFirst.key
  searched := fun search hMem =>
    hSecond.searched search (hFirst.searched search hMem)
  ranges := fun rangeId hSome =>
    hSecond.ranges rangeId (hFirst.ranges rangeId hSome)
  hasRange := fun hOwn => hSecond.hasRange (hFirst.hasRange hOwn)

theorem Quiet.refl (a : Op) : Quiet a a where
  toKeeps := Keeps.refl a
  leases := rfl

theorem Quiet.trans
    {a b c : Op}
    (hFirst : Quiet a b)
    (hSecond : Quiet b c) : Quiet a c where
  toKeeps := hFirst.toKeeps.trans hSecond.toKeeps
  leases := hSecond.leases.trans hFirst.leases

/- What is written to the session itself, and snapshots. -/
theorem quiet_snapshots
    {a : Op}
    {s : LabSession}
    {snapshots : Dict Nat SnapshotState}
    (hKey : s.key = a.session.key)
    (hRange : s.rangeId = a.session.rangeId) :
    Quiet a
      { a with
        session := s
        snapshots := snapshots } where
  id := rfl
  now := rfl
  key := hKey
  searched := fun _ hMem => hMem
  ranges := fun _ hSome => hSome
  hasRange := by
    intro hOwn rangeId hId
    exact hOwn rangeId (hRange.symm.trans hId)
  leases := rfl

theorem quiet_session
    {a : Op}
    {s : LabSession}
    (hKey : s.key = a.session.key)
    (hRange : s.rangeId = a.session.rangeId) :
    Quiet a { a with session := s } :=
  quiet_snapshots hKey hRange

theorem quiet_setState
    (a : Op)
    (state : SessionState) :
    Quiet a (a.setState state) := by
  apply quiet_session
  · exact LabSession.setState_key a.session state a.now
  · exact LabSession.setState_rangeId a.session state a.now

theorem quiet_setError
    (a : Op)
    (error : String) :
    Quiet a (a.setError error) := by
  apply quiet_session
  · rfl
  · rfl

theorem quiet_send
    (a : Op)
    (task : LabTask) :
    Quiet a (a.send task) := by
  apply quiet_session
  · rfl
  · rfl

theorem isSome_set
    {V : Type}
    {d : Dict Nat V}
    {k k' : Nat}
    {v : V}
    (hSome : (d.get? k').isSome) :
    ((d.set k v).get? k').isSome := by
  rw [Dict.get?_set]
  by_cases hSame : k' = k
  · rw [if_pos hSame]
    rfl
  · rw [if_neg hSame]
    exact hSome

theorem quiet_setRange
    (a : Op)
    (state : RangeState) :
    Quiet a (a.setRange state) := by
  unfold setRange
  cases hId : a.session.rangeId with
  | none => exact Quiet.refl a
  | some rangeId =>
      refine
        { id := rfl
          now := rfl
          key := rfl
          searched := fun _ hMem => hMem
          ranges := fun _ hSome => isSome_set hSome
          hasRange := ?_
          leases := rfl }
      intro hOwn r hr
      exact isSome_set (hOwn r hr)

theorem quiet_setSnapshot
    (a : Op)
    (state : SnapshotState) :
    Quiet a (a.setSnapshot state) := by
  unfold setSnapshot
  cases hId : a.session.baselineSnapshotId with
  | none => exact Quiet.refl a
  | some snapshotId => exact quiet_snapshots rfl rfl

theorem quiet_destroyRange (a : Op) :
    Quiet a a.destroyRange :=
  (quiet_setRange a .destroying).trans (quiet_send _ _)

theorem quiet_search
    (a : Op)
    (rangeIds : List Nat) :
    Quiet a (a.search rangeIds) where
  id := rfl
  now := rfl
  key := rfl
  searched := fun _ hMem => List.mem_append_left _ hMem
  ranges := fun _ hSome => hSome
  hasRange := fun hOwn => hOwn
  leases := rfl

theorem keeps_releaseNetworks (a : Op) :
    Keeps a a.releaseNetworks where
  id := rfl
  now := rfl
  key := rfl
  searched := fun _ hMem => hMem
  ranges := fun _ hSome => hSome
  hasRange := fun hOwn => hOwn

/- The range that is built is the session's own from then. -/
theorem quiet_build
    {cfg : Settings}
    {o : Outside}
    {rebuild : Bool}
    {a b : Op}
    (hBuild : build cfg o rebuild a = .ok b) :
    Quiet a b ∧ b.session.state = .provisioning := by
  unfold build at hBuild
  rcases Checks.bind_eq_ok.mp hBuild with ⟨_, _, hBuild⟩
  cases hBuild
  refine
    ⟨{ id := rfl
       now := rfl
       key := ?_
       searched := fun _ hMem => hMem
       ranges := fun _ hSome => isSome_set hSome
       hasRange := ?_
       leases := rfl }, ?_⟩
  · cases rebuild <;> simp [LabSession.send]
  · intro _ rangeId hId
    have hNew : rangeId = o.newRange := by
      cases rebuild <;>
        simp [LabSession.send] at hId <;> exact hId.symm
    rw [hNew, Dict.get?_set_self]
    rfl
  · cases rebuild <;> simp [LabSession.send]

end Op

end Lifecycle

end LabSessions

end TrueNorth

--------
-- Outcomes of Operations
--------

namespace TrueNorth

namespace LabSessions

namespace Lifecycle

open RangeOps (RangeState)
open RangeCredentials (SnapshotState)

namespace Op

/- Nothing leaves the session, and only free ones come. -/
def Takes (a b : Op) : Prop :=
  ∀ portGroup,
    holder b.leases portGroup = holder a.leases portGroup ∨
      (holder a.leases portGroup = none ∧
        holder b.leases portGroup = some a.id)

/-
  The session's machines are gone, and what they left was
  looked for while it waited.
-/
structure Gone (cfg : Settings) (a : Op) : Prop where
  range : a.range = none ∨ a.range = some .destroyed
  waited : a.session.state = .reconcileWait →
    a.range = none ∨
      a.session.stateSince + cfg.reconcileGrace ≤ a.now

/- Nothing is given back, and the session goes on. -/
structure Moves (a b : Op) : Prop where
  keeps : Keeps a b
  takes : Takes a b
  destroyed : b.session.state ≠ .destroyed
  wait : b.session.state ≠ .reconcileWait

/- All that an operation on a session may come to. -/
inductive Outcome (cfg : Settings) (a b : Op) : Prop
| same (hSame : b = a)
| moved (hMoves : Moves a b)
| waits
    (hQuiet : Quiet a b)
    (hSearched :
      (⟨a.id, b.session.retiredRanges ++
        b.session.rangeId.toList, a.now⟩ : Search) ∈ b.searched)
    (hRange : b.session.rangeId ≠ none)
    (hSince : b.session.stateSince = a.now)
    (hState : b.session.state = .reconcileWait)
| released
    (hKeeps : Keeps a b)
    (hGone : Gone cfg a)
    (hLeases : b.leases = a.releaseNetworks.leases)
    (hWait : b.session.state ≠ .reconcileWait)

theorem Quiet.takes
    {a b : Op}
    (hQuiet : Quiet a b) : Takes a b := by
  intro portGroup
  rw [hQuiet.leases]
  exact .inl rfl

theorem Quiet.moves
    {a b : Op}
    (hQuiet : Quiet a b)
    (hDestroyed : b.session.state ≠ .destroyed)
    (hWait : b.session.state ≠ .reconcileWait) :
    Moves a b where
  keeps := hQuiet.toKeeps
  takes := hQuiet.takes
  destroyed := hDestroyed
  wait := hWait

theorem Quiet.outcome
    {cfg : Settings}
    {a b : Op}
    (hQuiet : Quiet a b)
    (hDestroyed : b.session.state ≠ .destroyed)
    (hWait : b.session.state ≠ .reconcileWait) :
    Outcome cfg a b :=
  .moved (hQuiet.moves hDestroyed hWait)

/- What was done before an operation's last part. -/
theorem Outcome.after
    {cfg : Settings}
    {a b c : Op}
    (hQuiet : Quiet a b)
    (hRange : b.range = a.range)
    (hState : b.session.state = a.session.state)
    (hDestroyed : a.session.state ≠ .destroyed)
    (hWait : a.session.state ≠ .reconcileWait)
    (hOutcome : Outcome cfg b c) :
    Outcome cfg a c := by
  cases hOutcome with
  | same hSame =>
      rw [hSame]
      apply hQuiet.outcome
      · rw [hState]
        exact hDestroyed
      · rw [hState]
        exact hWait
  | moved hMoves =>
      refine .moved
        ⟨hQuiet.toKeeps.trans hMoves.keeps, ?_,
          hMoves.destroyed, hMoves.wait⟩
      intro portGroup
      have hRest := hMoves.takes portGroup
      rw [hQuiet.leases, hQuiet.id] at hRest
      exact hRest
  | waits hRest hSearched hOwn hSince hState =>
      rw [hQuiet.id, hQuiet.now] at hSearched
      rw [hQuiet.now] at hSince
      exact .waits (hQuiet.trans hRest) hSearched hOwn hSince
        hState
  | released hKeeps hGone hLeases hNext =>
      refine .released (hQuiet.toKeeps.trans hKeeps)
        ⟨?_, ?_⟩ ?_ hNext
      · rw [← hRange]
        exact hGone.range
      · intro hNow
        exact absurd hNow hWait
      · unfold releaseNetworks at hLeases ⊢
        rw [hLeases, hQuiet.leases, hQuiet.id]

/- What was first written to the session itself. -/
theorem Outcome.after_session
    {cfg : Settings}
    {a c : Op}
    {s : LabSession}
    (hKey : s.key = a.session.key)
    (hRange : s.rangeId = a.session.rangeId)
    (hState : s.state = a.session.state)
    (hDestroyed : a.session.state ≠ .destroyed)
    (hWait : a.session.state ≠ .reconcileWait)
    (hOutcome : Outcome cfg { a with session := s } c) :
    Outcome cfg a c := by
  apply Outcome.after (quiet_session hKey hRange) _ hState
    hDestroyed hWait hOutcome
  unfold range
  rw [hRange]

/- The session gives its networks back, and is over. -/
theorem outcome_release
    {cfg : Settings}
    {a : Op}
    (hGone : Gone cfg a)
    {state : SessionState}
    (hWait : state ≠ .reconcileWait) :
    Outcome cfg a (a.releaseNetworks.setState state) := by
  apply Outcome.released
  · exact (keeps_releaseNetworks a).trans
      (quiet_setState _ state).toKeeps
  · exact hGone
  · rfl
  · simp only [setState, LabSession.setState_state]
    exact hWait

theorem setRange_session
    (a : Op)
    (state : RangeState) :
    (a.setRange state).session = a.session := by
  unfold setRange
  cases a.session.rangeId with
  | none => rfl
  | some rangeId => rfl

theorem setSnapshot_session
    (a : Op)
    (state : SnapshotState) :
    (a.setSnapshot state).session = a.session := by
  unfold setSnapshot
  cases a.session.baselineSnapshotId with
  | none => rfl
  | some snapshotId => rfl

theorem destroyRange_state (a : Op) :
    a.destroyRange.session.state = a.session.state := by
  unfold destroyRange send LabSession.send
  rw [setRange_session]

/-
  The networks go back where the session has no range, or
  that range is gone.
-/
theorem outcome_fail
    {cfg : Settings}
    {a : Op}
    (hDestroyed : a.session.state ≠ .destroyed)
    (hWait : a.session.state ≠ .reconcileWait)
    (error : String) :
    Outcome cfg a (a.fail error) := by
  unfold fail
  apply Outcome.after_session _ _ _ hDestroyed hWait
  · generalize hb : ({ a with session := _ } : Op) = b
    dsimp only
    have hNot : b.session.state ≠ .reconcileWait := by
      rw [← hb]
      exact hWait
    have hRelease
        (hRange : b.range = none ∨ b.range = some .destroyed) :
        Outcome cfg b (b.releaseNetworks.setState .failed) := by
      apply outcome_release
      · refine ⟨hRange, ?_⟩
        intro hState
        exact absurd hState hNot
      · decide
    cases hRange : b.range with
    | none => exact hRelease (.inl hRange)
    | some state =>
        cases state with
        | destroyed => exact hRelease (.inr hRange)
        | destroying =>
            apply (quiet_setState b .cleaning).outcome
            · simp [setState]
            · simp [setState]
        | _ =>
            apply ((quiet_destroyRange b).trans
              (quiet_setState _ .cleaning)).outcome
            · simp [setState]
            · simp [setState]
  · rfl
  · rfl
  · rfl

theorem outcome_endLab
    (cfg : Settings)
    (a : Op)
    (reason : String) :
    Outcome cfg a (a.endLab reason) := by
  unfold endLab
  by_cases hOver :
      (a.session.state.terminal || a.session.state.ending) = true
  · rw [if_pos hOver]
    exact .same rfl
  · rw [if_neg hOver]
    have hDestroyed : a.session.state ≠ .destroyed := by
      intro hState
      rw [hState] at hOver
      exact hOver rfl
    have hWait : a.session.state ≠ .reconcileWait := by
      intro hState
      rw [hState] at hOver
      exact hOver rfl
    apply Outcome.after_session _ _ _ hDestroyed hWait
    · generalize hb : ({ a with session := _ } : Op) = b
      dsimp only
      cases hRange : b.range with
      | none =>
          apply outcome_release
          · refine ⟨.inl hRange, ?_⟩
            intro hState
            exact .inl hRange
          · decide
      | some range =>
          have hNext (state : SessionState)
              (hEnded : state = .expired ∨ state = .completed) :
              Outcome cfg b
                (if range = .destroyed ∨ range = .destroying then
                  b.setState state
                else (b.setState state).destroyRange) := by
            by_cases hGone :
                range = .destroyed ∨ range = .destroying
            · rw [if_pos hGone]
              apply (quiet_setState b state).outcome
              · rcases hEnded with rfl | rfl <;> simp [setState]
              · rcases hEnded with rfl | rfl <;> simp [setState]
            · rw [if_neg hGone]
              apply ((quiet_setState b state).trans
                (quiet_destroyRange _)).outcome
              · rw [destroyRange_state]
                rcases hEnded with rfl | rfl <;> simp [setState]
              · rw [destroyRange_state]
                rcases hEnded with rfl | rfl <;> simp [setState]
          apply hNext
          by_cases hReason : reason = "expired" ∨ reason = "idle"
          · rw [if_pos hReason]
            exact .inl rfl
          · rw [if_neg hReason]
            exact .inr rfl
    · rfl
    · rfl
    · rfl

end Op

end Lifecycle

end LabSessions

end TrueNorth

--------
-- Advancing
--------

namespace TrueNorth

namespace LabSessions

namespace Lifecycle

open RangeOps (RangeState)
open RangeCredentials (SnapshotState)

namespace Op

theorem takes_leaseNetworks
    {cfg : Settings}
    {tenantHeld : Nat}
    {a b : Op}
    {networks : Option (List (String × String))}
    (hLease :
      leaseNetworks cfg tenantHeld a = .ok (b, networks)) :
    Keeps a b ∧ Takes a b ∧ b.session = a.session := by
  have hPool :
      Takes a { a with leases := pool cfg a.leases } := by
    intro portGroup
    exact .inl (holder_pool cfg a.leases portGroup)
  unfold leaseNetworks at hLease
  by_cases hMock : a.session.mock = true
  · rw [if_pos hMock] at hLease
    cases hLease
    exact ⟨Keeps.refl a, (Quiet.refl a).takes, rfl⟩
  · rw [if_neg hMock] at hLease
    dsimp only at hLease
    by_cases hNone : cfg.portGroups = []
    · rw [if_pos hNone] at hLease
      cases hLease
    · rw [if_neg hNone] at hLease
      split at hLease
      · cases hLease
        exact ⟨⟨rfl, rfl, rfl, fun _ h => h, fun _ h => h,
          fun h => h⟩, hPool, rfl⟩
      · split at hLease
        · cases hLease
          exact ⟨⟨rfl, rfl, rfl, fun _ h => h, fun _ h => h,
            fun h => h⟩, hPool, rfl⟩
        · cases hLease
          refine ⟨⟨rfl, rfl, rfl, fun _ h => h, fun _ h => h,
            fun h => h⟩, ?_, rfl⟩
          intro portGroup
          have hFree : ∀ pair ∈
              ((freePortGroups cfg (pool cfg a.leases)).take
                a.session.profile.networks.length).zip
                  a.session.profile.networks,
              holder (pool cfg a.leases) pair.1 = none := by
            intro pair hPair
            apply holder_freePortGroups
            exact List.mem_of_mem_take (List.of_mem_zip hPair).1
          have hTaken :=
            @holder_foldl_set a.id _ (pool cfg a.leases)
              (fun pair hPair => .inl (hFree pair hPair))
              portGroup
          rw [holder_pool] at hTaken
          exact hTaken

/- Only a session that was not built yet leases anything. -/
theorem moves_start
    {cfg : Settings}
    {o : Outside}
    {tenantHeld : Nat}
    {rebuild refuseBusy : Bool}
    {a b : Op}
    (hDestroyed : a.session.state ≠ .destroyed)
    (hWait : a.session.state ≠ .reconcileWait)
    (hStart :
      start cfg o tenantHeld rebuild refuseBusy a = .ok b) :
    Moves a b := by
  have hError (error : String) :
      Moves a (a.setError error) := by
    apply (quiet_setError a error).moves
    · exact hDestroyed
    · exact hWait
  unfold start at hStart
  cases rebuild with
  | true =>
      rw [if_pos rfl] at hStart
      rcases quiet_build hStart with ⟨hQuiet, hState⟩
      apply hQuiet.moves
      · simp [hState]
      · simp [hState]
  | false =>
      rw [if_neg (by decide)] at hStart
      cases hWindow : o.windowHolds with
      | some held =>
          rw [hWindow] at hStart
          cases hStart
          exact hError held
      | none =>
          cases hQuota : o.quotaProblem with
          | some problem =>
              rw [hWindow, hQuota] at hStart
              cases hStart
              exact hError problem
          | none =>
              rw [hWindow, hQuota] at hStart
              dsimp only at hStart
              by_cases hFull : o.capacityRefused = true
              · rw [if_pos hFull] at hStart
                cases hBusy : refuseBusy with
                | true =>
                    rw [hBusy] at hStart
                    cases hStart
                | false =>
                    rw [hBusy] at hStart
                    cases hStart
                    exact hError "Labs are busy"
              · rw [if_neg hFull] at hStart
                rcases Checks.bind_eq_ok.mp hStart with
                  ⟨⟨op, networks⟩, hLease, hStart⟩
                rcases takes_leaseNetworks hLease with
                  ⟨hKeeps, hTakes, hSession⟩
                cases networks with
                | none =>
                    cases hStart
                    refine
                      ⟨hKeeps.trans (quiet_setError _ _).toKeeps,
                        hTakes, ?_, ?_⟩
                    · simp only [setError, hSession]
                      exact hDestroyed
                    · simp only [setError, hSession]
                      exact hWait
                | some networks =>
                    rcases quiet_build hStart with
                      ⟨hQuiet, hState⟩
                    refine
                      ⟨hKeeps.trans hQuiet.toKeeps, ?_, ?_, ?_⟩
                    · intro portGroup
                      rw [hQuiet.leases]
                      exact hTakes portGroup
                    · simp [hState]
                    · simp [hState]

theorem followClass_session
    (o : Outside)
    (a : Op) :
    ∃ s, a.followClass o = { a with session := s } ∧
      s.key = a.session.key ∧
      s.rangeId = a.session.rangeId ∧
      s.state = a.session.state := by
  unfold followClass
  split
  · exact ⟨_, rfl, rfl, rfl, rfl⟩
  · exact ⟨a.session, rfl, rfl, rfl, rfl⟩

/- A console that is in use only moves the lab's idle end. -/
theorem quiet_consoleBusy
    {cfg : Settings}
    {o : Outside}
    {latest : Nat}
    {a b : Op}
    (hBusy : a.consoleBusy cfg o latest = some b) :
    Quiet a b ∧
      (b.session.state = a.session.state ∨
        b.session.state = .active) := by
  unfold consoleBusy at hBusy
  split at hBusy
  · cases hBusy
    exact ⟨Quiet.refl _, .inl rfl⟩
  · cases hBusy
    exact ⟨quiet_session rfl rfl, .inl rfl⟩
  · cases hBusy
  · cases hBusy
    refine ⟨?_, .inr ?_⟩
    · exact (quiet_session (by rfl) (by rfl)).trans
        (quiet_setState _ .active)
    · simp [setState]

/- A class's range is left to it, with its networks. -/
theorem outcome_advanceRunning
    (cfg : Settings)
    (o : Outside)
    {a : Op}
    (hDestroyed : a.session.state ≠ .destroyed)
    (hWait : a.session.state ≠ .reconcileWait) :
    Outcome cfg a (a.advanceRunning cfg o) := by
  unfold advanceRunning
  split
  · rename_i latest idleEnd hLatest hIdle
    by_cases hEarly : a.now < latest ∧ a.now < idleEnd
    · rw [if_pos hEarly]
      exact .same rfl
    · rw [if_neg hEarly]
      by_cases hClass : o.classRange = true
      · rw [if_pos hClass]
        apply ((quiet_session (by rfl) (by rfl)).trans
          (quiet_setState _ .failed)).outcome
        · simp [setState]
        · simp [setState]
      · rw [if_neg hClass]
        by_cases hIdle : a.now < latest
        · rw [if_pos hIdle]
          cases hBusy : a.consoleBusy cfg o latest with
          | none => exact outcome_endLab cfg a "idle"
          | some b =>
              rcases quiet_consoleBusy hBusy with
                ⟨hQuiet, hState⟩
              apply hQuiet.outcome
              · rcases hState with hState | hState
                · rw [hState]
                  exact hDestroyed
                · simp [hState]
              · rcases hState with hState | hState
                · rw [hState]
                  exact hWait
                · simp [hState]
        · rw [if_neg hIdle]
          exact outcome_endLab cfg a "expired"
  · exact .same rfl

theorem outcome_advanceProvisioning
    (cfg : Settings)
    (o : Outside)
    {a : Op}
    (hDestroyed : a.session.state ≠ .destroyed)
    (hWait : a.session.state ≠ .reconcileWait) :
    Outcome cfg a (a.advanceProvisioning cfg o) := by
  unfold advanceProvisioning
  split
  · exact outcome_fail hDestroyed hWait _
  · exact outcome_fail hDestroyed hWait _
  · cases o.windowHolds with
    | some held =>
        exact (quiet_setError a held).outcome hDestroyed hWait
    | none =>
        apply (((quiet_setRange a .provisioning).trans
          (quiet_session (by rfl) (by rfl))).trans
            (quiet_send _ _)).outcome
        · simp only [send, LabSession.send, setRange_session]
          exact hDestroyed
        · simp only [send, LabSession.send, setRange_session]
          exact hWait
  · split
    · exact outcome_fail hDestroyed hWait _
    · split
      · exact .same rfl
      · split
        · dsimp only
          apply (((quiet_snapshots (by rfl) (by rfl)).trans
            (quiet_setState _ .baselining)).trans
              (quiet_send _ _)).outcome
          · simp [setState, send, LabSession.send]
          · simp [setState, send, LabSession.send]
        · apply (quiet_setState a .ready).outcome
          · simp [setState]
          · simp [setState]

theorem outcome_advanceBaselining
    (cfg : Settings)
    {a : Op}
    (hDestroyed : a.session.state ≠ .destroyed)
    (hWait : a.session.state ≠ .reconcileWait) :
    Outcome cfg a (a.advanceBaselining cfg) := by
  unfold advanceBaselining
  dsimp only
  split
  · apply (quiet_setState a .ready).outcome
    · simp [setState]
    · simp [setState]
  · exact outcome_fail hDestroyed hWait _
  · split
    · exact outcome_fail hDestroyed hWait _
    · split
      · split
        · exact outcome_fail hDestroyed hWait _
        · apply (((quiet_session (by rfl) (by rfl)).trans
            (quiet_setSnapshot _ .creating)).trans
              (quiet_send _ _)).outcome
          · simp only [send, LabSession.send,
              setSnapshot_session]
            exact hDestroyed
          · simp only [send, LabSession.send,
              setSnapshot_session]
            exact hWait
      · exact .same rfl

/- A rebuild keeps the networks of the range that is gone. -/
theorem outcome_advanceResetting
    {cfg : Settings}
    {o : Outside}
    {a b : Op}
    (hDestroyed : a.session.state ≠ .destroyed)
    (hWait : a.session.state ≠ .reconcileWait)
    (hAdvance : a.advanceResetting cfg o = .ok b) :
    Outcome cfg a b := by
  unfold advanceResetting at hAdvance
  dsimp only at hAdvance
  split at hAdvance
  · split at hAdvance
    · cases hAdvance
      exact outcome_fail hDestroyed hWait _
    · split at hAdvance
      · cases hAdvance
        apply (quiet_setState a .active).outcome
        · simp [setState]
        · simp [setState]
      · split at hAdvance
        · cases hAdvance
          exact outcome_fail hDestroyed hWait _
        · cases hAdvance
          exact .same rfl
  · split at hAdvance
    · rename_i rangeId hRange hId
      cases hWindow : o.windowHolds with
      | some held =>
          rw [hWindow] at hAdvance
          cases hAdvance
          exact (quiet_setError a held).outcome hDestroyed hWait
      | none =>
          rw [hWindow] at hAdvance
          refine Outcome.after ?_ ?_ ?_ hDestroyed hWait
            (.moved (moves_start ?_ ?_ hAdvance))
          · exact (quiet_session (by rfl) (by rfl)).trans
              (quiet_search _ [rangeId])
          · rfl
          · rfl
          · exact hDestroyed
          · exact hWait
    · split at hAdvance
      · cases hAdvance
        exact outcome_fail hDestroyed hWait _
      · cases hAdvance
        exact .same rfl

theorem outcome_tearDownAgain
    (cfg : Settings)
    (a : Op) :
    Outcome cfg a (a.tearDownAgain cfg) := by
  unfold tearDownAgain
  split
  · apply (quiet_session (by rfl) (by rfl)).outcome
    · simp
    · simp
  · apply (((quiet_session (by rfl) (by rfl)).trans
      (quiet_search _ _)).trans
        (quiet_destroyRange _)).outcome
    · rw [destroyRange_state]
      simp [search, send, LabSession.send]
    · rw [destroyRange_state]
      simp [search, send, LabSession.send]

/-
  A session that ends waits, from the search for what its
  ranges left until the grace is over, and only then gives
  its networks back.
-/
theorem outcome_advanceCleaning
    (cfg : Settings)
    (a : Op) :
    Outcome cfg a (a.advanceCleaning cfg) := by
  unfold advanceCleaning
  split
  · rename_i hRange
    apply outcome_release
    · exact ⟨.inl hRange, fun _ => .inl hRange⟩
    · decide
  · rename_i hRange
    by_cases hWait : a.session.state = .reconcileWait
    · rw [if_pos hWait]
      by_cases hEarly :
          a.now < a.session.stateSince + cfg.reconcileGrace
      · rw [if_pos hEarly]
        exact .same rfl
      · rw [if_neg hEarly]
        apply outcome_release
        · refine ⟨.inr hRange, ?_⟩
          intro _
          exact .inr (Nat.le_of_not_lt hEarly)
        · decide
    · rw [if_neg hWait]
      have hOwn : a.session.rangeId ≠ none := by
        intro hNone
        unfold range at hRange
        rw [hNone] at hRange
        cases hRange
      apply Outcome.waits
      · exact (quiet_search a _).trans
          (quiet_setState _ .reconcileWait)
      · simp [setState, search, send, LabSession.send]
      · simp only [setState, LabSession.setState_rangeId]
        exact hOwn
      · unfold setState
        apply LabSession.setState_stateSince
        exact hWait
      · simp [setState]
  · exact outcome_tearDownAgain cfg a
  · split
    · exact outcome_tearDownAgain cfg a
    · rename_i hNotLate
      by_cases hEnded :
          a.session.state = .completed ∨
            a.session.state = .expired
      · rw [if_pos hEnded]
        apply (quiet_setState a .cleaning).outcome
        · simp [setState]
        · simp [setState]
      · rw [if_neg hEnded]
        exact .same rfl

/- No step is taken of a session that is over. -/
theorem outcome_advance
    {cfg : Settings}
    {o : Outside}
    {tenantHeld : Nat}
    {a b : Op}
    (hAdvance : a.advance cfg o tenantHeld = .ok b) :
    Outcome cfg a b := by
  unfold advance at hAdvance
  by_cases hPending : a.session.pending ≠ []
  · rw [if_pos hPending] at hAdvance
    cases hAdvance
    exact .same rfl
  · rw [if_neg hPending] at hAdvance
    have hRunning
        (hDestroyed : a.session.state ≠ .destroyed)
        (hWait : a.session.state ≠ .reconcileWait) :
        Outcome cfg a
          ((a.followClass o).advanceRunning cfg o) := by
      rcases followClass_session o a with
        ⟨s, hFollow, hKey, hRange, hState⟩
      rw [hFollow]
      apply Outcome.after_session hKey hRange hState hDestroyed
        hWait
      apply outcome_advanceRunning
      · exact fun h => hDestroyed (hState.symm.trans h)
      · exact fun h => hWait (hState.symm.trans h)
    cases hState : a.session.state with
    | queued =>
        rw [hState] at hAdvance
        dsimp only at hAdvance
        split at hAdvance
        · cases hAdvance
          exact outcome_endLab cfg a "queue_timeout"
        · exact .moved (moves_start (by simp [hState])
            (by simp [hState]) hAdvance)
    | provisioning =>
        rw [hState] at hAdvance
        cases hAdvance
        exact outcome_advanceProvisioning cfg o
          (by simp [hState]) (by simp [hState])
    | baselining =>
        rw [hState] at hAdvance
        cases hAdvance
        exact outcome_advanceBaselining cfg
          (by simp [hState]) (by simp [hState])
    | resetting =>
        rw [hState] at hAdvance
        exact outcome_advanceResetting
          (by simp [hState]) (by simp [hState]) hAdvance
    | ready =>
        rw [hState] at hAdvance
        cases hAdvance
        exact hRunning (by simp [hState]) (by simp [hState])
    | active =>
        rw [hState] at hAdvance
        cases hAdvance
        exact hRunning (by simp [hState]) (by simp [hState])
    | destroyed =>
        rw [hState] at hAdvance
        cases hAdvance
        exact .same rfl
    | failed =>
        rw [hState] at hAdvance
        cases hAdvance
        exact .same rfl
    | _ =>
        rw [hState] at hAdvance
        cases hAdvance
        exact outcome_advanceCleaning cfg a

end Op

end Lifecycle

end LabSessions

end TrueNorth

--------
-- Every Operation
--------

namespace TrueNorth

namespace LabSessions

namespace Lifecycle

open RangeOps (RangeState)
open RangeCredentials (SnapshotState)

namespace Op

theorem outcome_touch
    (cfg : Settings)
    (a : Op) :
    Outcome cfg a (a.touch cfg) := by
  have hActive (latest : Nat) :
      Outcome cfg a
        (setState
          { a with
            session :=
              { a.session with
                idleExpiresAt :=
                  some
                    (min
                      (a.now +
                        min a.session.profile.idleSeconds
                          cfg.idleLimit)
                      latest) } }
          .active) := by
    apply ((quiet_session (by rfl) (by rfl)).trans
      (quiet_setState _ .active)).outcome
    · simp [setState]
    · simp [setState]
  unfold touch
  split
  · exact hActive _
  · exact hActive _
  · exact .same rfl

/- A reset keeps the networks, also when it rebuilds. -/
theorem outcome_reset
    {cfg : Settings}
    {o : Outside}
    {a b : Op}
    (hReset : a.reset o = .ok b) :
    Outcome cfg a b := by
  unfold reset at hReset
  rcases Checks.bind_eq_ok.mp hReset with ⟨_, _, hReset⟩
  split at hReset
  · cases hReset
  · split at hReset
    · rcases Checks.bind_eq_ok.mp hReset with ⟨_, _, hReset⟩
      rcases Checks.bind_eq_ok.mp hReset with ⟨_, _, hReset⟩
      cases hReset
      apply (((quiet_setSnapshot a .restoring).trans
        (quiet_setState _ .resetting)).trans
          (quiet_send _ _)).outcome
      · simp [setState, send, LabSession.send]
      · simp [setState, send, LabSession.send]
    · cases hReset
      apply (((quiet_setRange a .destroying).trans
        (quiet_setState _ .resetting)).trans
          (quiet_send _ _)).outcome
      · simp [setState, send, LabSession.send]
      · simp [setState, send, LabSession.send]

theorem outcome_perform
    {cfg : Settings}
    {o : Outside}
    {tenantHeld : Nat}
    {operation : Operation}
    {a b : Op}
    (hPerform :
      World.perform cfg o tenantHeld a operation = .ok b) :
    Outcome cfg a b := by
  cases operation with
  | advance => exact outcome_advance hPerform
  | touch =>
      cases hPerform
      exact outcome_touch cfg a
  | reset => exact outcome_reset hPerform
  | endLab reason =>
      cases hPerform
      exact outcome_endLab cfg a reason

/- Nothing is done to a session that is over. -/
theorem perform_terminal
    {cfg : Settings}
    {o : Outside}
    {tenantHeld : Nat}
    {operation : Operation}
    {a b : Op}
    (hOver : a.session.state.terminal = true)
    (hPerform :
      World.perform cfg o tenantHeld a operation = .ok b) :
    b = a := by
  have hState : a.session.state = .destroyed ∨
      a.session.state = .failed := by
    cases hState : a.session.state with
    | destroyed => exact .inl rfl
    | failed => exact .inr rfl
    | _ =>
        rw [hState] at hOver
        cases hOver
  cases operation with
  | advance =>
      simp only [World.perform, advance] at hPerform
      split at hPerform
      · cases hPerform
        rfl
      · rcases hState with hState | hState
        · rw [hState] at hPerform
          cases hPerform
          rfl
        · rw [hState] at hPerform
          cases hPerform
          rfl
  | touch =>
      cases hPerform
      unfold touch
      rcases hState with hState | hState <;> rw [hState]
  | reset =>
      rcases Checks.bind_eq_ok.mp hPerform with ⟨_, hReady, _⟩
      rw [Checks.refuseIf_eq_ok] at hReady
      rcases hState with hState | hState <;>
        simp [hState] at hReady
  | endLab reason =>
      cases hPerform
      unfold endLab
      rw [hOver]
      rfl

theorem Outcome.keeps
    {cfg : Settings}
    {a b : Op}
    (hOutcome : Outcome cfg a b) : Keeps a b := by
  cases hOutcome with
  | same hSame =>
      rw [hSame]
      exact Keeps.refl a
  | moved hMoves => exact hMoves.keeps
  | waits hQuiet => exact hQuiet.toKeeps
  | released hKeeps => exact hKeeps

/- What becomes of one port group. -/
theorem Outcome.holder
    {cfg : Settings}
    {a b : Op}
    (hOutcome : Outcome cfg a b)
    (portGroup : String) :
    holder b.leases portGroup = holder a.leases portGroup ∨
      (holder a.leases portGroup = none ∧
        holder b.leases portGroup = some a.id) ∨
      (holder a.leases portGroup = some a.id ∧
        holder b.leases portGroup = none ∧ Gone cfg a) := by
  cases hOutcome with
  | same hSame =>
      rw [hSame]
      exact .inl rfl
  | moved hMoves =>
      rcases hMoves.takes portGroup with hSame | hTaken
      · exact .inl hSame
      · exact .inr (.inl hTaken)
  | waits hQuiet =>
      rw [hQuiet.leases]
      exact .inl rfl
  | released _ hGone hLeases =>
      rw [hLeases, holder_releaseNetworks]
      by_cases hOwn :
          Lifecycle.holder a.leases portGroup = some a.id
      · rw [if_pos hOwn]
        exact .inr (.inr ⟨hOwn, rfl, hGone⟩)
      · rw [if_neg hOwn]
        exact .inl rfl

end Op

end Lifecycle

end LabSessions

end TrueNorth

--------
-- Runs of Lab Operations
--------

namespace TrueNorth

namespace LabSessions

namespace Lifecycle

open RangeOps (RangeState)
open RangeCredentials (SnapshotState)

namespace World

/-
  What a session that waits rests on: a search for all its
  ranges, queued before its wait began.
-/
structure Waits
    (w : World)
    (id : Nat)
    (s : LabSession) : Prop where
  hasRange : s.rangeId ≠ none
  searched : ∃ search ∈ w.searched,
    search.sessionId = id ∧
      search.rangeIds = s.retiredRanges ++ s.rangeId.toList ∧
      search.queuedAt ≤ s.stateSince
  since : s.stateSince ≤ w.now

/- What holds in every world that is reached. -/
structure Sound (w : World) : Prop where
  hasRange : ∀ id s, w.sessions.get? id = some s →
    ∀ rangeId, s.rangeId = some rangeId →
      (w.ranges.get? rangeId).isSome
  waits : ∀ id s, w.sessions.get? id = some s →
    s.state = .reconcileWait → w.Waits id s
  -- who is destroyed holds nothing
  gone : ∀ id s, w.sessions.get? id = some s →
    s.state = .destroyed →
      ∀ portGroup, holder w.leases portGroup ≠ some id
  -- a student has one lab at a time
  one : ∀ id s id' s',
    w.sessions.get? id = some s →
    w.sessions.get? id' = some s' →
    s.key.userId = s'.key.userId →
    s.state.terminal = false →
    s'.state.terminal = false →
      id = id'

/-
  What lets a session's port groups go back to the pool: it
  has no range, or its range is destroyed; and if it waited,
  a search for that range was queued a grace ago.
-/
structure MayRelease
    (cfg : Settings)
    (w : World)
    (id : Nat)
    (s : LabSession) : Prop where
  range : s.rangeId = none ∨
    ∃ rangeId, s.rangeId = some rangeId ∧
      w.ranges.get? rangeId = some .destroyed
  waited : s.state = .reconcileWait →
    ∃ search ∈ w.searched,
      search.sessionId = id ∧
        search.rangeIds = s.retiredRanges ++ s.rangeId.toList ∧
        search.queuedAt + cfg.reconcileGrace ≤ w.now

theorem get?_commit
    {w : World}
    {op : Op}
    {i : Nat}
    {s : LabSession}
    (hGet : (w.commit op).sessions.get? i = some s) :
    (i = op.id ∧ s = op.session) ∨
      (i ≠ op.id ∧ w.sessions.get? i = some s) := by
  unfold commit at hGet
  rw [Dict.get?_set] at hGet
  by_cases hSame : i = op.id
  · rw [if_pos hSame] at hGet
    cases hGet
    exact .inl ⟨hSame, rfl⟩
  · rw [if_neg hSame] at hGet
    exact .inr ⟨hSame, hGet⟩

/- What an operation comes to is as sound as what it met. -/
theorem sound_commit
    {cfg : Settings}
    {w : World}
    {id : Nat}
    {s : LabSession}
    {op : Op}
    (hSound : Sound (w.commit (w.op id s)))
    (hOutcome : Op.Outcome cfg (w.op id s) op)
    (hOver : s.state.terminal = true → op = w.op id s) :
    Sound (w.commit op) := by
  have hKeeps := hOutcome.keeps
  have hId : op.id = id := hKeeps.id
  have hSelf :
      (w.commit (w.op id s)).sessions.get? id = some s :=
    Dict.get?_set_self _ _ _
  have hOther
      {i : Nat}
      {s' : LabSession}
      (hNe : i ≠ op.id)
      (hGet : w.sessions.get? i = some s') :
      (w.commit (w.op id s)).sessions.get? i = some s' := by
    rw [hId] at hNe
    exact (Dict.get?_set_ne hNe s).trans hGet
  have hLive (hLive : op.session.state.terminal = false) :
      s.state.terminal = false := by
    cases hTerminal : s.state.terminal with
    | false => rfl
    | true =>
        rw [hOver hTerminal] at hLive
        exact hTerminal.symm.trans hLive
  constructor
  · intro i s' hGet rangeId hRange
    rcases get?_commit hGet with ⟨_, rfl⟩ | ⟨hNe, hGet⟩
    · exact hKeeps.hasRange
        (fun r hr => hSound.hasRange id s hSelf r hr)
        rangeId hRange
    · apply hKeeps.ranges
      exact hSound.hasRange i s' (hOther hNe hGet) rangeId
        hRange
  · intro i s' hGet hState
    rcases get?_commit hGet with ⟨hi, rfl⟩ | ⟨hNe, hGet⟩
    · rw [hi, hId]
      cases hOutcome with
      | same hSame =>
          rw [hSame] at hState ⊢
          exact hSound.waits id s hSelf hState
      | moved hMoves => exact absurd hState hMoves.wait
      | released _ _ _ hWait => exact absurd hState hWait
      | waits _ hSearched hRange hSince =>
          refine ⟨hRange, ⟨_, hSearched, rfl, rfl, ?_⟩, ?_⟩
          · exact Nat.le_of_eq hSince.symm
          · exact Nat.le_of_eq hSince
    · have hOld := hSound.waits i s' (hOther hNe hGet) hState
      rcases hOld.searched with ⟨search, hMem, hSearch⟩
      refine ⟨hOld.hasRange, ⟨search, ?_, hSearch⟩, hOld.since⟩
      exact hKeeps.searched search hMem
  · intro i s' hGet hState portGroup hHolder
    rcases get?_commit hGet with ⟨hi, rfl⟩ | ⟨hNe, hGet⟩
    · rw [hi, hId] at hHolder
      cases hOutcome with
      | same hSame =>
          rw [hSame] at hState hHolder
          exact hSound.gone id s hSelf hState portGroup hHolder
      | moved hMoves => exact hMoves.destroyed hState
      | waits _ _ _ _ hWait =>
          rw [hWait] at hState
          cases hState
      | released _ _ hLeases =>
          have hRelease :=
            Op.holder_releaseNetworks (w.op id s) portGroup
          rw [← hLeases] at hRelease
          have hHeld : holder op.leases portGroup = some id :=
            hHolder
          rw [hHeld] at hRelease
          by_cases hOwn :
              holder (w.op id s).leases portGroup =
                some (w.op id s).id
          · rw [if_pos hOwn] at hRelease
            cases hRelease
          · rw [if_neg hOwn] at hRelease
            exact hOwn hRelease.symm
    · have hOld :=
        hSound.gone i s' (hOther hNe hGet) hState portGroup
      rcases hOutcome.holder portGroup with
        hSame | ⟨_, hTaken⟩ | ⟨_, hNone, _⟩
      · exact hOld (hSame.symm.trans hHolder)
      · have hSame := hTaken.symm.trans hHolder
        cases hSame
        exact hNe hId.symm
      · have hSame := hNone.symm.trans hHolder
        cases hSame
  · intro i s₁ j s₂ hFirst hSecond hUser hLive₁ hLive₂
    rcases get?_commit hFirst with ⟨hi, rfl⟩ | ⟨hNe₁, hFirst⟩
    · rcases get?_commit hSecond with
        ⟨hj, rfl⟩ | ⟨hNe₂, hSecond⟩
      · exact hi.trans hj.symm
      · rw [hKeeps.key] at hUser
        rw [hi, hId]
        exact hSound.one id s j s₂ hSelf (hOther hNe₂ hSecond)
          hUser (hLive hLive₁) hLive₂
    · rcases get?_commit hSecond with
        ⟨hj, rfl⟩ | ⟨hNe₂, hSecond⟩
      · rw [hKeeps.key] at hUser
        rw [hj, hId]
        exact hSound.one i s₁ id s (hOther hNe₁ hFirst) hSelf
          hUser hLive₁ (hLive hLive₂)
      · exact hSound.one i s₁ j s₂ (hOther hNe₁ hFirst)
          (hOther hNe₂ hSecond) hUser hLive₁ hLive₂

theorem sound_fresh : Sound fresh := by
  have hNone (id : Nat) (s : LabSession) :
      fresh.sessions.get? id ≠ some s := by
    intro hGet
    cases hGet
  constructor
  · intro id s hGet
    exact absurd hGet (hNone id s)
  · intro id s hGet
    exact absurd hGet (hNone id s)
  · intro id s hGet
    exact absurd hGet (hNone id s)
  · intro id s _ _ hGet
    exact absurd hGet (hNone id s)

theorem sound_tick
    {w : World}
    (hSound : Sound w)
    (seconds : Nat) :
    Sound { w with now := w.now + seconds } where
  hasRange := hSound.hasRange
  waits := by
    intro id s hGet hState
    have hOld := hSound.waits id s hGet hState
    refine ⟨hOld.hasRange, hOld.searched, ?_⟩
    exact Nat.le_add_right_of_le hOld.since
  gone := hSound.gone
  one := hSound.one

/- Whatever the worker reports of a range. -/
theorem sound_report
    {w : World}
    (hSound : Sound w)
    (rangeId : Nat)
    (state : RangeState) :
    Sound { w with ranges := w.ranges.set rangeId state } where
  hasRange := by
    intro id s hGet r hRange
    exact Op.isSome_set (hSound.hasRange id s hGet r hRange)
  waits := by
    intro id s hGet hState
    have hOld := hSound.waits id s hGet hState
    exact ⟨hOld.hasRange, hOld.searched, hOld.since⟩
  gone := hSound.gone
  one := hSound.one

theorem sound_reportSnapshot
    {w : World}
    (hSound : Sound w)
    (snapshots : Dict Nat SnapshotState) :
    Sound { w with snapshots := snapshots } where
  hasRange := hSound.hasRange
  waits := by
    intro id s hGet hState
    have hOld := hSound.waits id s hGet hState
    exact ⟨hOld.hasRange, hOld.searched, hOld.since⟩
  gone := hSound.gone
  one := hSound.one

/- A flush only drops tasks, and may restart the clock. -/
theorem get?_flush
    {w : World}
    {id sent : Nat}
    {resent : Bool}
    {i : Nat}
    {s : LabSession}
    (hGet : (w.flush id sent resent).sessions.get? i = some s) :
    ∃ s', w.sessions.get? i = some s' ∧
      s.key = s'.key ∧
      s.state = s'.state ∧
      s.rangeId = s'.rangeId ∧
      s.retiredRanges = s'.retiredRanges ∧
      (s.stateSince = s'.stateSince ∨ s.stateSince = w.now) := by
  unfold flush at hGet
  cases hOld : w.sessions.get? id with
  | none =>
      rw [hOld] at hGet
      exact ⟨s, hGet, rfl, rfl, rfl, rfl, .inl rfl⟩
  | some s' =>
      rw [hOld] at hGet
      dsimp only at hGet
      rw [Dict.get?_set] at hGet
      by_cases hSame : i = id
      · rw [if_pos hSame] at hGet
        cases hGet
        refine ⟨s', hSame ▸ hOld, rfl, rfl, rfl, rfl, ?_⟩
        dsimp only
        split
        · exact .inr rfl
        · exact .inl rfl
      · rw [if_neg hSame] at hGet
        exact ⟨s, hGet, rfl, rfl, rfl, rfl, .inl rfl⟩

theorem flush_rest
    (w : World)
    (id sent : Nat)
    (resent : Bool) :
    (w.flush id sent resent).now = w.now ∧
      (w.flush id sent resent).ranges = w.ranges ∧
      (w.flush id sent resent).leases = w.leases ∧
      (w.flush id sent resent).searched = w.searched := by
  unfold flush
  cases w.sessions.get? id with
  | none => exact ⟨rfl, rfl, rfl, rfl⟩
  | some s => exact ⟨rfl, rfl, rfl, rfl⟩

theorem sound_flush
    {w : World}
    (hSound : Sound w)
    (id sent : Nat)
    (resent : Bool) :
    Sound (w.flush id sent resent) := by
  rcases flush_rest w id sent resent with
    ⟨hNow, hRanges, hLeases, hSearched⟩
  constructor
  · intro i s hGet rangeId hRange
    rcases get?_flush hGet with ⟨s', hGet', _, _, hSame, _, _⟩
    rw [hRanges]
    exact hSound.hasRange i s' hGet' rangeId
      (hSame.symm.trans hRange)
  · intro i s hGet hState
    rcases get?_flush hGet with
      ⟨s', hGet', _, hSame, hRange, hRetired, hSince⟩
    have hOld :=
      hSound.waits i s' hGet' (hSame.symm.trans hState)
    rcases hOld.searched with ⟨search, hMem, hId, hAll, hQueued⟩
    have hLate : s'.stateSince ≤ s.stateSince := by
      rcases hSince with hSince | hSince
      · exact Nat.le_of_eq hSince.symm
      · rw [hSince]
        exact hOld.since
    have hKnown : s.stateSince ≤ w.now := by
      rcases hSince with hSince | hSince
      · rw [hSince]
        exact hOld.since
      · exact Nat.le_of_eq hSince
    refine
      ⟨?_, ⟨search, ?_, hId, ?_,
        Nat.le_trans hQueued hLate⟩, ?_⟩
    · rw [hRange]
      exact hOld.hasRange
    · rw [hSearched]
      exact hMem
    · rw [hRetired, hRange]
      exact hAll
    · rw [hNow]
      exact hKnown
  · intro i s hGet hState
    rcases get?_flush hGet with ⟨s', hGet', _, hSame, _, _, _⟩
    rw [hLeases]
    exact hSound.gone i s' hGet' (hSame.symm.trans hState)
  · intro i s j s₂ hFirst hSecond hUser hLive hLive₂
    rcases get?_flush hFirst with ⟨a, hFirst, hKey, hState, _⟩
    rcases get?_flush hSecond with
      ⟨b, hSecond, hKey₂, hState₂, _⟩
    rw [hKey, hKey₂] at hUser
    rw [hState] at hLive
    rw [hState₂] at hLive₂
    exact hSound.one i a j b hFirst hSecond hUser hLive hLive₂

/- What a launch starts from: a lab of its own in the queue. -/
theorem sound_queued
    {w : World}
    (hSound : Sound w)
    {id : Nat}
    {s : LabSession}
    (hState : s.state = .queued)
    (hRange : s.rangeId = none)
    (hFree : w.running s.key.userId = false) :
    Sound (w.commit (w.op id s)) := by
  have hNotRunning
      {j : Nat}
      {s' : LabSession}
      (hGet : w.sessions.get? j = some s')
      (hUser : s'.key.userId = s.key.userId) :
      s'.state.terminal = true := by
    have hNone := List.any_eq_false.mp hFree (j, s')
      (Dict.get?_eq_some_iff.mp hGet)
    simpa [hUser] using hNone
  constructor
  · intro i s' hGet rangeId hId
    rcases get?_commit hGet with ⟨_, rfl⟩ | ⟨_, hGet⟩
    · have hNone := hRange.symm.trans hId
      cases hNone
    · exact hSound.hasRange i s' hGet rangeId hId
  · intro i s' hGet hWait
    rcases get?_commit hGet with ⟨_, rfl⟩ | ⟨_, hGet⟩
    · have hSame := hState.symm.trans hWait
      cases hSame
    · have hOld := hSound.waits i s' hGet hWait
      exact ⟨hOld.hasRange, hOld.searched, hOld.since⟩
  · intro i s' hGet hDestroyed
    rcases get?_commit hGet with ⟨_, rfl⟩ | ⟨_, hGet⟩
    · have hSame := hState.symm.trans hDestroyed
      cases hSame
    · exact hSound.gone i s' hGet hDestroyed
  · intro i s₁ j s₂ hFirst hSecond hUser hLive₁ hLive₂
    rcases get?_commit hFirst with ⟨hi, rfl⟩ | ⟨_, hOld₁⟩
    · rcases get?_commit hSecond with ⟨hj, rfl⟩ | ⟨_, hOld₂⟩
      · exact hi.trans hj.symm
      · rw [hNotRunning hOld₂ hUser.symm] at hLive₂
        cases hLive₂
    · rcases get?_commit hSecond with ⟨hj, rfl⟩ | ⟨_, hOld₂⟩
      · rw [hNotRunning hOld₁ hUser] at hLive₁
        cases hLive₁
      · exact hSound.one i s₁ j s₂ hOld₁ hOld₂ hUser hLive₁
          hLive₂

/-
  One step: what it comes to is sound, and a port group that
  it takes from a session goes back to the pool only where it
  may.
-/
structure Advances
    (cfg : Settings)
    (w w' : World) : Prop where
  sound : Sound w'
  kept : ∀ portGroup id,
    holder w.leases portGroup = some id →
      holder w'.leases portGroup = some id ∨
        (holder w'.leases portGroup = none ∧
          ∃ s, w.sessions.get? id = some s ∧
            MayRelease cfg w id s)

theorem Advances.of_leases
    {cfg : Settings}
    {w w' : World}
    (hSound : Sound w')
    (hLeases : w'.leases = w.leases) :
    Advances cfg w w' := by
  refine ⟨hSound, ?_⟩
  intro portGroup id hHolder
  rw [hLeases]
  exact .inl hHolder

theorem Advances.flush
    {cfg : Settings}
    {w w' : World}
    (hAdvances : Advances cfg w w')
    (id sent : Nat)
    (resent : Bool) :
    Advances cfg w (w'.flush id sent resent) := by
  refine ⟨sound_flush hAdvances.sound id sent resent, ?_⟩
  rw [(flush_rest w' id sent resent).2.2.1]
  exact hAdvances.kept

/- What an operation gives back, its session may release. -/
theorem mayRelease
    {cfg : Settings}
    {w : World}
    {id : Nat}
    {s : LabSession}
    (hSound : Sound w)
    (hGet : w.sessions.get? id = some s)
    (hGone : Op.Gone cfg (w.op id s)) :
    MayRelease cfg w id s := by
  have hNone (hRange : (w.op id s).range = none) :
      s.rangeId = none := by
    cases hId : s.rangeId with
    | none => rfl
    | some rangeId =>
        have hSome := hSound.hasRange id s hGet rangeId hId
        have hRange' : w.ranges.get? rangeId = none := by
          simpa [Op.range, op, hId] using hRange
        rw [hRange'] at hSome
        cases hSome
  constructor
  · rcases hGone.range with hRange | hRange
    · exact .inl (hNone hRange)
    · cases hId : s.rangeId with
      | none => exact .inl rfl
      | some rangeId =>
          refine .inr ⟨rangeId, rfl, ?_⟩
          simpa [Op.range, op, hId] using hRange
  · intro hState
    have hWaits := hSound.waits id s hGet hState
    rcases hGone.waited hState with hRange | hLate
    · exact absurd (hNone hRange) hWaits.hasRange
    · rcases hWaits.searched with
        ⟨search, hMem, hId, hAll, hQueued⟩
      refine ⟨search, hMem, hId, hAll, ?_⟩
      exact Nat.le_trans (Nat.add_le_add_right hQueued _) hLate

theorem advances_operate
    {cfg : Settings}
    {w : World}
    (hSound : Sound w)
    (id : Nat)
    (operation : Operation)
    (o : Outside)
    (sent : Nat) :
    Advances cfg w (w.operate cfg id operation o sent) := by
  unfold operate
  cases hGet : w.sessions.get? id with
  | none => exact .of_leases hSound rfl
  | some s =>
      dsimp only
      cases hPerform :
          perform cfg o (w.tenantHeld s.key.tenantId)
            (w.op id s) operation with
      | error refusal => exact .of_leases hSound rfl
      | ok op =>
          have hOutcome : Op.Outcome cfg (w.op id s) op :=
            Op.outcome_perform hPerform
          have hSame : w.commit (w.op id s) = w := by
            unfold commit
            rw [show w.sessions.set (w.op id s).id
              (w.op id s).session = w.sessions from
                Dict.set_get? hGet]
            rfl
          apply Advances.flush
          constructor
          · apply sound_commit _ hOutcome
            · intro hOver
              exact Op.perform_terminal hOver hPerform
            · rw [hSame]
              exact hSound
          · intro portGroup i hHolder
            rcases hOutcome.holder portGroup with
              hKept | ⟨hNone, _⟩ | ⟨hOwn, hNone, hGone⟩
            · exact .inl (hKept.trans hHolder)
            · have hFalse := hNone.symm.trans hHolder
              cases hFalse
            · have hi := hOwn.symm.trans hHolder
              cases hi
              exact .inr ⟨hNone, s, hGet,
                mayRelease hSound hGet hGone⟩

theorem advances_launch
    {cfg : Settings}
    {o : Outside}
    {w w' : World}
    (hSound : Sound w)
    {id : Nat}
    {key : Key}
    {profile : LabProfile}
    {backend : String}
    (hLaunch :
      w.launch cfg o id key profile backend = .ok w') :
    Advances cfg w w' := by
  unfold launch at hLaunch
  dsimp only at hLaunch
  split at hLaunch
  · cases hLaunch
    exact .of_leases hSound rfl
  · rcases Checks.bind_eq_ok.mp hLaunch with
      ⟨_, hFree, hLaunch⟩
    rw [Checks.refuseIf_eq_ok] at hFree
    rcases Checks.bind_eq_ok.mp hLaunch with
      ⟨op, hStart, hLaunch⟩
    cases hLaunch
    have hMoves := Op.moves_start (by simp [World.op])
      (by simp [World.op]) hStart
    have hOutcome : Op.Outcome cfg (w.op id _) op :=
      .moved hMoves
    constructor
    · apply sound_commit _ hOutcome
      · intro hOver
        cases hOver
      · exact sound_queued hSound rfl rfl hFree
    · intro portGroup i hHolder
      rcases hMoves.takes portGroup with hKept | ⟨hNone, _⟩
      · exact .inl (hKept.trans hHolder)
      · have hFalse := hNone.symm.trans hHolder
        cases hFalse

theorem advances_step
    (cfg : Settings)
    {w : World}
    (hSound : Sound w)
    (a : Action) :
    Advances cfg w (w.step cfg a) := by
  cases a with
  | tick seconds =>
      exact .of_leases (sound_tick hSound seconds) rfl
  | report rangeId state =>
      simp only [step]
      split
      · exact .of_leases (sound_report hSound rangeId state) rfl
      · exact .of_leases hSound rfl
  | reportSnapshot snapshotId state =>
      simp only [step]
      split
      · exact .of_leases (sound_reportSnapshot hSound _) rfl
      · exact .of_leases hSound rfl
  | launch id key profile backend o sent =>
      simp only [step]
      split
      · exact .of_leases hSound rfl
      · cases hLaunch :
            w.launch cfg o id key profile backend with
        | error refusal => exact .of_leases hSound rfl
        | ok w' =>
            apply Advances.flush
            exact advances_launch hSound hLaunch
  | operate id operation o sent =>
      simp only [step]
      split
      · exact advances_operate hSound id operation o sent
      · exact .of_leases hSound rfl

theorem sound_run
    (cfg : Settings)
    (actions : List Action) :
    Sound (Runs.run (step cfg) fresh actions) := by
  apply Runs.run_invariant Sound _ sound_fresh
  intro w a hSound
  exact (advances_step cfg hSound a).sound

/-
  Whatever is done with labs, in every world that is reached:
  a port group is leased to one session; a step gives it back
  only once that session's machines are gone; a session that
  is over holds none, unless it failed; and a student has one
  lab of an activity at a time.
-/
theorem lab_networks_never_shared
    (cfg : Settings)
    (actions : List Action) :
    let w := Runs.run (step cfg) fresh actions
    (∀ portGroup lease lease' id id',
      (portGroup, lease) ∈ w.leases.entries →
      (portGroup, lease') ∈ w.leases.entries →
      lease.sessionId = some id →
      lease'.sessionId = some id' →
        id = id') ∧
    (∀ a portGroup id,
      holder w.leases portGroup = some id →
        holder (w.step cfg a).leases portGroup = some id ∨
          (holder (w.step cfg a).leases portGroup = none ∧
            ∃ s, w.sessions.get? id = some s ∧
              MayRelease cfg w id s)) ∧
    (∀ id s, w.sessions.get? id = some s →
      s.state.terminal = true →
      s.state ≠ .failed →
        ∀ portGroup, holder w.leases portGroup ≠ some id) ∧
    (∀ id s id' s',
      w.sessions.get? id = some s →
      w.sessions.get? id' = some s' →
      s.key = s'.key →
      s.state.terminal = false →
      s'.state.terminal = false →
        id = id') := by
  intro w
  have hSound : Sound w := sound_run cfg actions
  refine ⟨?_, ?_, ?_, ?_⟩
  · intro portGroup lease lease' id id' hRow hRow' hId hId'
    have hSame : some lease = some lease' :=
      (Dict.get?_eq_some_iff.mpr hRow).symm.trans
        (Dict.get?_eq_some_iff.mpr hRow')
    cases hSame
    exact Option.some.inj (hId.symm.trans hId')
  · intro a
    exact (advances_step cfg hSound a).kept
  · intro id s hGet hOver hFailed
    apply hSound.gone id s hGet
    cases hState : s.state with
    | destroyed => rfl
    | failed => exact absurd hState hFailed
    | _ =>
        rw [hState] at hOver
        cases hOver
  · intro id s id' s' hGet hGet' hKey hLive hLive'
    exact hSound.one id s id' s' hGet hGet'
      (congrArg Key.userId hKey) hLive hLive'

end World

end Lifecycle

end LabSessions

end TrueNorth
