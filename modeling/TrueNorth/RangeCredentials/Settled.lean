import TrueNorth.RangeCredentials.Preservation

/-
  The password that the code knows of an account logs in,
  and a change of it is settled once, by its own operation.

  Key definitions include:
    * `World.LogsIn`
    * `World.Settled`
    * `World.Keeps`

  Main theorems:
    * `World.settled_iff_keeps`
-/

--------
-- Passwords That Log In
--------

namespace TrueNorth

namespace RangeCredentials

namespace World

/-
  An account whose password is set in its guest stores the
  one that the guest has, and so does `in_guest_password` of
  an account with a change pending.
-/
structure LogsIn (w : World) : Prop where
  stored : ∀ id row,
    w.rows.get? id = some row → row.applied = true →
      row.pending = false → row.password = w.guest id
  inGuest : ∀ id row,
    w.rows.get? id = some row → row.pending = true →
      w.inGuestPassword id row = w.guest id

variable {w v : World}

theorem inGuestPassword_settled
    (w : World)
    (id : Nat)
    {row : RangeCredential}
    (hNot : row.pending = false) :
    w.inGuestPassword id row = row.password := by
  unfold RangeCredential.pending at hNot
  rw [Option.isSome_eq_false_iff, Option.isNone_iff_eq_none]
    at hNot
  unfold inGuestPassword
  rw [hNot]

/- Both are of the password that the code knows. -/
theorem logsIn_iff :
    LogsIn w ↔
      ∀ id row,
        w.rows.get? id = some row →
          (row.pending || row.applied) = true →
          w.inGuestPassword id row = w.guest id := by
  constructor
  · intro hLogs id row hGet hKnown
    by_cases hPending : row.pending = true
    · exact hLogs.inGuest id row hGet hPending
    · rw [Bool.not_eq_true] at hPending
      rw [hPending, Bool.false_or] at hKnown
      rw [inGuestPassword_settled w id hPending]
      exact hLogs.stored id row hGet hKnown hPending
  · intro hAll
    constructor
    · intro id row hGet hApplied hNot
      rw [← inGuestPassword_settled w id hNot]
      apply hAll id row hGet
      rw [hApplied, Bool.or_true]
    · intro id row hGet hPending
      apply hAll id row hGet
      rw [hPending, Bool.true_or]

/- What `in_guest_password` says of a restore's change. -/
theorem inGuestPassword_restore
    {id snapshotId previous : Nat}
    {row : RangeCredential}
    {snap : Snapshot}
    (hPrevious : row.previousPassword = some previous)
    (hOperation :
      row.pendingOperation = some (.restore snapshotId))
    (hSnap : w.snapshots.get? snapshotId = some snap) :
    w.inGuestPassword id row =
      if snap.state = .restoring then previous
      else (snap.recorded.get? id).getD previous := by
  unfold inGuestPassword
  simp only [hPrevious, hOperation, hSnap]

/- Nothing that `in_guest_password` reads has changed. -/
theorem LogsIn.of_same
    (hLogs : LogsIn w)
    (hRows : v.rows = w.rows)
    (hGuest : ∀ id row,
      w.rows.get? id = some row → v.guest id = w.guest id)
    (hSnapshots : ∀ id row snapshotId,
      w.rows.get? id = some row → row.pending = true →
        row.pendingOperation = some (.restore snapshotId) →
        (v.snapshots.get? snapshotId).map
            (fun snap => (decide (snap.state = .restoring),
              snap.recorded)) =
          (w.snapshots.get? snapshotId).map
            (fun snap => (decide (snap.state = .restoring),
              snap.recorded))) :
    LogsIn v := by
  constructor
  · intro id row hGet
    rw [hRows] at hGet
    rw [hGuest id row hGet]
    exact hLogs.stored id row hGet
  · intro id row hGet hPending
    rw [hRows] at hGet
    rw [hGuest id row hGet, ← hLogs.inGuest id row hGet hPending]
    exact inGuestPassword_congr (fun snapshotId =>
      hSnapshots id row snapshotId hGet hPending)

theorem LogsIn.finish
    (hLogs : LogsIn w)
    (task : Task) :
    LogsIn (w.finish task) :=
  hLogs.of_same rfl (fun _ _ _ => rfl) (fun _ _ _ _ _ _ => rfl)

/- Changes are settled with what the guests have. -/
theorem logsIn_settleWhere
    {which : Nat → RangeCredential → Bool}
    {password : Nat → RangeCredential → Nat}
    (settledBy : Option Nat)
    (hPicked : ∀ id row,
      w.rows.get? id = some row → which id row = true →
        password id row = w.guest id)
    (hRest : ∀ id row,
      w.rows.get? id = some row → which id row = false →
        (row.pending || row.applied) = true →
        w.inGuestPassword id row = w.guest id) :
    LogsIn (w.settleWhere which password settledBy) := by
  rw [logsIn_iff]
  intro id row' hGet' hKnown
  rcases rows_settleWhere.mp hGet' with ⟨row, hGet, rfl⟩
  by_cases hWhich : which id row = true
  · rw [if_pos hWhich, inGuestPassword_settled _ _ rfl]
    exact hPicked id row hGet hWhich
  · rw [if_neg hWhich] at hKnown ⊢
    exact hRest id row hGet (Bool.eq_false_iff.mpr hWhich) hKnown

--------
-- Settled Worlds
--------

/-
  A range of which a failed restore has reverted some VMs is
  no built range: the code marks it `failed`, to be built
  again, until a restore reverts them all.
-/
structure Settled (w : World) : Prop where
  logsIn : w.mixed = false → LogsIn w
  once : (w.log.map Settlement.change).Nodup
  own : ∀ e ∈ w.log,
    e.settledBy = none ∨ e.settledBy = some e.run

variable {w v : World}

/- Nothing is settled by the step. -/
theorem Settled.of_log
    (hSettled : Settled w)
    (hLog : v.log = w.log) :
    Settled v ↔ (v.mixed = false → LogsIn v) := by
  constructor
  · exact fun hNext => hNext.logsIn
  · intro hLogs
    refine ⟨hLogs, ?_, ?_⟩
    · rw [hLog]
      exact hSettled.once
    · rw [hLog]
      exact hSettled.own

/- Pending changes that are settled were not before. -/
theorem once_settleWhere
    (hSteady : Steady w)
    (hOnce : (w.log.map Settlement.change).Nodup)
    {which : Nat → RangeCredential → Bool}
    (password : Nat → RangeCredential → Nat)
    (settledBy : Option Nat)
    (hWhich : ∀ id row,
      w.rows.get? id = some row → which id row = true →
        row.pending = true) :
    ((w.settleWhere which password settledBy).log.map
      Settlement.change).Nodup := by
  unfold settleWhere
  rw [List.map_append, List.map_map]
  refine List.nodup_append.mpr ⟨hOnce, ?_, ?_⟩
  · -- an account has one change
    apply List.Nodup.of_map Prod.fst
    rw [List.map_map]
    exact w.rows.nodup.sublist (List.filter_sublist.map _)
  · intro old hOld new hNew hSame
    rcases List.mem_map.mp hOld with ⟨e, hMem, rfl⟩
    rcases List.mem_map.mp hNew with ⟨⟨id, row⟩, hEntry, rfl⟩
    rcases List.mem_filter.mp hEntry with ⟨hRow, hPick⟩
    rw [← Dict.get?_eq_some_iff] at hRow
    exact hSteady.unsettled id row hRow (hWhich id row hRow hPick)
      e hMem hSame

theorem own_settleWhere
    (hOwn : ∀ e ∈ w.log,
      e.settledBy = none ∨ e.settledBy = some e.run)
    {which : Nat → RangeCredential → Bool}
    (password : Nat → RangeCredential → Nat)
    {settledBy : Option Nat} :
    (∀ e ∈ (w.settleWhere which password settledBy).log,
        e.settledBy = none ∨ e.settledBy = some e.run) ↔
      ∀ id row,
        w.rows.get? id = some row → which id row = true →
          settledBy = none ∨ settledBy = some row.run := by
  constructor
  · intro hAll id row hGet hWhich
    exact hAll ⟨id, row.run, settledBy⟩
      (mem_log_settleWhere.mpr
        (.inr ⟨id, row, hGet, hWhich, rfl⟩))
  · intro hAll e hMem
    rcases mem_log_settleWhere.mp hMem with hOld | hNew
    · exact hOwn e hOld
    · rcases hNew with ⟨id, row, hGet, hWhich, rfl⟩
      exact hAll id row hGet hWhich

--------
-- The End of a Restore
--------

/-
  Some account with a change pending, which a restore did
  not revert, has another password than was recorded.
-/
def stranded
    (w : World)
    (recorded : Dict Nat Nat)
    (reverted : Nat → Bool) : Bool :=
  w.rows.entries.any (fun entry =>
    entry.2.pending && !reverted entry.1 &&
      recorded.get? entry.1 ≠ entry.2.previousPassword)

variable {w v : World}

/- While it is restored, a pending account is as it was. -/
theorem Restoring.inGuestPassword
    {snapshotId run : Nat}
    {snap : Snapshot}
    (hRestoring : w.Restoring snapshotId run snap)
    (hSnap : w.snapshots.get? snapshotId = some snap)
    (hState : snap.state = .restoring)
    {id : Nat}
    {row : RangeCredential}
    (hGet : w.rows.get? id = some row)
    (hPending : row.pending = true) :
    row.previousPassword = some (w.inGuestPassword id row) := by
  rcases Option.isSome_iff_exists.mp hPending with
    ⟨previous, hPrevious⟩
  rw [hPrevious, inGuestPassword_restore hPrevious
    (hRestoring.pending id row hGet hPending).1 hSnap,
    if_pos hState]

/-
  The snapshot is ready again and the changes are pending:
  the passwords are right unless some account is stranded.
-/
theorem logsIn_left_pending
    (hSteady : Steady w)
    {snapshotId run : Nat}
    {snap snap' : Snapshot}
    (hRestoring : w.Restoring snapshotId run snap)
    (hSnap : w.snapshots.get? snapshotId = some snap)
    (hState : snap.state = .restoring)
    {reverted : Nat → Bool}
    (hLogs : ∀ id row,
      w.rows.get? id = some row → reverted id = false →
        (row.pending || row.applied) = true →
        w.inGuestPassword id row = w.guest id)
    (hRows : v.rows = w.rows)
    (hReady : v.snapshots.get? snapshotId = some snap')
    (hState' : snap'.state = .ready)
    (hRecorded : snap'.recorded = snap.recorded)
    (hGuest : ∀ id row password,
      w.rows.get? id = some row →
        snap.recorded.get? id = some password →
        v.guest id =
          if reverted id then password else w.guest id) :
    LogsIn v ↔ w.stranded snap.recorded reverted = false := by
  -- what is said of a pending account is what was recorded
  have hSaid : ∀ id row,
      w.rows.get? id = some row → row.pending = true →
        some (v.inGuestPassword id row) =
          snap.recorded.get? id := by
    intro id row hGet hPending
    rcases hSteady.recorded snapshotId snap id row hSnap hGet
      with ⟨password, hPassword, _⟩
    rw [inGuestPassword_restore
      (hRestoring.inGuestPassword hSnap hState hGet hPending)
      (hRestoring.pending id row hGet hPending).1 hReady,
      if_neg (by rw [hState']; rintro ⟨⟩), hRecorded,
      hPassword, Option.getD_some]
  unfold stranded
  rw [List.any_eq_false]
  constructor
  · intro hNext entry hMem hStranded
    rw [← Dict.get?_eq_some_iff] at hMem
    simp only [Bool.and_eq_true, Bool.not_eq_true',
      decide_eq_true_eq] at hStranded
    rcases hStranded with ⟨⟨hPending, hNot⟩, hDiffer⟩
    rcases hSteady.recorded snapshotId snap entry.1 entry.2
      hSnap hMem with ⟨password, hPassword, _⟩
    apply hDiffer
    rw [← hSaid entry.1 entry.2 hMem hPending,
      hNext.inGuest entry.1 entry.2 (hRows ▸ hMem) hPending,
      hGuest entry.1 entry.2 password hMem hPassword,
      if_neg (by rw [hNot]; rintro ⟨⟩),
      ← hLogs entry.1 entry.2 hMem hNot
        (by rw [hPending, Bool.true_or])]
    exact (hRestoring.inGuestPassword hSnap hState hMem
      hPending).symm
  · intro hNone
    rw [logsIn_iff]
    intro id row hGet hKnown
    rw [hRows] at hGet
    rcases hSteady.recorded snapshotId snap id row hSnap hGet
      with ⟨password, hPassword, _⟩
    rw [hGuest id row password hGet hPassword]
    by_cases hPending : row.pending = true
    · have hSays := hSaid id row hGet hPending
      by_cases hReverted : reverted id = true
      · rw [hPassword] at hSays
        rw [if_pos hReverted]
        exact Option.some.inj hSays
      · have hNot := hNone _ (Dict.get?_eq_some_iff.mp hGet)
        rw [Bool.not_eq_true] at hReverted
        simp only [hPending, hReverted, Bool.not_false,
          Bool.and_self, Bool.true_and, decide_eq_true_eq,
          not_not] at hNot
        rw [if_neg (by rw [hReverted]; rintro ⟨⟩),
          ← hLogs id row hGet hReverted hKnown]
        apply Option.some.inj
        rw [hSays, hNot]
        exact hRestoring.inGuestPassword hSnap hState hGet
          hPending
    · rw [Bool.not_eq_true] at hPending
      rw [hPending, Bool.false_or] at hKnown
      have hKept := hRestoring.kept id row hGet hPending hKnown
      rw [hPassword] at hKept
      rw [inGuestPassword_settled v id hPending]
      by_cases hReverted : reverted id = true
      · rw [if_pos hReverted]
        exact (Option.some.inj hKept).symm
      · rw [Bool.not_eq_true] at hReverted
        rw [if_neg (by rw [hReverted]; rintro ⟨⟩),
          ← hLogs id row hGet hReverted
            (by rw [hKnown, Bool.or_true]),
          inGuestPassword_settled w id hPending]

/- The guests are as they were, and the changes rolled back. -/
theorem logsIn_rollBack
    {snapshotId run : Nat}
    {snap : Snapshot}
    (hRestoring : w.Restoring snapshotId run snap)
    (hSnap : w.snapshots.get? snapshotId = some snap)
    (hState : snap.state = .restoring)
    (hLogs : LogsIn w)
    (hRows : v.rows = w.rows)
    (hGuest : ∀ id row,
      w.rows.get? id = some row → v.guest id = w.guest id) :
    LogsIn (v.rollBack run (.restore snapshotId)) := by
  apply logsIn_settleWhere
  · intro id row hGet hWhich
    rw [hRows] at hGet
    rw [Bool.and_eq_true] at hWhich
    rw [hGuest id row hGet, ← hLogs.inGuest id row hGet hWhich.1]
    unfold revertTo
    rw [hRestoring.inGuestPassword hSnap hState hGet hWhich.1]
    rfl
  · intro id row hGet hWhich hKnown
    rw [hRows] at hGet
    by_cases hPending : row.pending = true
    · -- every pending change is the restore's
      rw [hPending, (hRestoring.pending id row hGet hPending).1]
        at hWhich
      simp at hWhich
    · rw [Bool.not_eq_true] at hPending
      rw [hPending, Bool.false_or] at hKnown
      rw [inGuestPassword_settled v id hPending,
        hGuest id row hGet]
      exact hLogs.stored id row hGet hKnown hPending

end World

end RangeCredentials

end TrueNorth

--------
-- Steps That Keep It Settled
--------

namespace TrueNorth

namespace RangeCredentials

open RangeOps (RangeState)

/-
  A restore may end with its snapshot ready and its changes
  left pending, whether a revert of them ran or not.
-/
def RestoreResult.leavesPending :
    RestoreResult → Option (Nat → Bool)
| .held => some (fun _ => false)
| .lost reverted => some reverted
| _ => none

namespace World

/-
  A rotation is accepted only where the guest has the
  account's password; a restore that leaves its changes
  pending strands none of them; and a rotation task finds
  only changes of its own acceptance.
-/
def Keeps (w : World) : Action → Prop
| .rotate credentialId _ allowed _ =>
    w.mixed = false →
      ∀ row, w.rows.get? credentialId = some row →
        w.accepts row allowed = true →
        row.password = w.guest credentialId
| .restoreEnds run snapshotId result _ =>
    w.mixed = false → .restore run snapshotId ∈ w.tasks →
      ∀ snap, w.snapshots.get? snapshotId = some snap →
        ∀ reverted, result.leavesPending = some reverted →
          w.stranded snap.recorded reverted = false
| .rotationEnds run operation only snapshotId _ =>
    .rotate run operation only snapshotId ∈ w.tasks →
      w.foreign run operation only = false
| _ => True

variable {w : World}

theorem Settled.createSnapshot
    (hSettled : Settled w)
    (hSteady : Steady w)
    {snapshotId : Nat}
    (hFresh : w.snapshots.get? snapshotId = none)
    (sent : Bool) :
    Settled (w.snapshotted snapshotId sent) := by
  refine (hSettled.of_log (by rfl)).mpr ?_
  intro hMixed
  refine (hSettled.logsIn hMixed).of_same rfl
    (fun _ _ _ => rfl) ?_
  intro id row other hGet hPending hOperation
  rcases hSteady.operation id row other hGet hPending hOperation
    with ⟨snap, hSnap⟩
  unfold World.snapshotted
  rw [Dict.get?_set_ne _]
  intro hSame
  rw [hSame, hFresh] at hSnap
  cases hSnap

theorem Settled.snapshotEnds
    (hSettled : Settled w)
    (snapshotId : Nat)
    (taking : Taking) :
    Settled (w.snapshotEnds snapshotId taking) := by
  unfold World.snapshotEnds
  cases hSnap : w.snapshots.get? snapshotId with
  | none => exact hSettled
  | some snap =>
      by_cases hSkip :
          (snap.state ≠ .creating && snap.state ≠ .failed) = true
      · simp only [if_pos hSkip]
        refine (hSettled.of_log (by rfl)).mpr ?_
        exact fun hMixed =>
          (hSettled.logsIn hMixed).of_same rfl
            (fun _ _ _ => rfl) (fun _ _ _ _ _ _ => rfl)
      · have hBefore : snap.state ≠ .restoring := by
          intro hState
          rw [hState] at hSkip
          exact hSkip rfl
        -- the snapshot is in no restore, before or after
        have hMove : ∀ (snap' : Snapshot) (tasks : List Task),
            snap'.state ≠ .restoring →
            snap'.recorded = snap.recorded →
            Settled
              { w with
                snapshots := w.snapshots.set snapshotId snap'
                tasks := tasks } := by
          intro snap' tasks hAfter hRecorded
          refine (hSettled.of_log (by rfl)).mpr ?_
          intro hMixed
          refine (hSettled.logsIn hMixed).of_same rfl
            (fun _ _ _ => rfl) ?_
          intro id row other hGet hPending hOperation
          dsimp only
          rw [Dict.get?_set]
          by_cases hId : other = snapshotId
          · rw [if_pos hId, hId, hSnap, Option.map_some,
              Option.map_some, hRecorded,
              decide_eq_false hAfter, decide_eq_false hBefore]
          · rw [if_neg hId]
        simp only [if_neg hSkip]
        cases taking with
        | taken => exact hMove _ _ nofun rfl
        | retried => exact hMove _ _ nofun rfl
        | failed => exact hMove _ _ nofun rfl

theorem Settled.restoreSent
    (hSettled : Settled w)
    (hIdle : w.anyPending = false)
    (snapshotId : Nat)
    (snap : Snapshot)
    (new : Nat → Nat) :
    Settled (w.restoreSent snapshotId snap new) := by
  refine (hSettled.of_log (by rfl)).mpr ?_
  intro hMixed
  have hLogs := hSettled.logsIn hMixed
  rw [logsIn_iff]
  intro id row' hGet' hKnown
  rcases rows_restoreSent.mp hGet' with ⟨row, hGet, rfl⟩
  have hNot := not_pending hIdle hGet
  have hGuest : (w.restoreSent snapshotId snap new).guest id =
      w.guest id := rfl
  by_cases hPending :
      (restoreRow snap.recorded snapshotId w.nextRun new id
        row).pending = true
  · rcases restoreRow_pending hNot hPending with
      ⟨hOperation, _, hPrevious, hApplied, _⟩
    have hSnap :
        (w.restoreSent snapshotId snap new).snapshots.get?
            snapshotId =
          some { snap with state := .restoring } :=
      Dict.get?_set_self _ _ _
    rw [inGuestPassword_restore hPrevious hOperation hSnap,
      if_pos rfl, hGuest]
    exact hLogs.stored id row hGet hApplied hNot
  · rw [Bool.not_eq_true] at hPending
    have hRow := (restoreRow_kept hPending).1
    rw [hRow] at hPending hKnown ⊢
    rw [hPending, Bool.false_or] at hKnown
    rw [inGuestPassword_settled _ id hPending, hGuest]
    exact hLogs.stored id row hGet hKnown hPending

/- The account's guest has the password that is put aside. -/
theorem Settled.rotated_iff
    (hSettled : Settled w)
    (credentialId : Nat)
    (row : RangeCredential)
    (new : Nat)
    (sent : Bool) :
    Settled (w.rotated credentialId new row sent) ↔
      (w.mixed = false →
        row.password = w.guest credentialId) := by
  refine (hSettled.of_log (by rfl)).trans ?_
  have hMixed :
      (w.rotated credentialId new row sent).mixed = w.mixed :=
    rfl
  rw [hMixed]
  have hRow :
      (w.rotated credentialId new row sent).rows.get?
          credentialId =
        some (row.rotateInPlace row.password
          (.rotation w.nextRun) w.nextRun new) :=
    Dict.get?_set_self _ _ _
  constructor
  · intro hLogs hWhole
    exact (hLogs hWhole).inGuest credentialId _ hRow rfl
  · intro hSame hWhole
    have hLogs := hSettled.logsIn hWhole
    rw [logsIn_iff]
    intro id row' hGet' hKnown
    by_cases hId : id = credentialId
    · rw [hId, hRow] at hGet'
      cases hGet'
      rw [hId]
      exact hSame hWhole
    · have hOld : w.rows.get? id = some row' := by
        unfold World.rotated at hGet'
        rw [Dict.get?_set_ne hId] at hGet'
        exact hGet'
      exact logsIn_iff.mp hLogs id row' hOld hKnown

/- A restore task that has not ended restores its snapshot. -/
theorem Steady.restoring_of_task
    (hSteady : Steady w)
    {run snapshotId : Nat}
    (hTask : .restore run snapshotId ∈ w.tasks) :
    ∃ snap, w.snapshots.get? snapshotId = some snap ∧
      snap.state = .restoring ∧
      w.Restoring snapshotId run snap := by
  rcases hSteady.restoreTask run snapshotId hTask with
    ⟨snap, hSnap, hState⟩
  refine ⟨snap, hSnap, hState, ?_⟩
  rcases hSteady.restoring snapshotId snap hSnap hState with
    ⟨run', hRestoring⟩
  rcases hSteady.oneRestore run' snapshotId run snapshotId
    hRestoring.task hTask with ⟨rfl, _⟩
  exact hRestoring

/- What a revert makes of the guests. -/
theorem guest_revert
    {v : World}
    {recorded : Dict Nat Nat}
    {reverted : Nat → Bool}
    {id password : Nat}
    {row : RangeCredential}
    (hGet : v.rows.get? id = some row)
    (hPassword : recorded.get? id = some password) :
    (v.revert recorded reverted).guest id =
      if reverted id then password else v.guest id := by
  unfold revert
  rw [guest_changeGuests _ _ hGet, hPassword, Option.isSome_some,
    Bool.and_true, Option.getD_some]

/- The revert reached no account of the range. -/
theorem guest_revert_none
    {v : World}
    {recorded : Dict Nat Nat}
    {reverted : Nat → Bool}
    (hNone : v.anyReverted reverted = false)
    {id : Nat}
    {row : RangeCredential}
    (hGet : v.rows.get? id = some row) :
    (v.revert recorded reverted).guest id = v.guest id := by
  unfold anyReverted at hNone
  rw [List.any_eq_false] at hNone
  have hNot := hNone _ (Dict.get?_eq_some_iff.mp hGet)
  rw [Bool.not_eq_true] at hNot
  unfold revert
  rw [guest_changeGuests _ _ hGet, hNot, Bool.false_and,
    if_neg Bool.false_ne_true]

/- A task rolls back the changes of its own restore. -/
theorem Settled.rollBack
    (hSettled : Settled w)
    (hSteady : Steady w)
    {run snapshotId : Nat}
    {snap : Snapshot}
    (hRestoring : w.Restoring snapshotId run snap)
    {v : World}
    (hRows : v.rows = w.rows)
    (hLog : v.log = w.log)
    (hLogs :
      v.mixed = false →
        LogsIn (v.rollBack run (.restore snapshotId))) :
    Settled (v.rollBack run (.restore snapshotId)) := by
  have hPending : ∀ {row : RangeCredential},
      (row.pending && row.pendingOperation =
        some (.restore snapshotId)) = true →
      row.pending = true := by
    intro row hWhich
    rw [Bool.and_eq_true] at hWhich
    exact hWhich.1
  refine ⟨hLogs, ?_, ?_⟩
  · have hOnce := once_settleWhere hSteady hSettled.once
      (fun id row => w.revertTo none id row) (some run)
      (fun _ _ _ hWhich => hPending hWhich)
    unfold World.rollBack settleWhere
    unfold settleWhere at hOnce
    rw [hRows, hLog]
    exact hOnce
  · unfold World.rollBack
    rw [own_settleWhere (by rw [hLog]; exact hSettled.own) _]
    intro id row hGet hWhich
    rw [hRows] at hGet
    rw [(hRestoring.pending id row hGet (hPending hWhich)).2]
    exact .inr rfl

/- The changes of a restore stay pending as it ends. -/
theorem Settled.left_pending
    (hSettled : Settled w)
    (hSteady : Steady w)
    {run snapshotId : Nat}
    {snap : Snapshot}
    (hSnap : w.snapshots.get? snapshotId = some snap)
    (hState : snap.state = .restoring)
    (hRestoring : w.Restoring snapshotId run snap)
    {reverted : Nat → Bool}
    {v : World}
    (hRows : v.rows = w.rows)
    (hLog : v.log = w.log)
    (hMixed : v.mixed = w.mixed)
    (hReady : ∃ snap',
      v.snapshots.get? snapshotId = some snap' ∧
        snap'.state = .ready ∧ snap'.recorded = snap.recorded)
    (hGuest : ∀ id row password,
      w.rows.get? id = some row →
        snap.recorded.get? id = some password →
        v.guest id =
          if reverted id then password else w.guest id) :
    Settled v ↔
      (w.mixed = false →
        w.stranded snap.recorded reverted = false) := by
  refine (hSettled.of_log hLog).trans ?_
  rw [hMixed]
  apply forall_congr'
  intro hWhole
  rcases hReady with ⟨snap', hSnap', hState', hRecorded⟩
  have hLogs := logsIn_iff.mp (hSettled.logsIn hWhole)
  exact logsIn_left_pending hSteady hRestoring hSnap hState
    (fun id row hGet _ => hLogs id row hGet) hRows hSnap' hState'
    hRecorded hGuest

/- `_after_restore` and the rest, one result at a time. -/
theorem Settled.restoreEnds_iff
    (hSettled : Settled w)
    (hSteady : Steady w)
    {run snapshotId : Nat}
    {snap : Snapshot}
    (hSnap : w.snapshots.get? snapshotId = some snap)
    (hState : snap.state = .restoring)
    (hRestoring : w.Restoring snapshotId run snap)
    (result : RestoreResult)
    (sent : Bool) :
    Settled (w.restoreEnds run snapshotId result sent) ↔
      (w.mixed = false → ∀ reverted,
        result.leavesPending = some reverted →
          w.stranded snap.recorded reverted = false) := by
  have hReady :
      (w.back run snapshotId snap).snapshots.get? snapshotId =
        some { snap with state := .ready } :=
    Dict.get?_set_self _ _ _
  unfold World.restoreEnds
  simp only [hSnap]
  cases result with
  | restored =>
      refine iff_of_true ?_ (by rintro _ _ ⟨⟩)
      refine (hSettled.of_log (by rfl)).mpr ?_
      intro _
      have hVoid : ∀ id row,
          w.rows.get? id = some row →
            (fun _ : Nat => true) id = false →
            (row.pending || row.applied) = true →
            w.inGuestPassword id row = w.guest id := by
        intro id row _ hNot
        cases hNot
      have hReverted : LogsIn
          ((w.back run snapshotId snap).revert snap.recorded
            (fun _ => true)) := by
        have hReady' :
            ((w.back run snapshotId snap).revert snap.recorded
              (fun _ => true)).snapshots.get? snapshotId =
                some { snap with state := .ready } :=
          hReady
        refine (logsIn_left_pending hSteady hRestoring hSnap
          hState hVoid (by rfl) hReady' rfl rfl ?_).mpr ?_
        · intro id row password hGet hPassword
          exact guest_revert (v := w.back run snapshotId snap)
            hGet hPassword
        · unfold stranded
          simp
      exact hReverted.of_same (by rfl) (fun _ _ _ => by rfl)
        (fun _ _ _ _ _ _ => by rfl)
  | skipped =>
      refine iff_of_true ?_ (by rintro _ _ ⟨⟩)
      apply hSettled.rollBack hSteady hRestoring
      · rfl
      · rfl
      · intro hWhole
        exact logsIn_rollBack hRestoring hSnap hState
          (hSettled.logsIn hWhole) rfl (fun _ _ _ => rfl)
  | held =>
      simp only [RestoreResult.leavesPending, Option.some.injEq,
        forall_eq']
      exact hSettled.left_pending hSteady hSnap hState hRestoring
        rfl rfl rfl ⟨_, hReady, rfl, rfl⟩ (fun _ _ _ _ _ => rfl)
  | lost reverted =>
      simp only [RestoreResult.leavesPending, Option.some.injEq,
        forall_eq']
      exact hSettled.left_pending hSteady hSnap hState hRestoring
        rfl rfl rfl ⟨_, hReady, rfl, rfl⟩
        (fun id row password hGet hPassword =>
          guest_revert (v := w.back run snapshotId snap)
            hGet hPassword)
  | retried reverted =>
      refine iff_of_true ?_ (by rintro _ _ ⟨⟩)
      refine (hSettled.of_log (by rfl)).mpr ?_
      intro hWhole
      rcases Bool.or_eq_false_iff.mp hWhole with ⟨hOld, hNone⟩
      exact (hSettled.logsIn hOld).of_same (by rfl)
        (fun _ _ hGet => guest_revert_none hNone hGet)
        (fun _ _ _ _ _ _ => by rfl)
  | failed reverted cutOff =>
      refine iff_of_true ?_ (by rintro _ _ ⟨⟩)
      apply hSettled.rollBack hSteady hRestoring
      · rfl
      · rfl
      · intro hWhole
        rcases Bool.or_eq_false_iff.mp hWhole with ⟨hOld, hNone⟩
        apply logsIn_rollBack hRestoring hSnap hState
          (hSettled.logsIn hOld) (by rfl)
        intro id row hGet
        exact guest_revert_none (v := w.back run snapshotId snap)
          hNone hGet

/-
  Where no restore is in progress, what a failed change is
  put back to is what the guest has.
-/
theorem revertTo_guest
    (hSteady : Steady w)
    (hLogs : LogsIn w)
    {run : Nat}
    {operation : Operation}
    {only snapshotId : Option Nat}
    (hTask : .rotate run operation only snapshotId ∈ w.tasks)
    (hOwn : w.foreign run operation only = false)
    {id : Nat}
    {row : RangeCredential}
    (hGet : w.rows.get? id = some row)
    (hTarget : targeted operation only id row = true) :
    w.revertTo snapshotId id row = w.guest id := by
  rcases targeted_pending hTarget with ⟨hPending, hOperation⟩
  rcases Option.isSome_iff_exists.mp hPending with
    ⟨previous, hPrevious⟩
  rw [← hLogs.inGuest id row hGet hPending]
  rcases hSteady.follows run operation only snapshotId hTask with
    ⟨⟨hKind, hNone⟩ | ⟨other, hKind, hSome⟩, hOther⟩
  · rw [hKind] at hOperation
    rw [hNone]
    unfold revertTo World.inGuestPassword
    simp only [hPrevious, hOperation, Option.bind_none,
      Option.none_or, Option.getD_some]
  · rw [hKind] at hOperation
    rcases hSteady.operation id row other hGet hPending
      hOperation with ⟨snap, hSnap⟩
    have hState : snap.state ≠ .restoring := by
      intro hState
      rcases hSteady.restoring other snap hSnap hState with
        ⟨run', hRestoring⟩
      have hRun :=
        (hRestoring.pending id row hGet hPending).2
      rw [own_of_not_foreign hOwn hGet hTarget] at hRun
      exact hOther run' other hRestoring.task hRun.symm
    rcases hSteady.recorded other snap id row hSnap hGet with
      ⟨password, hPassword, _⟩
    rw [inGuestPassword_restore hPrevious hOperation hSnap,
      if_neg hState, hSome]
    unfold revertTo
    rw [Option.bind_some, hSnap, Option.bind_some, hPassword,
      Option.some_or, Option.getD_some, Option.getD_some]

/- A rotation task settles what is its own. -/
theorem Settled.rotationEnds_iff
    (hSettled : Settled w)
    (hSteady : Steady w)
    {run : Nat}
    {operation : Operation}
    {only snapshotId : Option Nat}
    (hTask : .rotate run operation only snapshotId ∈ w.tasks)
    (verified : Nat → Bool) :
    Settled
        (w.rotationEnds run operation only snapshotId
          verified) ↔
      w.foreign run operation only = false := by
  constructor
  · intro hNext
    have hOwn := (own_settleWhere hSettled.own
      (fun _ row => row.password)).mp hNext.own
    unfold foreign
    rw [List.any_eq_false]
    intro entry hMem
    rw [← Dict.get?_eq_some_iff] at hMem
    rw [Bool.and_eq_true, decide_eq_true_eq, not_and, not_not]
    intro hTarget
    rcases hOwn entry.1 entry.2 hMem hTarget with hNone | hSome
    · cases hNone
    · exact (Option.some.inj hSome).symm
  · intro hOwn
    have hPending : ∀ id row, w.rows.get? id = some row →
        targeted operation only id row = true →
        row.pending = true :=
      fun _ _ _ hTarget => (targeted_pending hTarget).1
    refine ⟨?_, ?_, ?_⟩
    · intro hWhole
      have hLogs := hSettled.logsIn hWhole
      unfold World.rotationEnds
      apply LogsIn.finish
      refine logsIn_settleWhere (some run) ?_ ?_
      · intro id row hGet hTarget
        rw [guest_changeGuests (w := w) _ _ hGet, hTarget,
          Bool.true_and]
        by_cases hVerified : verified id = true
        · rw [if_pos hVerified, if_pos hVerified]
        · rw [if_neg hVerified, if_neg hVerified]
          exact revertTo_guest hSteady hLogs hTask hOwn hGet
            hTarget
      · intro id row hGet hNot hKnown
        rw [guest_changeGuests (w := w) _ _ hGet, hNot,
          Bool.false_and, if_neg Bool.false_ne_true,
          ← logsIn_iff.mp hLogs id row hGet hKnown]
        exact inGuestPassword_congr (fun _ _ => rfl)
    · exact once_settleWhere hSteady hSettled.once
        (fun _ row => row.password) (some run) hPending
    · apply (own_settleWhere hSettled.own
        (fun _ row => row.password)).mpr
      intro id row hGet hTarget
      rw [own_of_not_foreign hOwn hGet hTarget]
      exact .inr rfl

theorem Settled.forceSettle
    (hSettled : Settled w)
    (hSteady : Steady w)
    {credentialId : Nat}
    {row : RangeCredential}
    (hGet : w.rows.get? credentialId = some row)
    (hPending : row.pending = true) :
    Settled
      (w.settleWhere (fun id _ => id = credentialId)
        w.inGuestPassword none) := by
  have hOnly : ∀ id row', w.rows.get? id = some row' →
      decide (id = credentialId) = true →
      row'.pending = true := by
    intro id row' hGet' hWhich
    rw [decide_eq_true_eq] at hWhich
    rw [hWhich, hGet] at hGet'
    cases hGet'
    exact hPending
  refine ⟨?_, ?_, ?_⟩
  · intro hWhole
    have hLogs := hSettled.logsIn hWhole
    refine logsIn_settleWhere none ?_ ?_
    · exact fun id row' hGet' hWhich =>
        hLogs.inGuest id row' hGet' (hOnly id row' hGet' hWhich)
    · exact fun id row' hGet' _ hKnown =>
        logsIn_iff.mp hLogs id row' hGet' hKnown
  · exact once_settleWhere hSteady hSettled.once _ none hOnly
  · exact (own_settleWhere hSettled.own _).mpr
      (fun _ _ _ _ => .inl rfl)

--------
-- Runs That Keep It Settled
--------

variable {w : World}

theorem Steady.step
    (hSteady : Steady w)
    (a : Action)
    (hKeeps : w.Keeps a) :
    Steady (w.step a) := by
  cases a with
  | createSnapshot snapshotId allowed sent =>
      by_cases hOld :
          (w.snapshots.get? snapshotId).isSome = true
      · simp only [World.step, if_pos hOld]
        exact hSteady
      · simp only [World.step, if_neg hOld]
        rw [Option.not_isSome_iff_eq_none] at hOld
        cases hOk :
            w.createSnapshot snapshotId allowed sent with
        | error e => exact hSteady
        | ok w' =>
            rcases createSnapshot_eq_ok hOk with
              ⟨_, hState, hNone, rfl⟩
            exact hSteady.snapshotted hOld hState hNone sent
  | snapshotEnds snapshotId taking =>
      simp only [World.step]
      split_ifs
      · exact hSteady.snapshotEnds snapshotId taking
      · exact hSteady
  | restore snapshotId new allowed sent =>
      simp only [World.step]
      cases hOk : w.restore snapshotId new allowed sent with
      | error e => exact hSteady
      | ok w' =>
          rcases restore_eq_ok hOk with
            ⟨hState, hNone, hIdle, snap, hSnap, _, rfl⟩
          by_cases hSent : sent = true
          · rw [if_pos hSent]
            exact hSteady.restoreSent hState hNone hIdle hSnap new
          · rw [if_neg hSent]
            exact hSteady
  | restoreEnds run snapshotId result sent =>
      by_cases hTask :
          (w.tasks.contains (.restore run snapshotId) &&
            (!result.isRestored || w.restorable)) = true
      · simp only [World.step, if_pos hTask]
        rw [Bool.and_eq_true, List.contains_iff_mem] at hTask
        exact hSteady.restoreEnds hTask.1 result sent
      · simp only [World.step, if_neg hTask]
        exact hSteady
  | rotate credentialId new allowed sent =>
      simp only [World.step]
      cases hGet : w.rows.get? credentialId with
      | none =>
          unfold World.rotate
          simp only [hGet]
          exact hSteady
      | some row =>
          rw [rotate_eq hSteady.stands hGet]
          by_cases hAccepts : w.accepts row allowed = true
          · rw [if_pos hAccepts]
            unfold accepts at hAccepts
            simp only [Bool.and_eq_true, Bool.not_eq_true']
              at hAccepts
            rcases hAccepts with
              ⟨⟨⟨⟨⟨hRotatable, _⟩, _⟩, hChangeable⟩, _⟩, hNone⟩
            have hFree : row.fixed = false := by
              unfold RangeCredential.fixed
              rw [hRotatable, hChangeable]
              rfl
            exact hSteady.rotated hGet hNone hFree new sent
          · rw [if_neg hAccepts]
            exact hSteady
  | rotationEnds run operation only snapshotId verified =>
      by_cases hTask :
          w.tasks.contains
            (.rotate run operation only snapshotId) = true
      · simp only [World.step, if_pos hTask]
        rw [List.contains_iff_mem] at hTask
        exact hSteady.rotationEnds hTask (hKeeps hTask) verified
      · simp only [World.step, if_neg hTask]
        exact hSteady
  | forceSettle credentialId =>
      by_cases hQuiet : w.quiet credentialId = true
      · simp only [World.step, if_pos hQuiet]
        cases hOk : w.forceSettle credentialId with
        | error e => exact hSteady
        | ok w' =>
            rcases forceSettle_eq_ok hOk with
              ⟨row, hGet, hPending, rfl⟩
            exact hSteady.forceSettle hGet hPending hQuiet
      · simp only [World.step, if_neg hQuiet]
        exact hSteady
  | operate state =>
      by_cases hOperable : w.operable state = true
      · simp only [World.step, if_pos hOperable]
        exact hSteady.operate hOperable
      · simp only [World.step, if_neg hOperable]
        exact hSteady

theorem Settled.step_iff
    (hSettled : Settled w)
    (hSteady : Steady w)
    (a : Action) :
    Settled (w.step a) ↔ w.Keeps a := by
  cases a with
  | createSnapshot snapshotId allowed sent =>
      refine iff_of_true ?_ trivial
      by_cases hOld :
          (w.snapshots.get? snapshotId).isSome = true
      · simp only [World.step, if_pos hOld]
        exact hSettled
      · simp only [World.step, if_neg hOld]
        rw [Option.not_isSome_iff_eq_none] at hOld
        cases hOk :
            w.createSnapshot snapshotId allowed sent with
        | error e => exact hSettled
        | ok w' =>
            rcases createSnapshot_eq_ok hOk with ⟨_, _, _, rfl⟩
            exact hSettled.createSnapshot hSteady hOld sent
  | snapshotEnds snapshotId taking =>
      refine iff_of_true ?_ trivial
      simp only [World.step]
      split_ifs
      · exact hSettled.snapshotEnds snapshotId taking
      · exact hSettled
  | restore snapshotId new allowed sent =>
      refine iff_of_true ?_ trivial
      simp only [World.step]
      cases hOk : w.restore snapshotId new allowed sent with
      | error e => exact hSettled
      | ok w' =>
          rcases restore_eq_ok hOk with
            ⟨_, _, hIdle, snap, _, _, rfl⟩
          by_cases hSent : sent = true
          · rw [if_pos hSent]
            exact hSettled.restoreSent hIdle snapshotId snap new
          · rw [if_neg hSent]
            exact hSettled
  | restoreEnds run snapshotId result sent =>
      by_cases hTask :
          (w.tasks.contains (.restore run snapshotId) &&
            (!result.isRestored || w.restorable)) = true
      · simp only [World.step, if_pos hTask, Keeps]
        rw [Bool.and_eq_true, List.contains_iff_mem] at hTask
        rcases hSteady.restoring_of_task hTask.1 with
          ⟨snap, hSnap, hState, hRestoring⟩
        rw [hSettled.restoreEnds_iff hSteady hSnap hState
          hRestoring]
        constructor
        · intro hNone hWhole _ snap' hSnap'
          rw [hSnap] at hSnap'
          cases hSnap'
          exact hNone hWhole
        · intro hNone hWhole
          exact hNone hWhole hTask.1 snap hSnap
      · simp only [World.step, if_neg hTask, Keeps]
        refine iff_of_true hSettled ?_
        intro _ hMem snap _ reverted hLeaves
        -- a restore that leaves changes pending is not restored
        have hNot : result.isRestored = false := by
          cases result with
          | restored => cases hLeaves
          | skipped => rfl
          | held => rfl
          | lost reverted => rfl
          | retried reverted => rfl
          | failed reverted cutOff => rfl
        rw [List.contains_iff_mem.mpr hMem, hNot] at hTask
        exact absurd rfl hTask
  | rotate credentialId new allowed sent =>
      simp only [World.step, Keeps]
      cases hGet : w.rows.get? credentialId with
      | none =>
          refine iff_of_true ?_ (by rintro _ _ ⟨⟩)
          unfold World.rotate
          simp only [hGet]
          exact hSettled
      | some row =>
          rw [rotate_eq hSteady.stands hGet]
          by_cases hAccepts : w.accepts row allowed = true
          · rw [if_pos hAccepts, hSettled.rotated_iff]
            constructor
            · intro hSame hWhole row' hRow' _
              cases hRow'
              exact hSame hWhole
            · intro hSame hWhole
              exact hSame hWhole row rfl hAccepts
          · rw [if_neg hAccepts]
            refine iff_of_true hSettled ?_
            intro _ row' hRow' hAccepts'
            cases hRow'
            exact absurd hAccepts' hAccepts
  | rotationEnds run operation only snapshotId verified =>
      by_cases hTask :
          w.tasks.contains
            (.rotate run operation only snapshotId) = true
      · simp only [World.step, if_pos hTask, Keeps]
        rw [List.contains_iff_mem] at hTask
        rw [hSettled.rotationEnds_iff hSteady hTask]
        exact ⟨fun hOwn _ => hOwn, fun hOwn => hOwn hTask⟩
      · simp only [World.step, if_neg hTask, Keeps]
        refine iff_of_true hSettled ?_
        intro hMem
        rw [List.contains_iff_mem] at hTask
        exact absurd hMem hTask
  | forceSettle credentialId =>
      refine iff_of_true ?_ trivial
      by_cases hQuiet : w.quiet credentialId = true
      · simp only [World.step, if_pos hQuiet]
        cases hOk : w.forceSettle credentialId with
        | error e => exact hSettled
        | ok w' =>
            rcases forceSettle_eq_ok hOk with
              ⟨row, hGet, hPending, rfl⟩
            exact hSettled.forceSettle hSteady hGet hPending
      · simp only [World.step, if_neg hQuiet]
        exact hSettled
  | operate state =>
      refine iff_of_true ?_ trivial
      by_cases hOperable : w.operable state = true
      · simp only [World.step, if_pos hOperable]
        refine (hSettled.of_log (by rfl)).mpr ?_
        intro hWhole
        exact (hSettled.logsIn hWhole).of_same (by rfl)
          (fun _ _ _ => by rfl) (fun _ _ _ _ _ _ => by rfl)
      · simp only [World.step, if_neg hOperable]
        exact hSettled

/- A range as it was built. -/
theorem rows_built
    {accounts : Dict Nat BuiltAccount}
    {id : Nat}
    {row : RangeCredential} :
    (built accounts).rows.get? id = some row ↔
      ∃ account, accounts.get? id = some account ∧
        account.row = row := by
  unfold built
  rw [Dict.get?_mapValues, Option.map_eq_some_iff]

theorem steady_built
    (accounts : Dict Nat BuiltAccount) :
    Steady (built accounts) := by
  have hNot : ∀ id row,
      (built accounts).rows.get? id = some row →
        row.pending = false := by
    intro id row hGet
    rcases rows_built.mp hGet with ⟨account, _, rfl⟩
    rfl
  have hNone : ∀ {P : Prop} id snap,
      (built accounts).snapshots.get? id = some snap → P := by
    intro P id snap hSnap
    cases hSnap
  constructor
  · exact ⟨nofun, nofun⟩
  · exact nofun
  · intro id row hGet hPending
    rw [hNot id row hGet] at hPending
    cases hPending
  · exact nofun
  · exact nofun
  · exact fun _ _ _ _ => nofun
  · intro id row _ hGet hPending
    rw [hNot id row hGet] at hPending
    cases hPending
  · exact fun id row hGet _ => hNot id row hGet
  · exact fun id snap _ _ hSnap => hNone id snap hSnap
  · exact fun id snap hSnap => hNone id snap hSnap
  · exact fun id snap hSnap => hNone id snap hSnap
  · exact nofun
  · exact nofun
  · exact nofun

theorem settled_built
    (accounts : Dict Nat BuiltAccount) :
    Settled (built accounts) := by
  refine ⟨?_, List.nodup_nil, nofun⟩
  intro _
  rw [logsIn_iff]
  intro id row hGet hKnown
  rcases rows_built.mp hGet with ⟨account, hAccount, rfl⟩
  have hApplied : account.applied = true := hKnown
  have hGuest : (built accounts).guest id = account.inGuest := by
    unfold built
    dsimp only
    rw [hAccount, Option.map_some, Option.getD_some]
  rw [hGuest, inGuestPassword_settled _ id rfl]
  unfold BuiltAccount.inGuest
  rw [if_pos hApplied]
  rfl

end World

end RangeCredentials

end TrueNorth

--------
-- A Held Restore
--------

namespace TrueNorth

namespace RangeCredentials

namespace HeldRestore

open World

/- One account, which Students see, set in its guest. -/
def accounts : Dict Nat BuiltAccount :=
  Dict.empty.set 0
    { generated := true
      scenario := false
      studentVisible := true
      changeable := true
      password := 10
      applied := true
      otherwise := 0 }

/-
  A snapshot is taken, an admin's rotation is applied, and a
  restore is accepted that a maintenance window then holds.
-/
def actions : List Action :=
  [.createSnapshot 5 true true,
    .snapshotEnds 5 .taken,
    .rotate 0 11 true true,
    .rotationEnds 0 (.rotation 0) (some 0) none (fun _ => true),
    .restore 5 (fun _ => 12) true true,
    .restoreEnds 1 5 .held true]

end HeldRestore

end RangeCredentials

end TrueNorth
