import TrueNorth.RangeCredentials.Operations

/-
  What holds of a range's passwords, snapshots and tasks as
  long as a task settles only the changes of its own
  acceptance.

  Key definitions include:
    * `World.Steady`

  Main theorems:
    * `World.Steady.settleWhere`
    * `World.Steady.back`
-/

--------
-- Lookups
--------

namespace TrueNorth

namespace RangeCredentials

namespace World

variable {w w' : World}

theorem not_restoring
    (hNone : w.restoring = false)
    {snapshotId : Nat}
    {snap : Snapshot}
    (hGet : w.snapshots.get? snapshotId = some snap) :
    snap.state ≠ .restoring := by
  unfold restoring at hNone
  rw [List.any_eq_false] at hNone
  intro hState
  exact hNone _ (Dict.get?_eq_some_iff.mp hGet)
    (decide_eq_true hState)

theorem not_pending
    (hNone : w.anyPending = false)
    {credentialId : Nat}
    {row : RangeCredential}
    (hGet : w.rows.get? credentialId = some row) :
    row.pending = false := by
  unfold anyPending at hNone
  rw [List.any_eq_false] at hNone
  exact Bool.eq_false_iff.mpr
    (hNone _ (Dict.get?_eq_some_iff.mp hGet))

theorem rows_settleWhere
    {which : Nat → RangeCredential → Bool}
    {password : Nat → RangeCredential → Nat}
    {settledBy : Option Nat}
    {credentialId : Nat}
    {row' : RangeCredential} :
    (w.settleWhere which password settledBy).rows.get?
        credentialId = some row' ↔
      ∃ row, w.rows.get? credentialId = some row ∧
        (if which credentialId row then
          row.settled (password credentialId row)
        else
          row) = row' := by
  unfold settleWhere
  rw [Dict.get?_mapValues, Option.map_eq_some_iff]

theorem mem_log_settleWhere
    {which : Nat → RangeCredential → Bool}
    {password : Nat → RangeCredential → Nat}
    {settledBy : Option Nat}
    {e : Settlement} :
    e ∈ (w.settleWhere which password settledBy).log ↔
      e ∈ w.log ∨
        ∃ credentialId row,
          w.rows.get? credentialId = some row ∧
          which credentialId row = true ∧
          e = ⟨credentialId, row.run, settledBy⟩ := by
  unfold settleWhere
  rw [List.mem_append, List.mem_map]
  apply or_congr_right
  constructor
  · rintro ⟨⟨credentialId, row⟩, hMem, rfl⟩
    rw [List.mem_filter] at hMem
    exact ⟨credentialId, row,
      Dict.get?_eq_some_iff.mpr hMem.1, hMem.2, rfl⟩
  · rintro ⟨credentialId, row, hGet, hWhich, rfl⟩
    refine ⟨(credentialId, row), ?_, rfl⟩
    rw [List.mem_filter]
    exact ⟨Dict.get?_eq_some_iff.mp hGet, hWhich⟩

theorem guest_changeGuests
    (which : Nat → RangeCredential → Bool)
    (password : Nat → RangeCredential → Nat)
    {credentialId : Nat}
    {row : RangeCredential}
    (hGet : w.rows.get? credentialId = some row) :
    (w.changeGuests which password).guest credentialId =
      if which credentialId row then password credentialId row
      else w.guest credentialId := by
  unfold changeGuests
  simp only [hGet]

/- What `in_guest_password` reads of the snapshots. -/
theorem inGuestPassword_congr
    {credentialId : Nat}
    {row : RangeCredential}
    (hSame : ∀ snapshotId,
      row.pendingOperation = some (.restore snapshotId) →
      (w'.snapshots.get? snapshotId).map
          (fun snap => (decide (snap.state = .restoring),
            snap.recorded)) =
        (w.snapshots.get? snapshotId).map
          (fun snap => (decide (snap.state = .restoring),
            snap.recorded))) :
    w'.inGuestPassword credentialId row =
      w.inGuestPassword credentialId row := by
  unfold inGuestPassword
  cases row.previousPassword with
  | none => rfl
  | some previous =>
      dsimp only
      cases hOperation : row.pendingOperation with
      | none => rfl
      | some operation =>
          cases operation with
          | rotation id => rfl
          | restore snapshotId =>
              have hSame := hSame snapshotId hOperation
              dsimp only
              cases hNew : w'.snapshots.get? snapshotId with
              | none =>
                  cases hOld : w.snapshots.get? snapshotId with
                  | none => rfl
                  | some snap =>
                      rw [hNew, hOld] at hSame
                      cases hSame
              | some snap' =>
                  cases hOld : w.snapshots.get? snapshotId with
                  | none =>
                      rw [hNew, hOld] at hSame
                      cases hSame
                  | some snap =>
                      rw [hNew, hOld] at hSame
                      simp only [Option.map_some,
                        Option.some.injEq, Prod.mk.injEq,
                        decide_eq_decide] at hSame
                      simp only [hSame.1, hSame.2]

end World

end RangeCredentials

end TrueNorth

--------
-- Steady Worlds
--------

namespace TrueNorth

namespace RangeCredentials

open RangeOps (RangeState)

namespace World

/-
  While a snapshot is restored: its task has not ended, every
  pending change is of its acceptance, and every account that
  stays as it is has the password that was recorded.
-/
structure Restoring
    (w : World)
    (snapshotId run : Nat)
    (snap : Snapshot) : Prop where
  task : .restore run snapshotId ∈ w.tasks
  pending : ∀ id row,
    w.rows.get? id = some row → row.pending = true →
      row.pendingOperation = some (.restore snapshotId) ∧
        row.run = run
  kept : ∀ id row,
    w.rows.get? id = some row → row.pending = false →
      row.applied = true →
      snap.recorded.get? id = some row.password
  state : w.restorable = true ∨ w.state = .destroying

structure Steady (w : World) : Prop where
  stands : w.state ≠ .created ∧ w.state ≠ .destroyed
  mixed : w.mixed = true → w.intact = false
  rowRuns : ∀ id row,
    w.rows.get? id = some row → row.pending = true →
      row.run < w.nextRun
  taskRuns : ∀ task ∈ w.tasks, ∀ run,
    task.run = some run → run < w.nextRun
  logRuns : ∀ e ∈ w.log, e.run < w.nextRun
  unsettled : ∀ id row,
    w.rows.get? id = some row → row.pending = true →
      ∀ e ∈ w.log, e.change ≠ (id, row.run)
  operation : ∀ id row snapshotId,
    w.rows.get? id = some row → row.pending = true →
      row.pendingOperation = some (.restore snapshotId) →
      ∃ snap, w.snapshots.get? snapshotId = some snap
  fixed : ∀ id row,
    w.rows.get? id = some row → row.fixed = true →
      row.pending = false
  recorded : ∀ snapshotId snap id row,
    w.snapshots.get? snapshotId = some snap →
      w.rows.get? id = some row →
      ∃ password, snap.recorded.get? id = some password ∧
        (row.fixed = true → password = row.password)
  stateAt : ∀ snapshotId snap,
    w.snapshots.get? snapshotId = some snap →
      snap.rangeStateAtSnapshot = .ready ∨
        snap.rangeStateAtSnapshot = .running ∨
        snap.rangeStateAtSnapshot = .stopped
  restoring : ∀ snapshotId snap,
    w.snapshots.get? snapshotId = some snap →
      snap.state = .restoring →
      ∃ run, w.Restoring snapshotId run snap
  restoreTask : ∀ run snapshotId,
    .restore run snapshotId ∈ w.tasks →
      ∃ snap, w.snapshots.get? snapshotId = some snap ∧
        snap.state = .restoring
  oneRestore : ∀ run snapshotId run' snapshotId',
    .restore run snapshotId ∈ w.tasks →
      .restore run' snapshotId' ∈ w.tasks →
      run = run' ∧ snapshotId = snapshotId'
  follows : ∀ run operation only snapshotId,
    .rotate run operation only snapshotId ∈ w.tasks →
      ((operation = .rotation run ∧ snapshotId = none) ∨
        ∃ id, operation = .restore id ∧
          snapshotId = some id) ∧
      ∀ run' id, .restore run' id ∈ w.tasks → run' ≠ run

variable {w w' : World}

/- Nothing is restored when no restore task is left. -/
theorem Steady.not_restoring_of_tasks
    (hSteady : Steady w)
    (hNone : ∀ run id, .restore run id ∉ w.tasks)
    {snapshotId : Nat}
    {snap : Snapshot}
    (hGet : w.snapshots.get? snapshotId = some snap) :
    snap.state ≠ .restoring := by
  intro hState
  rcases hSteady.restoring snapshotId snap hGet hState with
    ⟨run, hRestoring⟩
  exact hNone run snapshotId hRestoring.task

/- No restore task is left when nothing is restored. -/
theorem Steady.no_restore_task
    (hSteady : Steady w)
    (hNone : w.restoring = false) :
    ∀ run id, .restore run id ∉ w.tasks := by
  intro run id hMem
  rcases hSteady.restoreTask run id hMem with
    ⟨snap, hGet, hState⟩
  exact not_restoring hNone hGet hState

/- Guests change, and nothing that is kept of them. -/
theorem Steady.changeGuests
    (hSteady : Steady w)
    (which : Nat → RangeCredential → Bool)
    (password : Nat → RangeCredential → Nat) :
    Steady (w.changeGuests which password) where
  stands := hSteady.stands
  mixed := hSteady.mixed
  rowRuns := hSteady.rowRuns
  taskRuns := hSteady.taskRuns
  logRuns := hSteady.logRuns
  unsettled := hSteady.unsettled
  operation := hSteady.operation
  fixed := hSteady.fixed
  recorded := hSteady.recorded
  stateAt := hSteady.stateAt
  restoring id snap hSnap hState := by
    rcases hSteady.restoring id snap hSnap hState with
      ⟨run, hRestoring⟩
    exact ⟨run, hRestoring.task, hRestoring.pending,
      hRestoring.kept, hRestoring.state⟩
  restoreTask := hSteady.restoreTask
  oneRestore := hSteady.oneRestore
  follows := hSteady.follows

/-
  Changes are settled that were pending, and none of them
  while a snapshot is restored.
-/
theorem Steady.settleWhere
    (hSteady : Steady w)
    {which : Nat → RangeCredential → Bool}
    (password : Nat → RangeCredential → Nat)
    (settledBy : Option Nat)
    (hWhich : ∀ id row,
      w.rows.get? id = some row → which id row = true →
        row.pending = true ∧
          ∀ snapshotId snap,
            w.snapshots.get? snapshotId = some snap →
              snap.state ≠ .restoring) :
    Steady (w.settleWhere which password settledBy) := by
  -- a row that is still pending was not settled
  have hOld : ∀ id row',
      (w.settleWhere which password settledBy).rows.get? id =
          some row' →
        row'.pending = true →
        w.rows.get? id = some row' ∧ which id row' = false := by
    intro id row' hGet' hPending
    rcases rows_settleWhere.mp hGet' with ⟨row, hGet, rfl⟩
    by_cases hPick : which id row = true
    · rw [if_pos hPick] at hPending
      cases hPending
    · rw [if_neg hPick]
      exact ⟨hGet, Bool.eq_false_iff.mpr hPick⟩
  -- and an account that is fixed never was
  have hFixed : ∀ id row',
      (w.settleWhere which password settledBy).rows.get? id =
          some row' →
        row'.fixed = true → w.rows.get? id = some row' := by
    intro id row' hGet' hFix
    rcases rows_settleWhere.mp hGet' with ⟨row, hGet, rfl⟩
    by_cases hPick : which id row = true
    · rw [if_pos hPick] at hFix
      have hNot := hSteady.fixed id row hGet hFix
      rw [(hWhich id row hGet hPick).1] at hNot
      cases hNot
    · rw [if_neg hPick]
      exact hGet
  constructor
  · exact hSteady.stands
  · exact hSteady.mixed
  · intro id row' hGet' hPending
    exact hSteady.rowRuns id row' (hOld id row' hGet' hPending).1
      hPending
  · exact hSteady.taskRuns
  · intro e hMem
    rcases mem_log_settleWhere.mp hMem with hLog | hNew
    · exact hSteady.logRuns e hLog
    · rcases hNew with ⟨id, row, hGet, hPick, rfl⟩
      exact hSteady.rowRuns id row hGet (hWhich id row hGet hPick).1
  · intro id row' hGet' hPending e hMem
    rcases hOld id row' hGet' hPending with ⟨hGet, hNot⟩
    rcases mem_log_settleWhere.mp hMem with hLog | hNew
    · exact hSteady.unsettled id row' hGet hPending e hLog
    · rcases hNew with ⟨id₂, row, hGet₂, hPick, rfl⟩
      intro hSame
      rw [Settlement.change, Prod.mk.injEq] at hSame
      rcases hSame with ⟨hId, _⟩
      dsimp only at hId
      rw [hId, hGet] at hGet₂
      cases hGet₂
      rw [hId, hNot] at hPick
      cases hPick
  · intro id row' snapshotId hGet' hPending
    exact hSteady.operation id row' snapshotId
      (hOld id row' hGet' hPending).1 hPending
  · intro id row' hGet' hFix
    exact hSteady.fixed id row' (hFixed id row' hGet' hFix) hFix
  · intro snapshotId snap id row' hSnap hGet'
    rcases rows_settleWhere.mp hGet' with ⟨row, hGet, hRow⟩
    rcases hSteady.recorded snapshotId snap id row hSnap hGet
      with ⟨password', hRecorded, hSame⟩
    refine ⟨password', hRecorded, ?_⟩
    intro hFix
    have hGet₂ := hFixed id row' hGet' hFix
    rw [hGet] at hGet₂
    cases hGet₂
    exact hSame hFix
  · exact hSteady.stateAt
  · intro snapshotId snap hSnap hState
    rcases hSteady.restoring snapshotId snap hSnap hState with
      ⟨run, hRestoring⟩
    -- nothing is settled beside a restore
    have hSameRow : ∀ id row',
        (w.settleWhere which password settledBy).rows.get? id =
          some row' → w.rows.get? id = some row' := by
      intro id row' hGet'
      rcases rows_settleWhere.mp hGet' with ⟨row, hGet, rfl⟩
      by_cases hPick : which id row = true
      · exact absurd hState
          ((hWhich id row hGet hPick).2 snapshotId snap hSnap)
      · rw [if_neg hPick]
        exact hGet
    exact ⟨run, hRestoring.task,
      fun id row hGet =>
        hRestoring.pending id row (hSameRow id row hGet),
      fun id row hGet =>
        hRestoring.kept id row (hSameRow id row hGet),
      hRestoring.state⟩
  · exact hSteady.restoreTask
  · exact hSteady.oneRestore
  · exact hSteady.follows

/- A task that is no restore ends. -/
theorem Steady.finish
    (hSteady : Steady w)
    {task : Task}
    (hTask : ∀ run id, task ≠ .restore run id) :
    Steady (w.finish task) := by
  have hLeft : ∀ t ∈ (w.finish task).tasks, t ∈ w.tasks :=
    fun t hMem => (List.mem_filter.mp hMem).1
  constructor
  · exact hSteady.stands
  · exact hSteady.mixed
  · exact hSteady.rowRuns
  · exact fun t hMem => hSteady.taskRuns t (hLeft t hMem)
  · exact hSteady.logRuns
  · exact hSteady.unsettled
  · exact hSteady.operation
  · exact hSteady.fixed
  · exact hSteady.recorded
  · exact hSteady.stateAt
  · intro snapshotId snap hSnap hState
    rcases hSteady.restoring snapshotId snap hSnap hState with
      ⟨run, hRestoring⟩
    refine ⟨run, ?_, hRestoring.pending, hRestoring.kept,
      hRestoring.state⟩
    refine List.mem_filter.mpr ⟨hRestoring.task, ?_⟩
    rw [decide_eq_true_eq]
    exact (hTask run snapshotId).symm
  · exact fun run id hMem =>
      hSteady.restoreTask run id (hLeft _ hMem)
  · exact fun run id run' id' hMem hMem' =>
      hSteady.oneRestore run id run' id' (hLeft _ hMem)
        (hLeft _ hMem')
  · intro run operation only snapshotId hMem
    rcases hSteady.follows run operation only snapshotId
      (hLeft _ hMem) with ⟨hKind, hOther⟩
    exact ⟨hKind, fun run' id hMem' =>
      hOther run' id (hLeft _ hMem')⟩

theorem back_no_restore
    (hSteady : Steady w)
    {run snapshotId : Nat}
    {snap : Snapshot}
    (hTask : .restore run snapshotId ∈ w.tasks) :
    ∀ run' id, .restore run' id ∉
      (w.back run snapshotId snap).tasks := by
  intro run' id hMem
  rcases List.mem_filter.mp hMem with ⟨hOld, hNe⟩
  rcases hSteady.oneRestore run' id run snapshotId hOld hTask
    with ⟨rfl, rfl⟩
  rw [decide_eq_true_eq] at hNe
  exact hNe rfl

theorem Steady.back
    (hSteady : Steady w)
    {run snapshotId : Nat}
    {snap : Snapshot}
    (hTask : .restore run snapshotId ∈ w.tasks)
    (hSnap : w.snapshots.get? snapshotId = some snap) :
    Steady (w.back run snapshotId snap) := by
  have hNone : ∀ run' id, .restore run' id ∉
      (w.back run snapshotId snap).tasks :=
    back_no_restore hSteady hTask
  have hLeft : ∀ t ∈ (w.back run snapshotId snap).tasks,
      t ∈ w.tasks :=
    fun t hMem => (List.mem_filter.mp hMem).1
  -- every snapshot is one of before, but for its state
  have hOld : ∀ id snap',
      (w.back run snapshotId snap).snapshots.get? id =
          some snap' →
        ∃ old, w.snapshots.get? id = some old ∧
          snap'.recorded = old.recorded ∧
          snap'.rangeStateAtSnapshot =
            old.rangeStateAtSnapshot ∧
          (snap'.state = .ready ∨
            (id ≠ snapshotId ∧ snap'.state = old.state)) := by
    intro id snap' hGet
    unfold World.back at hGet
    rw [Dict.get?_set] at hGet
    by_cases hId : id = snapshotId
    · rw [if_pos hId] at hGet
      cases hGet
      exact ⟨snap, hId ▸ hSnap, rfl, rfl, .inl rfl⟩
    · rw [if_neg hId] at hGet
      exact ⟨snap', hGet, rfl, rfl, .inr ⟨hId, rfl⟩⟩
  constructor
  · exact hSteady.stands
  · exact hSteady.mixed
  · exact hSteady.rowRuns
  · exact fun t hMem => hSteady.taskRuns t (hLeft t hMem)
  · exact hSteady.logRuns
  · exact hSteady.unsettled
  · intro id row other hGet hPending hOperation
    rcases hSteady.operation id row other hGet hPending
      hOperation with ⟨snap', hSnap'⟩
    unfold World.back
    rw [Dict.get?_set]
    by_cases hId : other = snapshotId
    · rw [if_pos hId]
      exact ⟨_, rfl⟩
    · rw [if_neg hId]
      exact ⟨snap', hSnap'⟩
  · exact hSteady.fixed
  · intro id snap' credentialId row hSnap' hGet
    rcases hOld id snap' hSnap' with ⟨old, hOld, hRecorded, _⟩
    rw [hRecorded]
    exact hSteady.recorded id old credentialId row hOld hGet
  · intro id snap' hSnap'
    rcases hOld id snap' hSnap' with ⟨old, hOld, _, hState, _⟩
    rw [hState]
    exact hSteady.stateAt id old hOld
  · intro id snap' hSnap' hState'
    rcases hOld id snap' hSnap' with
      ⟨old, hOld, _, _, hReady | ⟨hId, hState⟩⟩
    · rw [hReady] at hState'
      cases hState'
    · rw [hState] at hState'
      rcases hSteady.restoring id old hOld hState' with
        ⟨run', hRestoring⟩
      exact absurd (hSteady.oneRestore run' id run snapshotId
        hRestoring.task hTask).2 hId
  · exact fun run' id hMem => absurd hMem (hNone run' id)
  · exact fun run' id _ _ hMem => absurd hMem (hNone run' id)
  · intro run' operation only other hMem
    rcases hSteady.follows run' operation only other
      (hLeft _ hMem) with ⟨hKind, _⟩
    exact ⟨hKind, fun run₂ id hMem₂ =>
      absurd hMem₂ (hNone run₂ id)⟩

end World

end RangeCredentials

end TrueNorth
