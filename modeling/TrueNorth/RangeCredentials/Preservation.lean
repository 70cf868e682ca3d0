import TrueNorth.RangeCredentials.Steady

/-
  Every step keeps a range's world steady, as long as a
  rotation task finds no change of another acceptance under
  its operation's id.

  Key definitions include:
    * `World.accepts`
    * `World.foreign`

  Main theorems:
    * `World.Steady.step`
-/

--------
-- Accepted Requests
--------

namespace TrueNorth

namespace RangeCredentials

open Checks

namespace World

/- A snapshot was accepted. -/
def snapshotted
    (w : World)
    (snapshotId : Nat)
    (sent : Bool) : World :=
  { w with
    snapshots :=
      w.snapshots.set snapshotId
        { state := if sent then .creating else .failed
          rangeStateAtSnapshot := w.state
          recorded := w.onSnapshot
          accepted := w.guest
          contains := none }
    tasks :=
      if sent then .snapshot snapshotId :: w.tasks
      else w.tasks }

/- A restore was accepted, and its task sent. -/
def restoreSent
    (w : World)
    (snapshotId : Nat)
    (snap : Snapshot)
    (new : Nat → Nat) : World :=
  { w with
    rows := w.onRestore snap.recorded snapshotId new
    snapshots :=
      w.snapshots.set snapshotId
        { snap with state := .restoring }
    tasks := .restore w.nextRun snapshotId :: w.tasks
    nextRun := w.nextRun + 1 }

/- A rotation in the guests was accepted. -/
def rotated
    (w : World)
    (credentialId new : Nat)
    (row : RangeCredential)
    (sent : Bool) : World :=
  { w with
    rows :=
      w.rows.set credentialId
        (row.rotateInPlace row.password (.rotation w.nextRun)
          w.nextRun new)
    tasks :=
      if sent then
        .rotate w.nextRun (.rotation w.nextRun)
          (some credentialId) none :: w.tasks
      else
        w.tasks
    nextRun := w.nextRun + 1 }

/- What `rotate` asks of the account and its range. -/
def accepts
    (w : World)
    (row : RangeCredential)
    (allowed : Bool) : Bool :=
  row.rotatable && !row.pending &&
    [.ready, .running].contains w.state &&
    row.changeable && allowed && !w.restoring

variable {w w' : World}

theorem createSnapshot_eq_ok
    {snapshotId : Nat}
    {allowed sent : Bool}
    (hOk : w.createSnapshot snapshotId allowed sent = .ok w') :
    allowed = true ∧
      [.ready, .running, .stopped].contains w.state = true ∧
      w.restoring = false ∧
      w' = w.snapshotted snapshotId sent := by
  unfold createSnapshot at hOk
  rcases bind_eq_ok.mp hOk with ⟨_, hAllowed, hOk⟩
  rcases bind_eq_ok.mp hOk with ⟨_, hState, hOk⟩
  rcases bind_eq_ok.mp hOk with ⟨_, hNone, hOk⟩
  rw [refuseIf_eq_ok, Bool.not_eq_false'] at hAllowed hState
  rw [refuseIf_eq_ok] at hNone
  cases hOk
  exact ⟨hAllowed, hState, hNone, rfl⟩

/- What `on_restore` changed is put back as it was. -/
theorem undoRotation_undo
    (rows : Dict Nat RangeCredential)
    (f : Nat → RangeCredential → RangeCredential)
    (hRows : rows = w.rows.mapValues f) :
    undoRotation rows (w.undo rows) = w.rows := by
  have hBack : undoRotation rows (w.undo rows) =
      w.rows.mapValues (fun id row =>
        (((w.undo rows).find? (fun entry =>
          entry.1 = id)).map Prod.snd).getD (f id row)) := by
    unfold undoRotation
    generalize w.undo rows = undone
    rw [hRows]
    unfold Dict.mapValues
    rw [Dict.mk.injEq, List.map_map]
    rfl
  rw [hBack]
  apply Dict.mapValues_eq_self
  intro id row hGet
  have hNew : rows.get? id = some (f id row) := by
    rw [hRows, Dict.get?_mapValues, hGet, Option.map_some]
  by_cases hSame : f id row = row
  · -- what was undone of the account is what it was
    cases hFind : (w.undo rows).find? (fun entry =>
        entry.1 = id) with
    | none => exact hSame
    | some entry =>
        have hMem := List.mem_of_find?_eq_some hFind
        have hId := List.find?_some hFind
        rw [decide_eq_true_eq] at hId
        have hEntry := (List.mem_filter.mp hMem).1
        rw [← Dict.get?_eq_some_iff, hId, hGet] at hEntry
        cases hEntry
        rfl
  · have hFind : ∃ entry, (w.undo rows).find? (fun entry =>
        entry.1 = id) = some entry := by
      rw [← Option.isSome_iff_exists, List.find?_isSome]
      refine ⟨(id, row), List.mem_filter.mpr
        ⟨Dict.get?_eq_some_iff.mp hGet, ?_⟩, decide_eq_true rfl⟩
      rw [decide_eq_true_eq, hNew]
      intro hOld
      exact hSame (Option.some.inj hOld)
    rcases hFind with ⟨entry, hFind⟩
    have hMem := List.mem_of_find?_eq_some hFind
    have hId := List.find?_some hFind
    rw [decide_eq_true_eq] at hId
    have hEntry := (List.mem_filter.mp hMem).1
    rw [← Dict.get?_eq_some_iff, hId, hGet] at hEntry
    rw [hFind, Option.map_some, Option.getD_some]
    exact (Option.some.inj hEntry).symm

/- A restore whose task is not sent changes nothing. -/
theorem restore_eq_ok
    {snapshotId : Nat}
    {new : Nat → Nat}
    {allowed sent : Bool}
    (hOk : w.restore snapshotId new allowed sent = .ok w') :
    w.restorable = true ∧
      w.restoring = false ∧
      w.anyPending = false ∧
      ∃ snap, w.snapshots.get? snapshotId = some snap ∧
        snap.state = .ready ∧
        w' = if sent then w.restoreSent snapshotId snap new
          else w := by
  unfold restore at hOk
  rcases bind_eq_ok.mp hOk with ⟨_, _, hOk⟩
  rcases bind_eq_ok.mp hOk with ⟨_, hState, hOk⟩
  rcases bind_eq_ok.mp hOk with ⟨_, hNone, hOk⟩
  rcases bind_eq_ok.mp hOk with ⟨_, hPending, hOk⟩
  rw [refuseIf_eq_ok, Bool.not_eq_false'] at hState
  rw [refuseIf_eq_ok] at hNone hPending
  refine ⟨hState, hNone, hPending, ?_⟩
  cases hGet : w.snapshots.get? snapshotId with
  | none =>
      rw [hGet] at hOk
      cases hOk
  | some snap =>
      rw [hGet] at hOk
      rcases bind_eq_ok.mp hOk with ⟨_, hReady, hOk⟩
      rw [refuseIf_eq_ok, decide_eq_false_iff_not, not_not]
        at hReady
      refine ⟨snap, rfl, hReady, ?_⟩
      cases hOk
      by_cases hSent : sent = true
      · rw [if_pos hSent, if_pos hSent]
        rfl
      · have hRows : undoRotation
            (w.onRestore snap.recorded snapshotId new)
            (w.undo (w.onRestore snap.recorded snapshotId new)) =
              w.rows :=
          undoRotation_undo _ _ rfl
        rw [if_neg hSent, if_neg hSent, Dict.set_get? hGet,
          hRows]

/-
  A rotation that a built range accepts is made in the
  guests, and any other is refused.
-/
theorem rotate_eq
    (hStands : w.state ≠ .created ∧ w.state ≠ .destroyed)
    {credentialId : Nat}
    {row : RangeCredential}
    (hGet : w.rows.get? credentialId = some row)
    (new : Nat)
    (allowed sent : Bool) :
    w.settle (w.rotate credentialId new allowed sent) =
      if w.accepts row allowed then
        w.rotated credentialId new row sent
      else
        w := by
  have hBuilt : [.created, .destroyed].contains w.state =
      false := by
    simp [hStands.1, hStands.2]
  unfold rotate accepts refuseIf
  simp only [hGet, hBuilt]
  cases row.rotatable <;> cases row.pending <;>
    cases [.ready, .running].contains w.state <;>
    cases row.changeable <;> cases allowed <;>
    cases w.restoring <;> rfl

theorem forceSettle_eq_ok
    {credentialId : Nat}
    (hOk : w.forceSettle credentialId = .ok w') :
    ∃ row, w.rows.get? credentialId = some row ∧
      row.pending = true ∧
      w' = w.settleWhere (fun id _ => id = credentialId)
        w.inGuestPassword none := by
  unfold forceSettle at hOk
  cases hGet : w.rows.get? credentialId with
  | none =>
      rw [hGet] at hOk
      cases hOk
  | some row =>
      rw [hGet] at hOk
      rcases bind_eq_ok.mp hOk with ⟨_, hPending, hOk⟩
      rw [refuseIf_eq_ok, Bool.not_eq_false'] at hPending
      cases hOk
      exact ⟨row, rfl, hPending, rfl⟩

--------
-- Requests Keep It Steady
--------

variable {w w' : World}

theorem Steady.snapshotted
    (hSteady : Steady w)
    {snapshotId : Nat}
    (hFresh : w.snapshots.get? snapshotId = none)
    (hState :
      [.ready, .running, .stopped].contains w.state = true)
    (hNone : w.restoring = false)
    (sent : Bool) :
    Steady (w.snapshotted snapshotId sent) := by
  have hNew : ∀ t ∈ (w.snapshotted snapshotId sent).tasks,
      t = .snapshot snapshotId ∨ t ∈ w.tasks := by
    intro t hMem
    unfold World.snapshotted at hMem
    by_cases hSent : sent = true
    · simp only [if_pos hSent] at hMem
      exact List.mem_cons.mp hMem
    · simp only [if_neg hSent] at hMem
      exact .inr hMem
  have hNoTask : ∀ run id, .restore run id ∉
      (w.snapshotted snapshotId sent).tasks := by
    intro run id hMem
    rcases hNew _ hMem with hTask | hOld
    · cases hTask
    · exact hSteady.no_restore_task hNone run id hOld
  constructor
  · exact hSteady.stands
  · exact hSteady.mixed
  · exact hSteady.rowRuns
  · intro t hMem run hRun
    rcases hNew t hMem with rfl | hOld
    · cases hRun
    · exact hSteady.taskRuns t hOld run hRun
  · exact hSteady.logRuns
  · exact hSteady.unsettled
  · intro id row other hGet hPending hOperation
    rcases hSteady.operation id row other hGet hPending
      hOperation with ⟨snap, hSnap⟩
    refine ⟨snap, ?_⟩
    unfold World.snapshotted
    rw [Dict.get?_set_ne _, hSnap]
    intro hSame
    rw [hSame, hFresh] at hSnap
    cases hSnap
  · exact hSteady.fixed
  · intro id snap credentialId row hSnap hGet
    unfold World.snapshotted at hSnap
    rw [Dict.get?_set] at hSnap
    by_cases hId : id = snapshotId
    · rw [if_pos hId] at hSnap
      cases hSnap
      refine ⟨row.previousPassword.getD row.password, ?_, ?_⟩
      · unfold onSnapshot
        have hOld : w.rows.get? credentialId = some row := hGet
        rw [Dict.get?_mapValues, hOld, Option.map_some]
      · intro hFix
        have hNot := hSteady.fixed credentialId row hGet hFix
        unfold RangeCredential.pending at hNot
        rw [Option.isSome_eq_false_iff, Option.isNone_iff_eq_none]
          at hNot
        rw [hNot, Option.getD_none]
    · rw [if_neg hId] at hSnap
      exact hSteady.recorded id snap credentialId row hSnap hGet
  · intro id snap hSnap
    unfold World.snapshotted at hSnap
    rw [Dict.get?_set] at hSnap
    by_cases hId : id = snapshotId
    · rw [if_pos hId] at hSnap
      cases hSnap
      simpa using hState
    · rw [if_neg hId] at hSnap
      exact hSteady.stateAt id snap hSnap
  · intro id snap hSnap hRestoring
    unfold World.snapshotted at hSnap
    rw [Dict.get?_set] at hSnap
    by_cases hId : id = snapshotId
    · rw [if_pos hId] at hSnap
      cases hSnap
      cases sent <;> cases hRestoring
    · rw [if_neg hId] at hSnap
      exact absurd hRestoring (not_restoring hNone hSnap)
  · exact fun run id hMem => absurd hMem (hNoTask run id)
  · exact fun run id _ _ hMem => absurd hMem (hNoTask run id)
  · intro run operation only other hMem
    rcases hNew _ hMem with hTask | hOld
    · cases hTask
    · rcases hSteady.follows run operation only other hOld with
        ⟨hKind, _⟩
      exact ⟨hKind, fun run' id hMem' =>
        absurd hMem' (hNoTask run' id)⟩

/- What a restore makes pending is its own change. -/
theorem restoreRow_pending
    {recorded : Dict Nat Nat}
    {snapshotId run credentialId : Nat}
    {new : Nat → Nat}
    {row : RangeCredential}
    (hNot : row.pending = false)
    (hPending :
      (restoreRow recorded snapshotId run new credentialId
        row).pending = true) :
    (restoreRow recorded snapshotId run new credentialId
        row).pendingOperation = some (.restore snapshotId) ∧
      (restoreRow recorded snapshotId run new credentialId
        row).run = run ∧
      (restoreRow recorded snapshotId run new credentialId
        row).previousPassword = some row.password ∧
      row.applied = true ∧
      row.fixed = false := by
  unfold restoreRow at hPending ⊢
  by_cases hSkip :
      (!row.rotatable || !row.applied || !row.changeable) = true
  · rw [if_pos hSkip, hNot] at hPending
    cases hPending
  · rw [if_neg hSkip] at hPending
    rw [if_neg hSkip]
    have hFree : row.applied = true ∧ row.fixed = false := by
      unfold RangeCredential.fixed
      revert hSkip
      cases row.rotatable <;> cases row.applied <;>
        cases row.changeable <;> simp
    by_cases hVisible : row.studentVisible = true
    · simp only [if_pos hVisible]
      exact ⟨rfl, rfl, rfl, hFree⟩
    · simp only [if_neg hVisible] at hPending ⊢
      by_cases hDiffer :
          (recorded.get? credentialId).getD row.password ≠
            row.password
      · simp only [if_pos hDiffer]
        exact ⟨rfl, rfl, rfl, hFree⟩
      · simp only [if_neg hDiffer] at hPending
        rw [hNot] at hPending
        cases hPending

/- And what it does not is as it was. -/
theorem restoreRow_kept
    {recorded : Dict Nat Nat}
    {snapshotId run credentialId : Nat}
    {new : Nat → Nat}
    {row : RangeCredential}
    (hKept :
      (restoreRow recorded snapshotId run new credentialId
        row).pending = false) :
    restoreRow recorded snapshotId run new credentialId row =
        row ∧
      (row.applied = true → row.fixed = false →
        (recorded.get? credentialId).getD row.password =
          row.password) := by
  unfold restoreRow at hKept ⊢
  by_cases hSkip :
      (!row.rotatable || !row.applied || !row.changeable) = true
  · rw [if_pos hSkip]
    refine ⟨rfl, ?_⟩
    intro hApplied hFree
    revert hSkip hFree
    unfold RangeCredential.fixed
    rw [hApplied]
    cases row.rotatable <;> cases row.changeable <;> simp
  · rw [if_neg hSkip] at hKept
    rw [if_neg hSkip]
    by_cases hVisible : row.studentVisible = true
    · simp only [if_pos hVisible] at hKept
      cases hKept
    · simp only [if_neg hVisible] at hKept ⊢
      by_cases hDiffer :
          (recorded.get? credentialId).getD row.password ≠
            row.password
      · simp only [if_pos hDiffer] at hKept
        cases hKept
      · rw [if_neg hDiffer]
        exact ⟨rfl, fun _ _ => not_not.mp hDiffer⟩

theorem rows_restoreSent
    {snapshotId id : Nat}
    {snap : Snapshot}
    {new : Nat → Nat}
    {row' : RangeCredential} :
    (w.restoreSent snapshotId snap new).rows.get? id =
        some row' ↔
      ∃ row, w.rows.get? id = some row ∧
        restoreRow snap.recorded snapshotId w.nextRun new id
          row = row' := by
  unfold restoreSent onRestore
  rw [Dict.get?_mapValues, Option.map_eq_some_iff]

/- An account whose password is never changed stays so. -/
theorem fixed_restoreRow
    {recorded : Dict Nat Nat}
    {snapshotId run credentialId : Nat}
    {new : Nat → Nat}
    {row : RangeCredential}
    (hNot : row.pending = false)
    (hFix :
      (restoreRow recorded snapshotId run new credentialId
        row).fixed = true) :
    restoreRow recorded snapshotId run new credentialId row =
      row := by
  by_cases hPending :
      (restoreRow recorded snapshotId run new credentialId
        row).pending = true
  · have hFree := (restoreRow_pending hNot hPending).2.2.2.2
    have hSame :
        (restoreRow recorded snapshotId run new credentialId
          row).fixed = row.fixed := by
      unfold restoreRow RangeCredential.rotateInPlace
      split_ifs <;> rfl
    rw [hSame, hFree] at hFix
    cases hFix
  · exact (restoreRow_kept (Bool.eq_false_iff.mpr hPending)).1

theorem Steady.restoreSent
    (hSteady : Steady w)
    (hState : w.restorable = true)
    (hNone : w.restoring = false)
    (hSettled : w.anyPending = false)
    {snapshotId : Nat}
    {snap : Snapshot}
    (hSnap : w.snapshots.get? snapshotId = some snap)
    (new : Nat → Nat) :
    Steady (w.restoreSent snapshotId snap new) := by
  have hNoTask := hSteady.no_restore_task hNone
  have hNot : ∀ {id row}, w.rows.get? id = some row →
      row.pending = false := not_pending hSettled
  -- every pending change is the restore's
  have hOwn : ∀ id row',
      (w.restoreSent snapshotId snap new).rows.get? id =
          some row' →
        row'.pending = true →
        row'.pendingOperation = some (.restore snapshotId) ∧
          row'.run = w.nextRun ∧ row'.fixed = false := by
    intro id row' hGet' hPending
    rcases rows_restoreSent.mp hGet' with ⟨row, hGet, rfl⟩
    rcases restoreRow_pending (hNot hGet) hPending with
      ⟨hOperation, hRun, _, _, hFree⟩
    refine ⟨hOperation, hRun, ?_⟩
    by_contra hFix
    rw [Bool.not_eq_false] at hFix
    rw [fixed_restoreRow (hNot hGet) hFix, hFree] at hFix
    cases hFix
  have hSnapshots : ∀ id snap',
      (w.restoreSent snapshotId snap new).snapshots.get? id =
          some snap' →
        ∃ old, w.snapshots.get? id = some old ∧
          snap'.recorded = old.recorded ∧
          snap'.rangeStateAtSnapshot =
            old.rangeStateAtSnapshot ∧
          (id = snapshotId ∨ snap'.state = old.state) := by
    intro id snap' hGet
    unfold World.restoreSent at hGet
    rw [Dict.get?_set] at hGet
    by_cases hId : id = snapshotId
    · rw [if_pos hId] at hGet
      cases hGet
      exact ⟨snap, hId ▸ hSnap, rfl, rfl, .inl hId⟩
    · rw [if_neg hId] at hGet
      exact ⟨snap', hGet, rfl, rfl, .inr rfl⟩
  have hRestored :
      (w.restoreSent snapshotId snap new).snapshots.get?
          snapshotId =
        some { snap with state := .restoring } :=
    Dict.get?_set_self _ _ _
  constructor
  · exact hSteady.stands
  · exact hSteady.mixed
  · intro id row' hGet' hPending
    rw [(hOwn id row' hGet' hPending).2.1]
    exact Nat.lt_succ_self _
  · intro t hMem run hRun
    rcases List.mem_cons.mp hMem with rfl | hOld
    · cases hRun
      exact Nat.lt_succ_self _
    · exact Nat.lt_succ_of_lt (hSteady.taskRuns t hOld run hRun)
  · exact fun e hMem => Nat.lt_succ_of_lt (hSteady.logRuns e hMem)
  · intro id row' hGet' hPending e hMem hSame
    have hLate := hSteady.logRuns e hMem
    rw [Settlement.change, Prod.mk.injEq,
      (hOwn id row' hGet' hPending).2.1] at hSame
    rw [hSame.2] at hLate
    exact Nat.lt_irrefl _ hLate
  · intro id row' other hGet' hPending hOperation
    rw [(hOwn id row' hGet' hPending).1] at hOperation
    cases hOperation
    exact ⟨_, hRestored⟩
  · intro id row' hGet' hFix
    by_contra hPending
    rw [Bool.not_eq_false] at hPending
    rw [(hOwn id row' hGet' hPending).2.2] at hFix
    cases hFix
  · intro id snap' credentialId row' hSnap' hGet'
    rcases hSnapshots id snap' hSnap' with
      ⟨old, hOld, hRecorded, _⟩
    rcases rows_restoreSent.mp hGet' with ⟨row, hGet, rfl⟩
    rcases hSteady.recorded id old credentialId row hOld hGet
      with ⟨password, hPassword, hSame⟩
    refine ⟨password, hRecorded ▸ hPassword, ?_⟩
    intro hFix
    have hRow := fixed_restoreRow (hNot hGet) hFix
    rw [hRow] at hFix ⊢
    exact hSame hFix
  · intro id snap' hSnap'
    rcases hSnapshots id snap' hSnap' with ⟨old, hOld, _, hAt, _⟩
    rw [hAt]
    exact hSteady.stateAt id old hOld
  · intro id snap' hSnap' hRestoring
    rcases hSnapshots id snap' hSnap' with
      ⟨old, hOld, _, _, hId | hSame⟩
    · rw [hId] at hSnap'
      rw [hRestored] at hSnap'
      cases hSnap'
      rw [hId]
      refine ⟨w.nextRun, List.mem_cons_self, ?_, ?_, .inl hState⟩
      · intro other row' hGet' hPending
        rcases hOwn other row' hGet' hPending with
          ⟨hOperation, hRun, _⟩
        exact ⟨hOperation, hRun⟩
      · intro other row' hGet' hPending hApplied
        rcases rows_restoreSent.mp hGet' with ⟨row, hGet, rfl⟩
        rcases restoreRow_kept hPending with ⟨hRow, hKept⟩
        rw [hRow] at hApplied ⊢
        rcases hSteady.recorded snapshotId snap other row hSnap
          hGet with ⟨password, hPassword, hSame⟩
        by_cases hFix : row.fixed = true
        · rw [← hSame hFix]
          exact hPassword
        · have hEq :=
            hKept hApplied (Bool.eq_false_iff.mpr hFix)
          rw [hPassword, Option.getD_some] at hEq
          rw [← hEq]
          exact hPassword
    · rw [hSame] at hRestoring
      exact absurd hRestoring (not_restoring hNone hOld)
  · intro run id hMem
    rcases List.mem_cons.mp hMem with hTask | hOld
    · cases hTask
      exact ⟨_, hRestored, rfl⟩
    · exact absurd hOld (hNoTask run id)
  · intro run id run' id' hMem hMem'
    rcases List.mem_cons.mp hMem with hTask | hOld
    · rcases List.mem_cons.mp hMem' with hTask' | hOld'
      · cases hTask
        cases hTask'
        exact ⟨rfl, rfl⟩
      · exact absurd hOld' (hNoTask run' id')
    · exact absurd hOld (hNoTask run id)
  · intro run operation only other hMem
    rcases List.mem_cons.mp hMem with hTask | hOld
    · cases hTask
    · rcases hSteady.follows run operation only other hOld with
        ⟨hKind, _⟩
      refine ⟨hKind, ?_⟩
      intro run' id hMem' hSame
      rcases List.mem_cons.mp hMem' with hTask | hOld'
      · cases hTask
        have hLate := hSteady.taskRuns _ hOld run rfl
        rw [hSame] at hLate
        exact Nat.lt_irrefl _ hLate
      · exact hNoTask run' id hOld'

theorem Steady.rotated
    (hSteady : Steady w)
    {credentialId : Nat}
    {row : RangeCredential}
    (hGet : w.rows.get? credentialId = some row)
    (hNone : w.restoring = false)
    (hFree : row.fixed = false)
    (new : Nat)
    (sent : Bool) :
    Steady (w.rotated credentialId new row sent) := by
  have hNew : ∀ t ∈ (w.rotated credentialId new row sent).tasks,
      t = .rotate w.nextRun (.rotation w.nextRun)
          (some credentialId) none ∨
        t ∈ w.tasks := by
    intro t hMem
    unfold World.rotated at hMem
    by_cases hSent : sent = true
    · simp only [if_pos hSent] at hMem
      exact List.mem_cons.mp hMem
    · simp only [if_neg hSent] at hMem
      exact .inr hMem
  have hNoTask : ∀ run id, .restore run id ∉
      (w.rotated credentialId new row sent).tasks := by
    intro run id hMem
    rcases hNew _ hMem with hTask | hOld
    · cases hTask
    · exact hSteady.no_restore_task hNone run id hOld
  -- the account itself, or one that is as it was
  have hRows : ∀ id row',
      (w.rotated credentialId new row sent).rows.get? id =
          some row' →
        (id = credentialId ∧
          row' = row.rotateInPlace row.password
            (.rotation w.nextRun) w.nextRun new) ∨
          w.rows.get? id = some row' := by
    intro id row' hGet'
    unfold World.rotated at hGet'
    rw [Dict.get?_set] at hGet'
    by_cases hId : id = credentialId
    · rw [if_pos hId] at hGet'
      cases hGet'
      exact .inl ⟨hId, rfl⟩
    · rw [if_neg hId] at hGet'
      exact .inr hGet'
  constructor
  · exact hSteady.stands
  · exact hSteady.mixed
  · intro id row' hGet' hPending
    rcases hRows id row' hGet' with ⟨_, rfl⟩ | hOld
    · exact Nat.lt_succ_self _
    · exact Nat.lt_succ_of_lt
        (hSteady.rowRuns id row' hOld hPending)
  · intro t hMem run hRun
    rcases hNew t hMem with rfl | hOld
    · cases hRun
      exact Nat.lt_succ_self _
    · exact Nat.lt_succ_of_lt (hSteady.taskRuns t hOld run hRun)
  · exact fun e hMem => Nat.lt_succ_of_lt (hSteady.logRuns e hMem)
  · intro id row' hGet' hPending e hMem
    rcases hRows id row' hGet' with ⟨_, rfl⟩ | hOld
    · intro hSame
      have hLate := hSteady.logRuns e hMem
      rw [Settlement.change, Prod.mk.injEq] at hSame
      rw [hSame.2] at hLate
      exact Nat.lt_irrefl _ hLate
    · exact hSteady.unsettled id row' hOld hPending e hMem
  · intro id row' other hGet' hPending hOperation
    rcases hRows id row' hGet' with ⟨_, rfl⟩ | hOld
    · cases hOperation
    · exact hSteady.operation id row' other hOld hPending
        hOperation
  · intro id row' hGet' hFix
    rcases hRows id row' hGet' with ⟨_, rfl⟩ | hOld
    · have hFix' : row.fixed = true := hFix
      rw [hFree] at hFix'
      cases hFix'
    · exact hSteady.fixed id row' hOld hFix
  · intro snapshotId snap id row' hSnap hGet'
    rcases hRows id row' hGet' with ⟨rfl, rfl⟩ | hOld
    · rcases hSteady.recorded snapshotId snap id row hSnap hGet
        with ⟨password, hPassword, _⟩
      refine ⟨password, hPassword, ?_⟩
      intro hFix
      have hFix' : row.fixed = true := hFix
      rw [hFree] at hFix'
      cases hFix'
    · exact hSteady.recorded snapshotId snap id row' hSnap hOld
  · exact hSteady.stateAt
  · exact fun id snap hSnap hRestoring =>
      absurd hRestoring (not_restoring hNone hSnap)
  · exact fun run id hMem => absurd hMem (hNoTask run id)
  · exact fun run id _ _ hMem => absurd hMem (hNoTask run id)
  · intro run operation only other hMem
    refine ⟨?_, fun run' id hMem' =>
      absurd hMem' (hNoTask run' id)⟩
    rcases hNew _ hMem with hTask | hOld
    · cases hTask
      exact .inl ⟨rfl, rfl⟩
    · exact (hSteady.follows run operation only other hOld).1

--------
-- Tasks Keep It Steady
--------

/-
  The task would find a pending change under its operation's
  id that another acceptance made.
-/
def foreign
    (w : World)
    (run : Nat)
    (operation : Operation)
    (only : Option Nat) : Bool :=
  w.rows.entries.any (fun entry =>
    targeted operation only entry.1 entry.2 &&
      entry.2.run ≠ run)

variable {w w' : World}

theorem own_of_not_foreign
    {run : Nat}
    {operation : Operation}
    {only : Option Nat}
    (hOwn : w.foreign run operation only = false)
    {id : Nat}
    {row : RangeCredential}
    (hGet : w.rows.get? id = some row)
    (hTarget : targeted operation only id row = true) :
    row.run = run := by
  unfold foreign at hOwn
  rw [List.any_eq_false] at hOwn
  have hNot := hOwn _ (Dict.get?_eq_some_iff.mp hGet)
  rw [hTarget, Bool.true_and, decide_eq_true_eq, not_not]
    at hNot
  exact hNot

theorem targeted_pending
    {operation : Operation}
    {only : Option Nat}
    {id : Nat}
    {row : RangeCredential}
    (hTarget : targeted operation only id row = true) :
    row.pending = true ∧
      row.pendingOperation = some operation := by
  unfold targeted at hTarget
  simp only [Bool.and_eq_true, decide_eq_true_eq] at hTarget
  exact ⟨hTarget.1.1.2, hTarget.1.2⟩

/- A snapshot moves on, beside any restore. -/
theorem Steady.withSnapshot
    (hSteady : Steady w)
    {snapshotId : Nat}
    {snap snap' : Snapshot}
    (hSnap : w.snapshots.get? snapshotId = some snap)
    (hBefore : snap.state ≠ .restoring)
    (hAfter : snap'.state ≠ .restoring)
    (hRecorded : snap'.recorded = snap.recorded)
    (hAt :
      snap'.rangeStateAtSnapshot = snap.rangeStateAtSnapshot) :
    Steady
      { w with
        snapshots := w.snapshots.set snapshotId snap' } := by
  have hOld : ∀ id other,
      (w.snapshots.set snapshotId snap').get? id = some other →
        ∃ old, w.snapshots.get? id = some old ∧
          other.recorded = old.recorded ∧
          other.rangeStateAtSnapshot =
            old.rangeStateAtSnapshot ∧
          (other.state = .restoring → other = old) := by
    intro id other hGet
    rw [Dict.get?_set] at hGet
    by_cases hId : id = snapshotId
    · rw [if_pos hId] at hGet
      cases hGet
      exact ⟨snap, hId ▸ hSnap, hRecorded, hAt,
        fun hState => absurd hState hAfter⟩
    · rw [if_neg hId] at hGet
      exact ⟨other, hGet, rfl, rfl, fun _ => rfl⟩
  constructor
  · exact hSteady.stands
  · exact hSteady.mixed
  · exact hSteady.rowRuns
  · exact hSteady.taskRuns
  · exact hSteady.logRuns
  · exact hSteady.unsettled
  · intro id row other hGet hPending hOperation
    rcases hSteady.operation id row other hGet hPending
      hOperation with ⟨old, hSnapOld⟩
    dsimp only
    rw [Dict.get?_set]
    by_cases hId : other = snapshotId
    · rw [if_pos hId]
      exact ⟨_, rfl⟩
    · rw [if_neg hId]
      exact ⟨old, hSnapOld⟩
  · exact hSteady.fixed
  · intro id other credentialId row hSnap' hGet
    rcases hOld id other hSnap' with ⟨old, hOld, hSame, _⟩
    rw [hSame]
    exact hSteady.recorded id old credentialId row hOld hGet
  · intro id other hSnap'
    rcases hOld id other hSnap' with ⟨old, hOld, _, hSame, _⟩
    rw [hSame]
    exact hSteady.stateAt id old hOld
  · intro id other hSnap' hState
    rcases hOld id other hSnap' with ⟨old, hOld, _, _, hSame⟩
    cases hSame hState
    rcases hSteady.restoring id other hOld hState with
      ⟨run, hRestoring⟩
    exact ⟨run, hRestoring.task, hRestoring.pending,
      hRestoring.kept, hRestoring.state⟩
  · intro run id hMem
    rcases hSteady.restoreTask run id hMem with
      ⟨old, hSnapOld, hState⟩
    refine ⟨old, ?_, hState⟩
    dsimp only
    rw [Dict.get?_set_ne _, hSnapOld]
    intro hId
    rw [hId, hSnap] at hSnapOld
    cases hSnapOld
    exact hBefore hState
  · exact hSteady.oneRestore
  · exact hSteady.follows

theorem Steady.snapshotEnds
    (hSteady : Steady w)
    (snapshotId : Nat)
    (taking : Taking) :
    Steady (w.snapshotEnds snapshotId taking) := by
  unfold World.snapshotEnds
  cases hSnap : w.snapshots.get? snapshotId with
  | none => exact hSteady
  | some snap =>
      by_cases hSkip :
          (snap.state ≠ .creating && snap.state ≠ .failed) = true
      · simp only [if_pos hSkip]
        exact hSteady.finish nofun
      · have hBefore : snap.state ≠ .restoring := by
          intro hState
          rw [hState] at hSkip
          exact hSkip rfl
        simp only [if_neg hSkip]
        have hMove : ∀ (state : SnapshotState)
            (contains : Option (Nat → Nat)),
            state ≠ .restoring →
            Steady
              { w with
                snapshots :=
                  w.snapshots.set snapshotId
                    { snap with
                      state := state
                      contains := contains } } :=
          fun _ _ hAfter =>
            hSteady.withSnapshot hSnap hBefore hAfter rfl rfl
        have hEnd : ∀ {v : World}, Steady v →
            Steady (v.finish (.snapshot snapshotId)) :=
          fun hOld => hOld.finish nofun
        cases taking with
        | taken => exact hEnd (hMove .ready (some w.guest) nofun)
        | retried => exact hMove .failed snap.contains nofun
        | failed => exact hEnd (hMove .failed snap.contains nofun)

theorem Steady.markFailed
    (hSteady : Steady w)
    {changed : Bool}
    (hState :
      changed = true →
        w.restorable = true ∨ w.state = .destroying)
    (cutOff : Bool) :
    Steady (w.markFailed changed cutOff) := by
  -- the range is failed, or its state is as it was
  have hCases :
      (w.markFailed changed cutOff).state = .failed ∨
        ((w.markFailed changed cutOff).state = w.state ∧
          ((changed || cutOff) && w.restorable) = false) := by
    unfold World.markFailed
    by_cases hMark :
        ((changed || cutOff) && w.restorable) = true
    · exact .inl (if_pos hMark)
    · exact .inr ⟨if_neg hMark, Bool.eq_false_iff.mpr hMark⟩
  constructor
  · rcases hCases with hFailed | ⟨hSame, _⟩
    · rw [hFailed]
      exact ⟨nofun, nofun⟩
    · rw [hSame]
      exact hSteady.stands
  · intro hMixed
    rcases hCases with hFailed | ⟨hSame, hNot⟩
    · unfold World.intact
      rw [hFailed]
      rfl
    · have hIntact :
          (w.markFailed changed cutOff).intact = w.intact := by
        unfold World.intact
        rw [hSame]
      rw [hIntact]
      by_cases hChanged : changed = true
      · rcases hState hChanged with hRestorable | hGone
        · rw [hChanged, hRestorable] at hNot
          cases hNot
        · unfold World.intact
          rw [hGone]
          rfl
      · apply hSteady.mixed
        unfold World.markFailed at hMixed
        rw [Bool.not_eq_true] at hChanged
        rw [hChanged, Bool.or_false] at hMixed
        exact hMixed
  · exact hSteady.rowRuns
  · exact hSteady.taskRuns
  · exact hSteady.logRuns
  · exact hSteady.unsettled
  · exact hSteady.operation
  · exact hSteady.fixed
  · exact hSteady.recorded
  · exact hSteady.stateAt
  · intro id snap hSnap hRestoring
    rcases hSteady.restoring id snap hSnap hRestoring with
      ⟨run, hOld⟩
    refine ⟨run, hOld.task, hOld.pending, hOld.kept, ?_⟩
    rcases hCases with hFailed | ⟨hSame, _⟩
    · left
      unfold restorable
      rw [hFailed]
      rfl
    · unfold restorable
      rw [hSame]
      exact hOld.state
  · exact hSteady.restoreTask
  · exact hSteady.oneRestore
  · exact hSteady.follows

/- Pending changes are rolled back once nothing is restored. -/
theorem Steady.rollBack
    (hSteady : Steady w)
    (hNone : ∀ run id, .restore run id ∉ w.tasks)
    (run : Nat)
    (operation : Operation) :
    Steady (w.rollBack run operation) := by
  apply hSteady.settleWhere
  intro id row _ hWhich
  rw [Bool.and_eq_true] at hWhich
  exact ⟨hWhich.1, fun _ _ hSnap =>
    hSteady.not_restoring_of_tasks hNone hSnap⟩

/-
  A restore ends as restored: the range is in the state of
  its snapshot, and the task that follows is sent or not.
-/
theorem Steady.restored
    (hSteady : Steady w)
    (hNone : ∀ run id, .restore run id ∉ w.tasks)
    {run snapshotId : Nat}
    {snap : Snapshot}
    (hSnap : w.snapshots.get? snapshotId = some snap)
    (hRun : run < w.nextRun)
    (sent : Bool) :
    Steady
      { w with
        state := snap.rangeStateAtSnapshot
        mixed := false
        tasks :=
          if sent then
            .rotate run (.restore snapshotId) none
              (some snapshotId) :: w.tasks
          else
            w.tasks } := by
  have hNew : ∀ t ∈ (if sent then
        .rotate run (.restore snapshotId) none
          (some snapshotId) :: w.tasks
      else
        w.tasks),
      t = .rotate run (.restore snapshotId) none
          (some snapshotId) ∨
        t ∈ w.tasks := by
    intro t hMem
    by_cases hSent : sent = true
    · rw [if_pos hSent] at hMem
      exact List.mem_cons.mp hMem
    · rw [if_neg hSent] at hMem
      exact .inr hMem
  have hNoTask : ∀ run' id, .restore run' id ∉
      (if sent then
        .rotate run (.restore snapshotId) none
          (some snapshotId) :: w.tasks
      else
        w.tasks) := by
    intro run' id hMem
    rcases hNew _ hMem with hTask | hOld
    · cases hTask
    · exact hNone run' id hOld
  constructor
  · rcases hSteady.stateAt snapshotId snap hSnap with
      hAt | hAt | hAt <;>
    · dsimp only
      rw [hAt]
      exact ⟨nofun, nofun⟩
  · exact nofun
  · exact hSteady.rowRuns
  · intro t hMem run' hRun'
    rcases hNew t hMem with rfl | hOld
    · cases hRun'
      exact hRun
    · exact hSteady.taskRuns t hOld run' hRun'
  · exact hSteady.logRuns
  · exact hSteady.unsettled
  · exact hSteady.operation
  · exact hSteady.fixed
  · exact hSteady.recorded
  · exact hSteady.stateAt
  · exact fun id other hOther hRestoring =>
      absurd hRestoring
        (hSteady.not_restoring_of_tasks hNone hOther)
  · exact fun run' id hMem => absurd hMem (hNoTask run' id)
  · exact fun run' id _ _ hMem => absurd hMem (hNoTask run' id)
  · intro run' operation only other hMem
    refine ⟨?_, fun run₂ id hMem₂ =>
      absurd hMem₂ (hNoTask run₂ id)⟩
    rcases hNew _ hMem with hTask | hOld
    · cases hTask
      exact .inr ⟨snapshotId, rfl, rfl⟩
    · exact (hSteady.follows run' operation only other hOld).1

theorem Steady.restoreEnds
    (hSteady : Steady w)
    {run snapshotId : Nat}
    (hTask : .restore run snapshotId ∈ w.tasks)
    (result : RestoreResult)
    (sent : Bool) :
    Steady (w.restoreEnds run snapshotId result sent) := by
  rcases hSteady.restoreTask run snapshotId hTask with
    ⟨snap, hSnap, hState⟩
  rcases hSteady.restoring snapshotId snap hSnap hState with
    ⟨run', hRestoring⟩
  have hBack := hSteady.back hTask hSnap
  have hNone : ∀ run' id, .restore run' id ∉
      (w.back run snapshotId snap).tasks :=
    back_no_restore hSteady hTask
  unfold World.restoreEnds
  simp only [hSnap]
  cases result with
  | restored =>
      have hRevert : Steady
          ((w.back run snapshotId snap).revert snap.recorded
            (fun _ => true)) :=
        hBack.changeGuests _ _
      have hRun := hSteady.taskRuns _ hTask run rfl
      have hReady :
          (w.back run snapshotId snap).snapshots.get?
              snapshotId =
            some { snap with state := .ready } :=
        Dict.get?_set_self _ _ _
      exact hRevert.restored hNone hReady hRun sent
  | skipped => exact hBack.rollBack hNone _ _
  | held => exact hBack
  | lost reverted => exact hBack.changeGuests _ _
  | retried reverted =>
      exact (hSteady.changeGuests _ _).markFailed
        (fun _ => hRestoring.state) false
  | failed reverted cutOff =>
      have hMarked : Steady
          (((w.back run snapshotId snap).revert snap.recorded
            reverted).markFailed (w.anyReverted reverted)
              cutOff) :=
        (hBack.changeGuests _ _).markFailed
          (fun _ => hRestoring.state) cutOff
      exact hMarked.rollBack hNone _ _

theorem Steady.rotationEnds
    (hSteady : Steady w)
    {run : Nat}
    {operation : Operation}
    {only snapshotId : Option Nat}
    (hTask : .rotate run operation only snapshotId ∈ w.tasks)
    (hOwn : w.foreign run operation only = false)
    (verified : Nat → Bool) :
    Steady
      (w.rotationEnds run operation only snapshotId
        verified) := by
  unfold World.rotationEnds
  refine ((hSteady.changeGuests _ _).settleWhere _ _ ?_).finish
    nofun
  intro id row hGet hTarget
  refine ⟨(targeted_pending hTarget).1, ?_⟩
  intro other snap hSnap hState
  rcases hSteady.restoring other snap hSnap hState with
    ⟨run', hRestoring⟩
  -- the pending changes are the restore's, and not the task's
  have hRun := hRestoring.pending id row hGet
    (targeted_pending hTarget).1
  have hSame := own_of_not_foreign hOwn hGet hTarget
  rw [hRun.2] at hSame
  exact (hSteady.follows run operation only snapshotId
    hTask).2 run' other hRestoring.task hSame

/- Nothing is restored when a pending account is quiet. -/
theorem Steady.quiet_not_restoring
    (hSteady : Steady w)
    {credentialId : Nat}
    {row : RangeCredential}
    (hGet : w.rows.get? credentialId = some row)
    (hPending : row.pending = true)
    (hQuiet : w.quiet credentialId = true)
    {snapshotId : Nat}
    {snap : Snapshot}
    (hSnap : w.snapshots.get? snapshotId = some snap) :
    snap.state ≠ .restoring := by
  intro hState
  rcases hSteady.restoring snapshotId snap hSnap hState with
    ⟨run, hRestoring⟩
  have hOperation :=
    (hRestoring.pending credentialId row hGet hPending).1
  unfold quiet at hQuiet
  simp only [hGet] at hQuiet
  have hNot :=
    List.all_eq_true.mp hQuiet _ hRestoring.task
  rw [hOperation] at hNot
  simp [Task.operation] at hNot

theorem Steady.forceSettle
    (hSteady : Steady w)
    {credentialId : Nat}
    {row : RangeCredential}
    (hGet : w.rows.get? credentialId = some row)
    (hPending : row.pending = true)
    (hQuiet : w.quiet credentialId = true) :
    Steady
      (w.settleWhere (fun id _ => id = credentialId)
        w.inGuestPassword none) := by
  apply hSteady.settleWhere
  intro id row' hGet' hWhich
  rw [decide_eq_true_eq] at hWhich
  rw [hWhich, hGet] at hGet'
  cases hGet'
  exact ⟨hPending, fun _ _ hSnap =>
    hSteady.quiet_not_restoring hGet hPending hQuiet hSnap⟩

theorem Steady.operate
    (hSteady : Steady w)
    {state : RangeOps.RangeState}
    (hOperable : w.operable state = true) :
    Steady { w with state := state } := by
  have hIntact :
      state = .destroying ∨ state = .failed ∨
        w.intact = true := by
    unfold operable at hOperable
    cases state <;> simp_all
  have hStands : state ≠ .created ∧ state ≠ .destroyed := by
    unfold operable at hOperable
    cases state <;> simp_all
  have hBeside : w.restoring = false ∨ state = .destroying := by
    unfold operable at hOperable
    cases state <;> simp_all
  constructor
  · exact hStands
  · intro hMixed
    rcases hIntact with rfl | rfl | hOld
    · rfl
    · rfl
    · rw [hSteady.mixed hMixed] at hOld
      cases hOld
  · exact hSteady.rowRuns
  · exact hSteady.taskRuns
  · exact hSteady.logRuns
  · exact hSteady.unsettled
  · exact hSteady.operation
  · exact hSteady.fixed
  · exact hSteady.recorded
  · exact hSteady.stateAt
  · intro id snap hSnap hRestoring
    rcases hBeside with hNone | hGone
    · exact absurd hRestoring (not_restoring hNone hSnap)
    · rcases hSteady.restoring id snap hSnap hRestoring with
        ⟨run, hOld⟩
      exact ⟨run, hOld.task, hOld.pending, hOld.kept, .inr hGone⟩
  · exact hSteady.restoreTask
  · exact hSteady.oneRestore
  · exact hSteady.follows

end World

end RangeCredentials

end TrueNorth
