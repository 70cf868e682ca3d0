import TrueNorth.RangeCredentials.Settled

/-
  The passwords that a snapshot records, and those that it
  contains.

  The API records them as it accepts the snapshot; a worker
  takes it later.

  Key definitions include:
    * `Snapshot.Recorded`
    * `World.Undisturbed`

  Main theorems:
    * `World.recorded_contains`
-/

--------
-- What Was Recorded
--------

namespace TrueNorth

namespace RangeCredentials

/-
  What was recorded of an account was in its guest then, and
  is in the snapshot once it is taken.
-/
structure Snapshot.Recorded (snap : Snapshot) : Prop where
  accepted : ∀ id password,
    snap.recorded.get? id = some password →
      password = snap.accepted id
  contains : ∀ guest id password,
    snap.contains = some guest →
      snap.recorded.get? id = some password →
      password = guest id

namespace World

def Recorded (w : World) : Prop :=
  ∀ snapshotId snap,
    w.snapshots.get? snapshotId = some snap → snap.Recorded

/- What `create_snapshot` asks of the range. -/
def acceptsSnapshot
    (w : World)
    (snapshotId : Nat)
    (allowed : Bool) : Bool :=
  !(w.snapshots.get? snapshotId).isSome && allowed &&
    [.ready, .running, .stopped].contains w.state &&
    !w.restoring

/-
  A snapshot is accepted where every account was set in its
  guest, and `in_guest_password` reads of it what
  `on_snapshot` does; and it is taken where the guests have
  the passwords that they had then.
-/
def Undisturbed (w : World) : Action → Prop
| .createSnapshot snapshotId allowed _ =>
    w.acceptsSnapshot snapshotId allowed = true →
      ∀ id row, w.rows.get? id = some row →
        (row.pending || row.applied) = true ∧
          row.previousPassword.getD row.password =
            w.inGuestPassword id row
| .snapshotEnds snapshotId .taken =>
    .snapshot snapshotId ∈ w.tasks →
      ∀ snap, w.snapshots.get? snapshotId = some snap →
        snap.state = .creating ∨ snap.state = .failed →
        ∀ id, (snap.recorded.get? id).isSome = true →
          w.guest id = snap.accepted id
| _ => True

variable {w v : World}

/- No record changes, and no snapshot is taken. -/
theorem Recorded.of_same
    (hRecorded : Recorded w)
    (hSame : ∀ id snap',
      v.snapshots.get? id = some snap' →
        ∃ snap, w.snapshots.get? id = some snap ∧
          snap'.recorded = snap.recorded ∧
          snap'.accepted = snap.accepted ∧
          snap'.contains = snap.contains) :
    Recorded v := by
  intro id snap' hGet
  rcases hSame id snap' hGet with
    ⟨snap, hSnap, hDict, hAccepted, hContains⟩
  have hOld := hRecorded id snap hSnap
  constructor
  · rw [hDict, hAccepted]
    exact hOld.accepted
  · rw [hDict, hContains]
    exact hOld.contains

/- A snapshot moves on in its states. -/
theorem Recorded.withState
    (hRecorded : Recorded w)
    {snapshotId : Nat}
    {snap : Snapshot}
    (hSnap : w.snapshots.get? snapshotId = some snap)
    (state : SnapshotState)
    (hSnapshots :
      v.snapshots =
        w.snapshots.set snapshotId { snap with state := state }) :
    Recorded v := by
  apply hRecorded.of_same
  intro id snap' hGet
  rw [hSnapshots, Dict.get?_set] at hGet
  by_cases hId : id = snapshotId
  · rw [if_pos hId] at hGet
    cases hGet
    exact ⟨snap, hId ▸ hSnap, rfl, rfl, rfl⟩
  · rw [if_neg hId] at hGet
    exact ⟨snap', hGet, rfl, rfl, rfl⟩

theorem Recorded.of_snapshots
    (hRecorded : Recorded w)
    (hSnapshots : v.snapshots = w.snapshots) :
    Recorded v := by
  unfold Recorded
  rw [hSnapshots]
  exact hRecorded

/- What is recorded at acceptance is what the guests have. -/
theorem Recorded.snapshotted
    (hRecorded : Recorded w)
    (hLogs : LogsIn w)
    (hKnown : ∀ id row,
      w.rows.get? id = some row →
        (row.pending || row.applied) = true ∧
          row.previousPassword.getD row.password =
            w.inGuestPassword id row)
    (snapshotId : Nat)
    (sent : Bool) :
    Recorded (w.snapshotted snapshotId sent) := by
  intro id snap hGet
  unfold World.snapshotted at hGet
  rw [Dict.get?_set] at hGet
  by_cases hId : id = snapshotId
  · rw [if_pos hId] at hGet
    cases hGet
    refine ⟨?_, nofun⟩
    intro credentialId password hPassword
    unfold onSnapshot at hPassword
    rw [Dict.get?_mapValues, Option.map_eq_some_iff]
      at hPassword
    rcases hPassword with ⟨row, hRow, rfl⟩
    rcases hKnown credentialId row hRow with ⟨hSet, hReads⟩
    rw [hReads]
    exact logsIn_iff.mp hLogs credentialId row hRow hSet
  · rw [if_neg hId] at hGet
    exact hRecorded id snap hGet

/- The hypervisor takes a snapshot of the guests as they are. -/
theorem Recorded.taken
    (hRecorded : Recorded w)
    {snapshotId : Nat}
    {snap : Snapshot}
    (hSnap : w.snapshots.get? snapshotId = some snap)
    (hSame : ∀ id,
      (snap.recorded.get? id).isSome = true →
        w.guest id = snap.accepted id)
    (hSnapshots :
      v.snapshots =
        w.snapshots.set snapshotId
          { snap with
            state := .ready
            contains := some w.guest }) :
    Recorded v := by
  intro id snap' hGet
  rw [hSnapshots, Dict.get?_set] at hGet
  by_cases hId : id = snapshotId
  · rw [if_pos hId] at hGet
    cases hGet
    have hOld := hRecorded snapshotId snap hSnap
    refine ⟨hOld.accepted, ?_⟩
    intro guest credentialId password hGuest hPassword
    cases hGuest
    rw [hSame credentialId (Option.isSome_of_eq_some hPassword)]
    exact hOld.accepted credentialId password hPassword
  · rw [if_neg hId] at hGet
    exact hRecorded id snap' hGet

theorem Recorded.snapshotEnds
    (hRecorded : Recorded w)
    (snapshotId : Nat)
    (taking : Taking)
    (hSame : taking = .taken →
      ∀ snap, w.snapshots.get? snapshotId = some snap →
        snap.state = .creating ∨ snap.state = .failed →
        ∀ id, (snap.recorded.get? id).isSome = true →
          w.guest id = snap.accepted id) :
    Recorded (w.snapshotEnds snapshotId taking) := by
  unfold World.snapshotEnds
  cases hSnap : w.snapshots.get? snapshotId with
  | none => exact hRecorded
  | some snap =>
      by_cases hSkip :
          (snap.state ≠ .creating && snap.state ≠ .failed) = true
      · simp only [if_pos hSkip]
        exact hRecorded.of_snapshots rfl
      · simp only [if_neg hSkip]
        have hState :
            snap.state = .creating ∨ snap.state = .failed := by
          simp only [Bool.and_eq_true, decide_eq_true_eq,
            not_and_or, not_not] at hSkip
          exact hSkip
        cases taking with
        | taken =>
            exact hRecorded.taken hSnap
              (hSame rfl snap hSnap hState) (by rfl)
        | retried => exact hRecorded.withState hSnap _ (by rfl)
        | failed => exact hRecorded.withState hSnap _ (by rfl)

theorem Recorded.restoreEnds
    (hRecorded : Recorded w)
    (run snapshotId : Nat)
    (result : RestoreResult)
    (sent : Bool) :
    Recorded (w.restoreEnds run snapshotId result sent) := by
  unfold World.restoreEnds
  cases hSnap : w.snapshots.get? snapshotId with
  | none => exact hRecorded
  | some snap =>
      cases result with
      | restored => exact hRecorded.withState hSnap _ (by rfl)
      | skipped => exact hRecorded.withState hSnap _ (by rfl)
      | held => exact hRecorded.withState hSnap _ (by rfl)
      | lost reverted =>
          exact hRecorded.withState hSnap _ (by rfl)
      | retried reverted =>
          exact hRecorded.of_snapshots (by rfl)
      | failed reverted cutOff =>
          exact hRecorded.withState hSnap _ (by rfl)

/- A range that takes a snapshot is whole. -/
theorem Steady.whole
    (hSteady : Steady w)
    (hState :
      [.ready, .running, .stopped].contains w.state = true) :
    w.mixed = false := by
  by_contra hMixed
  rw [Bool.not_eq_false] at hMixed
  have hNot := hSteady.mixed hMixed
  unfold intact at hNot
  revert hState hNot
  cases w.state <;> decide

theorem Recorded.step
    (hRecorded : Recorded w)
    (hSteady : Steady w)
    (hSettled : Settled w)
    (a : Action)
    (hUndisturbed : w.Undisturbed a) :
    Recorded (w.step a) := by
  cases a with
  | createSnapshot snapshotId allowed sent =>
      by_cases hOld :
          (w.snapshots.get? snapshotId).isSome = true
      · simp only [World.step, if_pos hOld]
        exact hRecorded
      · simp only [World.step, if_neg hOld]
        cases hOk :
            w.createSnapshot snapshotId allowed sent with
        | error e => exact hRecorded
        | ok w' =>
            rcases createSnapshot_eq_ok hOk with
              ⟨hAllowed, hState, hNone, rfl⟩
            have hAccepts :
                w.acceptsSnapshot snapshotId allowed = true := by
              unfold acceptsSnapshot
              rw [Bool.not_eq_true] at hOld
              rw [hOld, hAllowed, hState, hNone]
              rfl
            exact hRecorded.snapshotted
              (hSettled.logsIn (hSteady.whole hState))
              (hUndisturbed hAccepts) snapshotId sent
  | snapshotEnds snapshotId taking =>
      by_cases hTask :
          w.tasks.contains (.snapshot snapshotId) = true
      · simp only [World.step, if_pos hTask]
        rw [List.contains_iff_mem] at hTask
        apply hRecorded.snapshotEnds
        intro hTaken
        rw [hTaken] at hUndisturbed
        exact hUndisturbed hTask
      · simp only [World.step, if_neg hTask]
        exact hRecorded
  | restore snapshotId new allowed sent =>
      simp only [World.step]
      cases hOk : w.restore snapshotId new allowed sent with
      | error e => exact hRecorded
      | ok w' =>
          rcases restore_eq_ok hOk with
            ⟨_, _, _, snap, hSnap, _, rfl⟩
          by_cases hSent : sent = true
          · rw [if_pos hSent]
            exact hRecorded.withState hSnap .restoring (by rfl)
          · rw [if_neg hSent]
            exact hRecorded
  | restoreEnds run snapshotId result sent =>
      simp only [World.step]
      split_ifs
      · exact hRecorded.restoreEnds run snapshotId result sent
      · exact hRecorded
  | rotate credentialId new allowed sent =>
      simp only [World.step]
      cases hGet : w.rows.get? credentialId with
      | none =>
          unfold World.rotate
          simp only [hGet]
          exact hRecorded
      | some row =>
          rw [rotate_eq hSteady.stands hGet]
          by_cases hAccepts : w.accepts row allowed = true
          · rw [if_pos hAccepts]
            exact hRecorded.of_snapshots (by rfl)
          · rw [if_neg hAccepts]
            exact hRecorded
  | rotationEnds run operation only snapshotId verified =>
      simp only [World.step]
      split_ifs
      · exact hRecorded.of_snapshots (by rfl)
      · exact hRecorded
  | forceSettle credentialId =>
      by_cases hQuiet : w.quiet credentialId = true
      · simp only [World.step, if_pos hQuiet]
        cases hOk : w.forceSettle credentialId with
        | error e => exact hRecorded
        | ok w' =>
            rcases forceSettle_eq_ok hOk with ⟨_, _, _, rfl⟩
            exact hRecorded.of_snapshots (by rfl)
      · simp only [World.step, if_neg hQuiet]
        exact hRecorded
  | operate state =>
      simp only [World.step]
      split_ifs
      · exact hRecorded.of_snapshots (by rfl)
      · exact hRecorded

/-
  In every run in which the passwords stay settled, and in
  which no guest's password changes between the acceptance of
  a snapshot and its taking: a snapshot that was taken
  contains what was recorded, of every account.
-/
theorem recorded_contains
    (accounts : Dict Nat BuiltAccount)
    (actions : List Action)
    (hMeets :
      Runs.Meets step (fun w a => w.Keeps a ∧ w.Undisturbed a)
        (built accounts) actions)
    (snapshotId : Nat)
    (snap : Snapshot)
    (hSnap :
      (Runs.run step (built accounts) actions).snapshots.get?
        snapshotId = some snap)
    (guest : Nat → Nat)
    (hTaken : snap.contains = some guest)
    (id : Nat)
    (row : RangeCredential)
    (hGet :
      (Runs.run step (built accounts) actions).rows.get? id =
        some row) :
    snap.recorded.get? id = some (guest id) := by
  have hAll := hMeets.invariant
    (fun w => Steady w ∧ Settled w ∧ Recorded w)
    (fun w a hCond hInv =>
      ⟨hInv.1.step a hCond.1,
        (hInv.2.1.step_iff hInv.1 a).mpr hCond.1,
        hInv.2.2.step hInv.1 hInv.2.1 a hCond.2⟩)
    ⟨steady_built accounts, settled_built accounts, nofun⟩
  rcases hAll with ⟨hSteady, _, hRecorded⟩
  rcases hSteady.recorded snapshotId snap id row hSnap hGet with
    ⟨password, hPassword, _⟩
  rw [hPassword]
  exact congrArg some
    ((hRecorded snapshotId snap hSnap).contains guest id password
      hTaken hPassword)

end World

end RangeCredentials

end TrueNorth

--------
-- A Rotation in Between
--------

namespace TrueNorth

namespace RangeCredentials

namespace RotatedSnapshot

open World HeldRestore

/- A rotation, and after it a snapshot that is taken. -/
def inOrder : List Action :=
  [.rotate 0 11 true true,
    .rotationEnds 0 (.rotation 0) (some 0) none (fun _ => true),
    .createSnapshot 5 true true,
    .snapshotEnds 5 .taken]

/- The rotation comes between the two halves of the snapshot. -/
def between : List Action :=
  [.createSnapshot 5 true true,
    .rotate 0 11 true true,
    .rotationEnds 0 (.rotation 0) (some 0) none (fun _ => true),
    .snapshotEnds 5 .taken]

/- The range once the rotation is applied. -/
def rotated : World :=
  Runs.run step (built accounts) (inOrder.take 2)

theorem inOrder_meets :
    Runs.Meets step (fun w a => w.Keeps a ∧ w.Undisturbed a)
      (built accounts) inOrder := by
  refine ⟨⟨?_, trivial⟩, ⟨?_, trivial⟩, ⟨trivial, ?_⟩,
    ⟨trivial, ?_⟩, trivial⟩
  · have hAll : ((built accounts).rows.get? 0).all (fun row =>
        row.password = (built accounts).guest 0) = true := by
      decide
    intro _ row hGet _
    rw [hGet] at hAll
    exact of_decide_eq_true hAll
  · intro _
    decide
  · have hAll : ∀ entry ∈ rotated.rows.entries,
        (entry.2.pending || entry.2.applied) = true ∧
          entry.2.previousPassword.getD entry.2.password =
            rotated.inGuestPassword entry.1 entry.2 := by
      decide
    intro _ id row hGet
    exact hAll (id, row) (Dict.get?_eq_some_iff.mp hGet)
  · have hAccepted :
        ((step rotated (.createSnapshot 5 true
          true)).snapshots.get? 5).map Snapshot.accepted =
          some rotated.guest :=
      rfl
    intro _ snap hGet _ id _
    have hGet' :
        (step rotated (.createSnapshot 5 true
          true)).snapshots.get? 5 = some snap := hGet
    rw [hGet', Option.map_some] at hAccepted
    rw [Option.some.inj hAccepted]
    rfl

/- The snapshot contains the rotated password, as recorded. -/
theorem recorded_in_order :
    ((Runs.run step (built accounts) inOrder).snapshots.get?
        5).bind (fun snap => snap.recorded.get? 0) =
      some ((Runs.run step (built accounts) inOrder).guest 0) :=
  by
  have hContains :
      ((Runs.run step (built accounts) inOrder).snapshots.get?
        5).map Snapshot.contains =
          some (some
            (Runs.run step (built accounts) inOrder).guest) :=
    rfl
  have hRow :
      ((Runs.run step (built accounts) inOrder).rows.get?
        0).isSome = true := by
    decide
  rcases Option.map_eq_some_iff.mp hContains with
    ⟨snap, hSnap, hTaken⟩
  rcases Option.isSome_iff_exists.mp hRow with ⟨row, hGet⟩
  rw [hSnap, Option.bind_some]
  exact recorded_contains accounts inOrder inOrder_meets 5 snap
    hSnap _ hTaken 0 row hGet

/- The snapshot contains the rotated password, not recorded. -/
theorem recorded_between :
    ¬ ∀ snap,
      (Runs.run step (built accounts) between).snapshots.get?
          5 = some snap →
        ∀ guest, snap.contains = some guest →
          ∀ id row,
            (Runs.run step (built accounts) between).rows.get?
                id = some row →
              snap.recorded.get? id = some (guest id) := by
  intro hAll
  have hContains :
      ((Runs.run step (built accounts) between).snapshots.get?
        5).map (fun snap => (snap.recorded.get? 0,
          snap.contains.map (fun guest => guest 0))) =
        some (some 10, some 11) := by
    decide
  have hRow :
      ((Runs.run step (built accounts) between).rows.get?
        0).isSome = true := by
    decide
  rcases Option.map_eq_some_iff.mp hContains with
    ⟨snap, hSnap, hBoth⟩
  rw [Prod.mk.injEq] at hBoth
  rcases Option.map_eq_some_iff.mp hBoth.2 with
    ⟨guest, hTaken, hGuest⟩
  rcases Option.isSome_iff_exists.mp hRow with ⟨row, hGet⟩
  have hSame := hAll snap hSnap guest hTaken 0 row hGet
  rw [hBoth.1, hGuest] at hSame
  cases hSame

end RotatedSnapshot

end RangeCredentials

end TrueNorth
