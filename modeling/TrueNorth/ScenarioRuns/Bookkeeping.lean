import Mathlib.Order.UpperLower.Basic
import TrueNorth.ScenarioRuns.World

/-
  What the row, the records and the deliveries keep of a
  run, whatever the order of steps: a lease that was handed
  on never comes back, and what a delivery that holds the
  row's lease counts as done has no gap.

  Key definitions include:
    * `World.ResumesFrom`
    * `Delivery.Kept`
    * `World.Books`
    * `World.Advances`

  Main theorems:
    * `World.step_books`
    * `World.no_step_skipped`
-/

--------
-- Definitions
--------

namespace TrueNorth

namespace ScenarioRuns

/- A run that is resumed now goes on from this event. -/
def World.ResumesFrom
    (w : World)
    (runId : String)
    (resumeFrom : Nat) : Prop :=
  match w.run with
  | none => resumeFrom = 0
  | some run =>
      run.runId = runId ∧ run.resumeFrom = resumeFrom

/- Past its start, and not ended. -/
def Delivery.InLoop (d : Delivery) : Prop :=
  d.place ≠ .starting ∧ d.place ≠ .ended

/- What a delivery's own fields keep true. -/
structure Delivery.Kept
    (w : World)
    (d : Delivery) : Prop where
  runDrawn : d.runId ∈ w.drawn
  leaseDrawn : ∀ lease, d.lease = some lease →
    lease ∈ w.drawn
  holds : ∀ run, w.run = some run →
    d.lease = some run.lease →
    run.runId = d.runId ∧ run.resumeFrom = d.resumeFrom
  behind : ∀ resumeFrom, w.ResumesFrom d.runId resumeFrom →
    d.resumeFrom ≤ resumeFrom
  counted : ∀ seq ∈ d.done,
    seq ∈ w.recorded d.runId ∨ seq < d.resumeFrom
  passed : ∀ seq < d.idx,
    seq ∈ d.done ∨ seq ∈ w.recorded d.runId
  skips : d.InLoop →
    ∀ seq < d.resumeFrom, seq ∈ d.done
  todo : ∀ claimed, d.place = .checking claimed →
    d.idx ∉ d.done
  front : d.InLoop →
    ∀ run, w.run = some run → d.lease = some run.lease →
      IsLowerSet {seq | seq ∈ d.done}
  claimed : d.place = .checking true → d.lease ≠ none →
    IsLowerSet {seq | seq ∈ d.done}

namespace World

/- What the row and the records keep true. -/
structure Books (w : World) : Prop where
  runDrawn : ∀ run, w.run = some run →
    run.runId ∈ w.drawn ∧ run.lease ∈ w.drawn
  cursor : ∀ run, w.run = some run →
    run.resumeFrom ≤ run.nextSeq
  recordsDrawn : ∀ r ∈ w.records, r.runId ∈ w.drawn
  front : ∀ runId resumeFrom,
    w.ResumesFrom runId resumeFrom →
      IsLowerSet
        {seq | seq ∈ w.recorded runId ∨ seq < resumeFrom}
  kept : ∀ d ∈ w.workers, d.Kept w

/-
  Later worlds: a lease seen before has its row unchanged,
  and a run seen before is resumed no earlier.
-/
structure Advances (w w' : World) : Prop where
  drawn : ∀ id ∈ w.drawn, id ∈ w'.drawn
  recorded : ∀ runId, ∀ seq ∈ w.recorded runId,
    seq ∈ w'.recorded runId
  lease : ∀ run', w'.run = some run' →
    run'.lease ∈ w.drawn →
    ∃ run, w.run = some run ∧ run.lease = run'.lease ∧
      run.runId = run'.runId ∧
      run.resumeFrom = run'.resumeFrom
  resumed : ∀ runId resumeFrom,
    w'.ResumesFrom runId resumeFrom → runId ∈ w.drawn →
    ∃ before ≤ resumeFrom, w.ResumesFrom runId before

end World

end ScenarioRuns

end TrueNorth

--------
-- What Other Steps Leave
--------

namespace TrueNorth

namespace ScenarioRuns

variable {w w' : World}

theorem World.Advances.of_sameRun
    (hDrawn : ∀ id ∈ w.drawn, id ∈ w'.drawn)
    (hRecorded : ∀ runId, ∀ seq ∈ w.recorded runId,
      seq ∈ w'.recorded runId)
    (hRun : w'.run = w.run) :
    w.Advances w' := by
  refine ⟨hDrawn, hRecorded, ?_, ?_⟩
  · intro run hRun' _
    exact ⟨run, hRun ▸ hRun', rfl, rfl, rfl⟩
  · intro runId resumeFrom hResumes _
    refine ⟨resumeFrom, Nat.le_refl _, ?_⟩
    unfold ResumesFrom at hResumes ⊢
    rw [hRun] at hResumes
    exact hResumes

/- Another step leaves a delivery as it was. -/
theorem Delivery.Kept.advance
    {d : Delivery}
    (hKept : d.Kept w)
    (hAdvances : w.Advances w') :
    d.Kept w' := by
  have hLease : ∀ run', w'.run = some run' →
      d.lease = some run'.lease →
      ∃ run, w.run = some run ∧ run.lease = run'.lease ∧
        run.runId = run'.runId ∧
        run.resumeFrom = run'.resumeFrom := by
    intro run' hRun' hHeld
    exact hAdvances.lease run' hRun'
      (hKept.leaseDrawn _ hHeld)
  constructor
  case runDrawn => exact hAdvances.drawn _ hKept.runDrawn
  case leaseDrawn =>
    intro lease hHeld
    exact hAdvances.drawn _ (hKept.leaseDrawn lease hHeld)
  case holds =>
    intro run' hRun' hHeld
    rcases hLease run' hRun' hHeld with
      ⟨run, hRun, hSame, hRunId, hFrom⟩
    rw [← hSame] at hHeld
    rw [← hRunId, ← hFrom]
    exact hKept.holds run hRun hHeld
  case behind =>
    intro resumeFrom hResumes
    rcases hAdvances.resumed _ _ hResumes hKept.runDrawn with
      ⟨before, hBefore, hResumed⟩
    exact Nat.le_trans (hKept.behind before hResumed) hBefore
  case counted =>
    intro seq hDone
    apply (hKept.counted seq hDone).imp_left
    exact hAdvances.recorded _ seq
  case passed =>
    intro seq hSeq
    apply (hKept.passed seq hSeq).imp_right
    exact hAdvances.recorded _ seq
  case skips => exact hKept.skips
  case todo => exact hKept.todo
  case front =>
    intro hLoop run' hRun' hHeld
    rcases hLease run' hRun' hHeld with
      ⟨run, hRun, hSame, _, _⟩
    rw [← hSame] at hHeld
    exact hKept.front hLoop run hRun hHeld
  case claimed => exact hKept.claimed

namespace World

/- A run without records is resumed from any event. -/
theorem recorded_new
    (hBooks : w.Books)
    {runId : String}
    (hNew : runId ∉ w.drawn)
    (seq : Nat) :
    seq ∉ w.recorded runId := by
  intro hMem
  rcases mem_recordedSeqs.mp hMem with ⟨r, hR, hRunId, _⟩
  exact hNew (hRunId ▸ hBooks.recordsDrawn r hR)

/- A step that records nothing. -/
theorem Books.advance
    (hBooks : w.Books)
    (hAdvances : w.Advances w')
    (hRecords : w'.records = w.records)
    (hWorkers : w'.workers = w.workers)
    (hRunDrawn : ∀ run, w'.run = some run →
      run.runId ∈ w'.drawn ∧ run.lease ∈ w'.drawn)
    (hCursor : ∀ run, w'.run = some run →
      run.resumeFrom ≤ run.nextSeq) :
    w'.Books := by
  refine ⟨hRunDrawn, hCursor, ?_, ?_, ?_⟩
  · intro r hR
    rw [hRecords] at hR
    exact hAdvances.drawn _ (hBooks.recordsDrawn r hR)
  · intro runId resumeFrom hResumes
    have hSame : w'.recorded runId = w.recorded runId := by
      unfold World.recorded
      rw [hRecords]
    rw [hSame]
    by_cases hNew : runId ∈ w.drawn
    · rcases hAdvances.resumed _ _ hResumes hNew with
        ⟨before, hBefore, hResumed⟩
      have hFront := hBooks.front runId before hResumed
      intro seq seq' hLe hMem
      rcases hMem with hRecorded | hSkipped
      · rcases hFront hLe (.inl hRecorded) with
          hRecorded' | hSkipped'
        · exact .inl hRecorded'
        · exact .inr (Nat.lt_of_lt_of_le hSkipped' hBefore)
      · exact .inr (Nat.lt_of_le_of_lt hLe hSkipped)
    · intro seq seq' hLe hMem
      rcases hMem with hRecorded | hSkipped
      · exact absurd hRecorded (recorded_new hBooks hNew seq)
      · exact .inr (Nat.lt_of_le_of_lt hLe hSkipped)
  · intro d hD
    rw [hWorkers] at hD
    exact (hBooks.kept d hD).advance hAdvances

/- Steps that leave run, records and ids alone. -/
theorem Books.of_same
    (hBooks : w.Books)
    (hRun : w'.run = w.run)
    (hRecords : w'.records = w.records)
    (hWorkers : w'.workers = w.workers)
    (hDrawn : w'.drawn = w.drawn) :
    w'.Books := by
  have hAdvances : w.Advances w' := by
    apply Advances.of_sameRun
    · intro id hId
      rw [hDrawn]
      exact hId
    · intro runId seq hSeq
      unfold World.recorded at hSeq ⊢
      rw [hRecords]
      exact hSeq
    · exact hRun
  apply hBooks.advance hAdvances hRecords hWorkers
  · intro run hSome
    rw [hRun] at hSome
    rw [hDrawn]
    exact hBooks.runDrawn run hSome
  · intro run hSome
    rw [hRun] at hSome
    exact hBooks.cursor run hSome

/- One delivery is replaced. -/
theorem Books.put
    (hBooks : w.Books)
    (i : Nat)
    {d : Delivery}
    (hKept : d.Kept w) :
    (w.put i d).Books := by
  have hAdvances : w.Advances (w.put i d) :=
    Advances.of_sameRun (fun _ hId => hId)
      (fun _ _ hSeq => hSeq) rfl
  refine ⟨hBooks.runDrawn, hBooks.cursor,
    hBooks.recordsDrawn, hBooks.front, ?_⟩
  intro d' hD'
  rcases List.mem_or_eq_of_mem_set hD' with hOld | rfl
  · exact (hBooks.kept d' hOld).advance hAdvances
  · exact hKept.advance hAdvances

end World

end ScenarioRuns

end TrueNorth

--------
-- Delivery Steps
--------

namespace TrueNorth

namespace ScenarioRuns

variable {w : World}
variable {d : Delivery}

theorem Delivery.Kept.ended
    (hKept : d.Kept w) :
    Kept w { d with place := .ended } := by
  refine ⟨hKept.runDrawn, hKept.leaseDrawn, hKept.holds,
    hKept.behind, hKept.counted, hKept.passed, ?_, ?_, ?_,
    ?_⟩
  · intro hLoop
    exact absurd rfl hLoop.2
  · intro claimed hPlace
    cases hPlace
  · intro hLoop
    exact absurd rfl hLoop.2
  · intro hPlace
    cases hPlace

/- A delivery goes on in its loop. -/
theorem Delivery.Kept.move
    (hKept : d.Kept w)
    (hLoop : d.InLoop)
    (idx : Nat)
    (place : Place)
    (hPassed : ∀ seq < idx,
      seq ∈ d.done ∨ seq ∈ w.recorded d.runId)
    (hTodo : ∀ claimed, place = .checking claimed →
      idx ∉ d.done)
    (hClaimed : place = .checking true → d.lease ≠ none →
      IsLowerSet {seq | seq ∈ d.done}) :
    Kept w { d with idx := idx, place := place } :=
  ⟨hKept.runDrawn, hKept.leaseDrawn, hKept.holds,
    hKept.behind, hKept.counted, hPassed,
    fun _ => hKept.skips hLoop, hTodo,
    fun _ => hKept.front hLoop, hClaimed⟩

namespace World

theorem startDelivery_books
    (hBooks : w.Books)
    (hKept : d.Kept w)
    (i : Nat) :
    (w.startDelivery i d).Books := by
  unfold startDelivery
  split
  case isFalse => exact hBooks.put i hKept.ended
  case isTrue =>
    have hStarted : Books { w with
        state := .running
        startedAt := some (w.startedAt.getD w.now) } :=
      hBooks.of_same rfl rfl rfl rfl
    apply hStarted.put i
    constructor
    case runDrawn => exact hKept.runDrawn
    case leaseDrawn => exact hKept.leaseDrawn
    case holds => exact hKept.holds
    case behind => exact hKept.behind
    case counted =>
      intro seq hDone
      rcases List.mem_append.mp hDone with hSeq | hSkipped
      · exact .inl hSeq
      · exact .inr (List.mem_range.mp hSkipped)
    case passed =>
      intro seq hSeq
      rcases hKept.passed seq hSeq with hDone | hRecorded
      · rcases hKept.counted seq hDone with
          hRecorded | hSkipped
        · exact .inr hRecorded
        · left
          apply List.mem_append_right
          exact List.mem_range.mpr hSkipped
      · exact .inr hRecorded
    case skips =>
      intro _ seq hSeq
      apply List.mem_append_right
      exact List.mem_range.mpr hSeq
    case todo =>
      intro claimed hPlace
      cases hPlace
    case front =>
      intro _ run hRun hHeld
      rcases hKept.holds run hRun hHeld with ⟨hRunId, hFrom⟩
      have hResumes :
          w.ResumesFrom d.runId d.resumeFrom := by
        unfold ResumesFrom
        rw [hRun]
        exact ⟨hRunId, hFrom⟩
      have hFront := hBooks.front _ _ hResumes
      intro seq seq' hLe hMem
      simp only [Set.mem_ofPred_eq, List.mem_append,
        List.mem_range] at hMem ⊢
      exact hFront hLe hMem
    case claimed =>
      intro hPlace
      cases hPlace

/- An event that is not done is past `resume_from`. -/
theorem resumeFrom_le_idx
    (hKept : d.Kept w)
    (hLoop : d.InLoop)
    (hTodo : d.idx ∉ d.done) :
    d.resumeFrom ≤ d.idx := by
  by_contra hBefore
  exact hTodo (hKept.skips hLoop d.idx (by omega))

/- The cursor moves past an event the delivery was at. -/
theorem claimEvent_books
    (hBooks : w.Books)
    (hKept : d.Kept w)
    (hLoop : d.InLoop)
    (hTodo : d.idx ∉ d.done)
    {lease : String}
    (hLease : d.lease = some lease)
    {run : Option ExerciseRun}
    {claimed : Bool}
    (hClaim :
      claimEvent w.run w.state lease d.idx =
        (run, claimed)) :
    Books { w with run := run } ∧
      w.Advances { w with run := run } ∧
      (claimed = true →
        IsLowerSet {seq | seq ∈ d.done}) := by
  unfold claimEvent at hClaim
  cases hRun : w.run with
  | none =>
      rw [hRun] at hClaim
      cases hClaim
      refine ⟨?_, ?_, ?_⟩
      · exact hBooks.of_same hRun.symm rfl rfl rfl
      · exact Advances.of_sameRun (fun _ hId => hId)
          (fun _ _ hSeq => hSeq) hRun.symm
      · intro hClaimed
        cases hClaimed
  | some row =>
      rw [hRun] at hClaim
      dsimp only at hClaim
      split at hClaim
      case isFalse =>
        cases hClaim
        refine ⟨?_, ?_, ?_⟩
        · exact hBooks.of_same hRun.symm rfl rfl rfl
        · exact Advances.of_sameRun (fun _ hId => hId)
            (fun _ _ hSeq => hSeq) hRun.symm
        · intro hClaimed
          cases hClaimed
      case isTrue hMatch =>
        cases hClaim
        have hHeld : d.lease = some row.lease := by
          rw [hLease, hMatch.1]
        have hFrom := (hKept.holds row hRun hHeld).2
        have hLe := resumeFrom_le_idx hKept hLoop hTodo
        have hAdvances : w.Advances { w with
            run := some { row with nextSeq := d.idx + 1 } } := by
          refine ⟨fun _ hId => hId, fun _ _ hSeq => hSeq,
            ?_, ?_⟩
          · intro run' hRun' _
            cases hRun'
            exact ⟨row, hRun, rfl, rfl, rfl⟩
          · intro runId resumeFrom hResumes _
            refine ⟨resumeFrom, Nat.le_refl _, ?_⟩
            unfold ResumesFrom
            rw [hRun]
            exact hResumes
        refine ⟨?_, hAdvances, ?_⟩
        · apply hBooks.advance hAdvances rfl rfl
          · intro run' hRun'
            cases hRun'
            exact hBooks.runDrawn row hRun
          · intro run' hRun'
            cases hRun'
            show row.resumeFrom ≤ d.idx + 1
            omega
        · intro _
          exact hKept.front hLoop row hRun hHeld

theorem nextEvent_books
    (hBooks : w.Books)
    (hKept : d.Kept w)
    (hPlace : d.place = .looping)
    (i : Nat) :
    (w.nextEvent i d).Books := by
  have hLoop : d.InLoop := by
    constructor <;> rw [hPlace] <;> simp
  unfold nextEvent
  split
  case isFalse => exact hBooks.put i hKept.ended
  case isTrue =>
    split
    case isTrue hDone =>
      apply hBooks.put i
      have hMoved := hKept.move hLoop (d.idx + 1) d.place
        (fun seq hSeq => by
          rcases Nat.lt_succ_iff_lt_or_eq.mp hSeq with
            hBefore | rfl
          · exact hKept.passed seq hBefore
          · exact .inl hDone)
        (fun claimed hChecking => by
          rw [hPlace] at hChecking
          cases hChecking)
        (fun hChecking => by
          rw [hPlace] at hChecking
          cases hChecking)
      exact hMoved
    case isFalse hTodo =>
      split
      case h_1 hLease =>
        apply hBooks.put i
        exact hKept.move hLoop d.idx (.checking true)
          hKept.passed (fun _ _ => hTodo)
          (fun _ hHeld => absurd hLease hHeld)
      case h_2 lease hLease =>
        split
        case h_1 run claimed hClaim =>
          rcases claimEvent_books hBooks hKept hLoop hTodo
              hLease hClaim with
            ⟨hBooks', hAdvances, hFront⟩
          apply hBooks'.put i
          exact (hKept.advance hAdvances).move hLoop d.idx
            (.checking claimed) hKept.passed
            (fun _ _ => hTodo)
            (fun hChecking _ => hFront (by
              cases hChecking
              rfl))

theorem checkEvent_books
    (hBooks : w.Books)
    (hKept : d.Kept w)
    (hLoop : d.InLoop)
    (i : Nat)
    (claimed : Bool) :
    (w.checkEvent i d claimed).Books := by
  unfold checkEvent
  split
  case isFalse => exact hBooks.put i hKept.ended
  case isTrue =>
    apply hBooks.put i
    exact hKept.move hLoop d.idx .firing hKept.passed
      (by simp) (by simp)

/- Recording the event a delivery is at leaves no gap. -/
theorem recordInject_books
    (hBooks : w.Books)
    (hKept : d.Kept w)
    (status : InjectStatus) :
    (w.recordInject d status).Books ∧
      w.Advances (w.recordInject d status) := by
  have hRecorded : ∀ runId seq,
      seq ∈ (w.recordInject d status).recorded runId ↔
        seq ∈ w.recorded runId ∨
          (d.runId = runId ∧ d.idx = seq) := by
    intro runId seq
    exact mem_recordedSeqs_snoc
  have hAdvances : w.Advances (w.recordInject d status) := by
    refine Advances.of_sameRun (fun _ hId => hId) ?_ rfl
    intro runId seq hSeq
    exact (hRecorded runId seq).mpr (.inl hSeq)
  refine ⟨?_, hAdvances⟩
  refine ⟨hBooks.runDrawn, hBooks.cursor, ?_, ?_, ?_⟩
  · intro r hR
    rcases List.mem_append.mp hR with hOld | hNew
    · exact hBooks.recordsDrawn r hOld
    · rcases List.mem_singleton.mp hNew with rfl
      exact hKept.runDrawn
  · intro runId resumeFrom hResumes
    have hFront := hBooks.front runId resumeFrom hResumes
    intro seq seq' hLe hMem
    have hOld : seq' ∈ w.recorded runId ∨
        seq' < resumeFrom ∨
        (d.runId = runId ∧ d.idx = seq') := by
      rcases hMem with hMem | hSkipped
      · rcases (hRecorded runId seq).mp hMem with
          hOld | ⟨rfl, rfl⟩
        · exact (hFront hLe (.inl hOld)).imp_right .inl
        · rcases Nat.lt_or_eq_of_le hLe with hBefore | rfl
          · rcases hKept.passed seq' hBefore with
              hDone | hOld
            · rcases hKept.counted seq' hDone with
                hOld | hSkipped
              · exact .inl hOld
              · have hBehind :=
                  hKept.behind resumeFrom hResumes
                exact .inr (.inl (by omega))
            · exact .inl hOld
          · exact .inr (.inr ⟨rfl, rfl⟩)
      · exact .inr (.inl (Nat.lt_of_le_of_lt hLe hSkipped))
    rcases hOld with hOld | hSkipped | hHere
    · exact .inl ((hRecorded runId seq').mpr (.inl hOld))
    · exact .inr hSkipped
    · exact .inl ((hRecorded runId seq').mpr (.inr hHere))
  · intro d' hD'
    exact (hBooks.kept d' hD').advance hAdvances

/- The event is recorded and passed. -/
theorem recordEvent_books
    (hBooks : w.Books)
    (hKept : d.Kept w)
    (hLoop : d.InLoop)
    (i : Nat)
    (status : InjectStatus) :
    (w.recordEvent i d status).Books := by
  rcases recordInject_books hBooks hKept status with
    ⟨hBooks', hAdvances⟩
  have hKept' := hKept.advance hAdvances
  unfold recordEvent
  apply hBooks'.put i
  refine hKept'.move hLoop (d.idx + 1) .looping ?_ (by simp)
    (by simp)
  intro seq hSeq
  rcases Nat.lt_succ_iff_lt_or_eq.mp hSeq with hBefore | rfl
  · exact hKept'.passed seq hBefore
  · right
    exact mem_recordedSeqs_snoc.mpr (.inr ⟨rfl, rfl⟩)

theorem fireEvent_books
    (hBooks : w.Books)
    (hKept : d.Kept w)
    (hLoop : d.InLoop)
    (i : Nat)
    (event : TimelineEvent)
    (dispatch : Dispatch) :
    (w.fireEvent i d event dispatch).Books := by
  unfold fireEvent
  split
  case h_1 =>
    exact recordEvent_books hBooks hKept hLoop i .failed
  case h_2 =>
    split
    case h_1 =>
      apply hBooks.put i
      exact hKept.move hLoop d.idx (.recording .failed)
        hKept.passed (by simp) (by simp)
    case h_2 status =>
      have hRun : (w.runInject i d).Books :=
        hBooks.of_same rfl rfl rfl rfl
      apply hRun.put i
      have hKept' : d.Kept (w.runInject i d) := by
        apply hKept.advance
        exact Advances.of_sameRun (fun _ hId => hId)
          (fun _ _ hSeq => hSeq) rfl
      exact hKept'.move hLoop d.idx (.recording status)
        hKept.passed (by simp) (by simp)

theorem failDelivery_books
    (hBooks : w.Books)
    (hKept : d.Kept w)
    (i : Nat)
    (final : Bool) :
    (w.failDelivery i d final).Books := by
  unfold failDelivery
  split
  case isFalse => exact hBooks.put i hKept.ended
  case isTrue =>
    unfold cancelExercise
    split
    case isFalse => exact hBooks.put i hKept.ended
    case isTrue =>
      have hCancelled : Books { w with state := .cancelled } :=
        hBooks.of_same rfl rfl rfl rfl
      apply hCancelled.put i
      apply hKept.ended.advance
      exact Advances.of_sameRun (fun _ hId => hId)
        (fun _ _ hSeq => hSeq) rfl

theorem deliveryStep_books
    (hBooks : w.Books)
    (hKept : d.Kept w)
    (i : Nat)
    (step : DeliveryStep) :
    (w.deliveryStep i d step).Books := by
  cases step with
  | start =>
      simp only [deliveryStep]
      split
      case isTrue => exact startDelivery_books hBooks hKept i
      case isFalse => exact hBooks
  | next =>
      simp only [deliveryStep]
      split
      case isTrue hPlace =>
        exact nextEvent_books hBooks hKept hPlace i
      case isFalse => exact hBooks
  | check =>
      simp only [deliveryStep]
      split
      case h_1 claimed hPlace =>
        have hLoop : d.InLoop := by
          constructor <;> rw [hPlace] <;> simp
        exact checkEvent_books hBooks hKept hLoop i claimed
      case h_2 => exact hBooks
  | fire dispatch =>
      simp only [deliveryStep]
      split
      case h_2 => exact hBooks
      case h_1 event _ =>
        split
        case isFalse => exact hBooks
        case isTrue hPlace =>
          have hLoop : d.InLoop := by
            constructor <;> rw [hPlace] <;> simp
          exact fireEvent_books hBooks hKept hLoop i event
            dispatch
  | record =>
      simp only [deliveryStep]
      split
      case h_1 status hPlace =>
        have hLoop : d.InLoop := by
          constructor <;> rw [hPlace] <;> simp
        exact recordEvent_books hBooks hKept hLoop i status
      case h_2 => exact hBooks
  | fail final => exact failDelivery_books hBooks hKept i final
  | die => exact hBooks.put i hKept.ended

end World

end ScenarioRuns

end TrueNorth

--------
-- Steps
--------

namespace TrueNorth

namespace ScenarioRuns

variable {w : World}

namespace World

/- A delivery joins: it has counted nothing yet. -/
theorem Books.join
    (hBooks : w.Books)
    (taskId : String)
    {d : Delivery}
    (hKept : d.Kept { w with drawn := taskId :: w.drawn }) :
    Books { w with
      drawn := taskId :: w.drawn
      workers := w.workers ++ [d] } := by
  have hAdvances : w.Advances { w with
      drawn := taskId :: w.drawn
      workers := w.workers ++ [d] } :=
    Advances.of_sameRun
      (fun _ hId => List.mem_cons_of_mem _ hId)
      (fun _ _ hSeq => hSeq) rfl
  refine ⟨?_, hBooks.cursor, ?_, hBooks.front, ?_⟩
  · intro run hRun
    rcases hBooks.runDrawn run hRun with ⟨hRunId, hLease⟩
    exact ⟨hAdvances.drawn _ hRunId, hAdvances.drawn _ hLease⟩
  · intro r hR
    exact hAdvances.drawn _ (hBooks.recordsDrawn r hR)
  · intro d' hD'
    rcases List.mem_append.mp hD' with hOld | hNew
    · exact (hBooks.kept d' hOld).advance hAdvances
    · rcases List.mem_singleton.mp hNew with rfl
      exact hKept.advance (Advances.of_sameRun
        (fun _ hId => hId) (fun _ _ hSeq => hSeq) rfl)

/- A delivery that has not started has nothing to keep. -/
theorem kept_starting
    {runId : String}
    {lease : Option String}
    {resumeFrom : Nat}
    (timeline : List TimelineEvent)
    (hRunDrawn : runId ∈ w.drawn)
    (hLeaseDrawn : ∀ l, lease = some l → l ∈ w.drawn)
    (hHolds : ∀ run, w.run = some run →
      lease = some run.lease →
      run.runId = runId ∧ run.resumeFrom = resumeFrom)
    (hBehind : ∀ after, w.ResumesFrom runId after →
      resumeFrom ≤ after) :
    Delivery.Kept w
      { runId := runId
        lease := lease
        resumeFrom := resumeFrom
        timeline := timeline
        done := []
        idx := 0
        place := .starting } := by
  refine ⟨hRunDrawn, hLeaseDrawn, hHolds, hBehind, ?_, ?_,
    ?_, ?_, ?_, ?_⟩
  · intro seq hSeq
    cases hSeq
  · intro seq hSeq
    exact absurd hSeq (Nat.not_lt_zero seq)
  · intro hLoop
    exact absurd rfl hLoop.1
  · intro claimed hPlace
    cases hPlace
  · intro hLoop
    exact absurd rfl hLoop.1
  · intro hPlace
    cases hPlace

theorem deliver_books
    (hBooks : w.Books)
    (taskId : String)
    (lease : Option String)
    (timeline : List TimelineEvent) :
    (w.deliver taskId lease timeline).Books := by
  unfold deliver
  dsimp only
  split
  case h_1 =>
    apply hBooks.join taskId
    apply kept_starting
    · exact List.mem_cons_self
    · intro l hLease
      cases hLease
    · intro run _ hHeld
      cases hHeld
    · intro after _
      exact Nat.zero_le after
  case h_2 lease _ =>
    split
    case h_1 => exact hBooks
    case h_2 run hRun =>
      split
      case isFalse => exact hBooks
      case isTrue hSame =>
        rcases hBooks.runDrawn run hRun with
          ⟨hRunId, hLease⟩
        apply hBooks.join taskId
        apply kept_starting
        · exact List.mem_cons_of_mem _ hRunId
        · intro l hHeld
          cases hHeld
          exact List.mem_cons_of_mem _ (hSame ▸ hLease)
        · intro run' hRun' _
          have hRun'' : some run = some run' := by
            rw [← hRun, ← hRun']
          cases hRun''
          exact ⟨rfl, rfl⟩
        · intro after hAfter
          unfold ResumesFrom at hAfter
          dsimp only at hAfter
          rw [hRun] at hAfter
          exact Nat.le_of_eq hAfter.2

/- `begin` names a run and a lease nobody knows yet. -/
theorem begin_books
    (hBooks : w.Books)
    (seen : ExerciseState)
    (runId lease : String) :
    (w.step (.start seen runId lease)).Books := by
  simp only [step]
  split
  case isFalse => exact hBooks
  case isTrue hNew =>
    rcases hNew with ⟨_, hRunNew, hLeaseNew⟩
    have hAdvances : w.Advances { w with
        state := .running
        startedAt := some w.now
        run := some (beginRun runId lease)
        drawn := runId :: lease :: w.drawn } := by
      refine ⟨?_, fun _ _ hSeq => hSeq, ?_, ?_⟩
      · intro id hId
        simp [hId]
      · intro run' hRun' hKnown
        cases hRun'
        exact absurd hKnown hLeaseNew
      · intro runId' resumeFrom hResumes hKnown
        rw [← hResumes.1] at hKnown
        exact absurd hKnown hRunNew
    apply hBooks.advance hAdvances rfl rfl
    · intro run' hRun'
      cases hRun'
      simp [beginRun]
    · intro run' hRun'
      cases hRun'
      exact Nat.le_refl 0

/- `resume` hands the run on under a lease nobody knows. -/
theorem resume_books
    (hBooks : w.Books)
    (lease token : String) :
    (w.step (.resume lease token)).Books := by
  simp only [step]
  split
  case isFalse => exact hBooks
  case isTrue hNew =>
    rcases hNew with ⟨_, hLeaseNew, hTokenNew⟩
    have hLease : (ScenarioRuns.resume w.run w.records
        w.startedAt lease token).lease = lease := by
      unfold ScenarioRuns.resume
      split <;> rfl
    have hAdvances : w.Advances { w with
        state := .running
        run := some (ScenarioRuns.resume w.run w.records
          w.startedAt lease token)
        drawn := token :: lease :: w.drawn } := by
      refine ⟨?_, fun _ _ hSeq => hSeq, ?_, ?_⟩
      · intro id hId
        simp [hId]
      · intro run' hRun' hKnown
        cases hRun'
        rw [hLease] at hKnown
        exact absurd hKnown hLeaseNew
      · intro runId resumeFrom hResumes _
        unfold ResumesFrom at hResumes ⊢
        cases hRun : w.run with
        | none => exact ⟨0, Nat.zero_le _, rfl⟩
        | some run =>
            rw [hRun] at hResumes
            refine ⟨run.resumeFrom, ?_, hResumes.1, rfl⟩
            rw [← hResumes.2]
            exact hBooks.cursor run hRun
    apply hBooks.advance hAdvances rfl rfl
    · intro run' hRun'
      cases hRun'
      rw [hLease]
      refine ⟨?_, by simp⟩
      unfold ScenarioRuns.resume
      split
      case h_1 run hRun =>
        exact hAdvances.drawn _ (hBooks.runDrawn run hRun).1
      case h_2 =>
        cases hLast : lastRun w.records w.startedAt with
        | none => exact List.mem_cons_self
        | some runId =>
            rcases lastRun_recorded hLast with ⟨r, hR, rfl⟩
            exact hAdvances.drawn _
              (hBooks.recordsDrawn r hR)
    · intro run' hRun'
      cases hRun'
      unfold ScenarioRuns.resume
      split
      case h_1 => exact Nat.le_refl _
      case h_2 => exact Nat.le_refl 0

theorem step_books
    (w : World)
    (a : Action)
    (hBooks : w.Books) :
    (w.step a).Books := by
  cases a with
  | tick seconds => exact hBooks.of_same rfl rfl rfl rfl
  | start seen runId lease =>
      exact begin_books hBooks seen runId lease
  | reset seen =>
      simp only [step]
      split
      case isTrue => exact hBooks.of_same rfl rfl rfl rfl
      case isFalse => exact hBooks
  | pause seen =>
      simp only [step]
      split
      case isTrue => exact hBooks.of_same rfl rfl rfl rfl
      case isFalse => exact hBooks
  | resume lease token =>
      exact resume_books hBooks lease token
  | close =>
      simp only [step]
      split
      case isTrue => exact hBooks.of_same rfl rfl rfl rfl
      case isFalse => exact hBooks
  | withdraw =>
      simp only [step]
      split
      case isTrue => exact hBooks.of_same rfl rfl rfl rfl
      case isFalse => exact hBooks
  | deliver taskId lease timeline =>
      exact deliver_books hBooks taskId lease timeline
  | delivery i deliveryStep =>
      simp only [step]
      split
      case h_1 d hD =>
        exact deliveryStep_books hBooks
          (hBooks.kept d (List.mem_of_getElem? hD)) i
          deliveryStep
      case h_2 => exact hBooks

theorem fresh_books :
    fresh.Books := by
  refine ⟨?_, ?_, ?_, ?_, ?_⟩
  · intro run hRun
    cases hRun
  · intro run hRun
    cases hRun
  · intro r hR
    cases hR
  · intro runId resumeFrom _ seq seq' hLe hMem
    rcases hMem with hRecorded | hSkipped
    · cases hRecorded
    · exact .inr (Nat.lt_of_le_of_lt hLe hSkipped)
  · intro d hD
    cases hD

/-
  No step is silently skipped: what a delivery has passed was
  recorded in its run or came before the event its run was
  resumed at; and what the current run recorded after that
  event has no gaps.
-/
theorem no_step_skipped (actions : List Action) :
    let w := Runs.run step fresh actions
    (∀ d ∈ w.workers, ∀ seq < d.idx,
      seq ∈ w.recorded d.runId ∨ seq < d.resumeFrom) ∧
    ∀ run, w.run = some run →
      run.resumeFrom ≤ run.nextSeq ∧
      ∀ seq ∈ w.recorded run.runId, ∀ before < seq,
        before ∈ w.recorded run.runId ∨
          before < run.resumeFrom := by
  intro w
  have hBooks : w.Books :=
    Runs.run_invariant Books step_books fresh_books actions
  constructor
  · intro d hMem seq hPassed
    have hKept := hBooks.kept d hMem
    rcases hKept.passed seq hPassed with hDone | hRecorded
    · exact hKept.counted seq hDone
    · exact .inl hRecorded
  · intro run hRun
    refine ⟨hBooks.cursor run hRun, ?_⟩
    have hResumes : w.ResumesFrom run.runId run.resumeFrom := by
      unfold ResumesFrom
      rw [hRun]
      exact ⟨rfl, rfl⟩
    intro seq hRecorded before hBefore
    exact hBooks.front _ _ hResumes (Nat.le_of_lt hBefore)
      (.inl hRecorded)

end World

end ScenarioRuns

end TrueNorth
