import Mathlib.Data.List.Nodup
import TrueNorth.ScenarioRuns.Bookkeeping

/-
  When the steps of a run are executed once and in order: as
  long as a delivery that is about to fire knows what its
  run has executed, and no other one is about to fire.

  Key definitions include:
    * `Delivery.Clear`
    * `World.Ordered`

  Main theorems:
    * `World.clear_fired_once`
    * `World.twoDeliveries_fire_twice`
-/

--------
-- The Condition
--------

namespace TrueNorth

namespace ScenarioRuns

/-
  The delivery counts as done, or executed itself, whatever
  its run has executed, and is the only one of the run that
  fires.  One without a lease also has no later event done.
-/
structure Delivery.Clear
    (w : World)
    (i : Nat)
    (d : Delivery) : Prop where
  known : ∀ e ∈ w.executed, e.runId = d.runId →
    e.seq ∈ d.done ∨ e.worker = i
  alone : ∀ other ∈ w.workers.eraseIdx i,
    other.runId = d.runId → other.place ≠ .firing
  front : d.lease = none → ∀ seq ∈ d.done, seq < d.idx

instance
    (w : World)
    (i : Nat)
    (d : Delivery) :
    Decidable (d.Clear w i) :=
  decidable_of_iff
    ((∀ e ∈ w.executed, e.runId = d.runId →
        e.seq ∈ d.done ∨ e.worker = i) ∧
      (∀ other ∈ w.workers.eraseIdx i,
        other.runId = d.runId → other.place ≠ .firing) ∧
      (d.lease = none → ∀ seq ∈ d.done, seq < d.idx))
    ⟨fun h => ⟨h.1, h.2.1, h.2.2⟩,
      fun h => ⟨h.known, h.alone, h.front⟩⟩

namespace World

/- The delivery that a step lets fire. -/
def aboutToFire
    (w : World) : Action → Option (Nat × Delivery)
| .delivery i .check =>
    match w.workers[i]? with
    | some d =>
        if d.place = .checking true ∧ w.state = .running then
          some (i, d)
        else none
    | none => none
| _ => none

def Clear
    (w : World)
    (a : Action) : Prop :=
  ∀ p ∈ w.aboutToFire a, p.2.Clear w p.1

instance
    (w : World)
    (a : Action) :
    Decidable (w.Clear a) :=
  inferInstanceAs
    (Decidable (∀ p ∈ w.aboutToFire a, p.2.Clear w p.1))

end World

end ScenarioRuns

end TrueNorth

--------
-- What Is Executed in Order
--------

namespace TrueNorth

namespace ScenarioRuns

/- The delivery has executed events before this one only. -/
def Delivery.past (d : Delivery) : Nat :=
  match d.place with
  | .recording _ => d.idx + 1
  | .ended => d.idx + 1
  | _ => d.idx

namespace World

structure Ordered (w : World) : Prop where
  past : ∀ e ∈ w.executed, ∃ d,
    w.workers[e.worker]? = some d ∧
      e.runId = d.runId ∧ e.seq < d.past
  firing : ∀ (i : Nat) d, w.workers[i]? = some d →
    d.place = .firing →
    ∀ e ∈ w.executed, e.runId = d.runId → e.seq < d.idx
  single : ∀ (i j : Nat) d d', w.workers[i]? = some d →
    w.workers[j]? = some d' →
    d.place = .firing → d'.place = .firing →
    d.runId = d'.runId → i = j
  sorted : ∀ runId, (w.fired runId).Pairwise (· < ·)

variable {w w' : World}

theorem Ordered.of_same
    (hOrdered : w.Ordered)
    (hWorkers : w'.workers = w.workers)
    (hExecuted : w'.executed = w.executed) :
    w'.Ordered := by
  constructor
  case past =>
    rw [hExecuted, hWorkers]
    exact hOrdered.past
  case firing =>
    rw [hExecuted, hWorkers]
    exact hOrdered.firing
  case single =>
    rw [hWorkers]
    exact hOrdered.single
  case sorted =>
    unfold fired
    rw [hExecuted]
    exact hOrdered.sorted

/- What the `i`-th of the replaced deliveries are. -/
theorem set_cases
    {workers : List Delivery}
    {i j : Nat}
    {d d' : Delivery}
    (hSet : (workers.set i d')[j]? = some d) :
    (j = i ∧ d = d') ∨ (j ≠ i ∧ workers[j]? = some d) := by
  by_cases hSame : i = j
  · subst hSame
    rw [List.getElem?_set_self'] at hSet
    rcases Option.map_eq_some_iff.mp hSet with ⟨_, _, hD⟩
    exact .inl ⟨rfl, hD.symm⟩
  · rw [List.getElem?_set_ne hSame] at hSet
    exact .inr ⟨fun h => hSame h.symm, hSet⟩

/- A delivery moves on without executing anything. -/
theorem Ordered.move
    (hOrdered : w.Ordered)
    {i : Nat}
    {d d' : Delivery}
    (hD : w.workers[i]? = some d)
    (hWorkers : w'.workers = w.workers.set i d')
    (hExecuted : w'.executed = w.executed)
    (hRunId : d'.runId = d.runId)
    (hPast : d.past ≤ d'.past)
    (hFiring : d'.place = .firing →
      (∀ e ∈ w.executed, e.runId = d.runId →
        e.seq < d'.idx) ∧
      ∀ (j : Nat) other, w.workers[j]? = some other → j ≠ i →
        other.runId = d.runId → other.place ≠ .firing) :
    w'.Ordered := by
  have hBound : i < w.workers.length :=
    (List.getElem?_eq_some_iff.mp hD).1
  constructor
  case past =>
    intro e hE
    rw [hExecuted] at hE
    rcases hOrdered.past e hE with ⟨d₀, hD₀, hRun, hSeq⟩
    rw [hWorkers]
    by_cases hSame : i = e.worker
    · subst hSame
      rw [hD] at hD₀
      cases hD₀
      refine ⟨d', List.getElem?_set_self hBound, ?_, ?_⟩
      · rw [hRun, hRunId]
      · exact Nat.lt_of_lt_of_le hSeq hPast
    · rw [List.getElem?_set_ne hSame]
      exact ⟨d₀, hD₀, hRun, hSeq⟩
  case firing =>
    intro j other hOther hPlace e hE hRun
    rw [hExecuted] at hE
    rw [hWorkers] at hOther
    rcases set_cases hOther with ⟨_, rfl⟩ | ⟨_, hOld⟩
    · rw [hRunId] at hRun
      exact (hFiring hPlace).1 e hE hRun
    · exact hOrdered.firing j other hOld hPlace e hE hRun
  case single =>
    intro j k a b hA hB hPlaceA hPlaceB hRun
    rw [hWorkers] at hA hB
    rcases set_cases hA with ⟨hJ, hNewA⟩ | ⟨hJ, hOldA⟩
    · rcases set_cases hB with ⟨hK, _⟩ | ⟨hK, hOldB⟩
      · rw [hJ, hK]
      · subst hNewA
        rw [hRunId] at hRun
        exact absurd hPlaceB
          ((hFiring hPlaceA).2 k b hOldB hK hRun.symm)
    · rcases set_cases hB with ⟨_, hNewB⟩ | ⟨_, hOldB⟩
      · subst hNewB
        rw [hRunId] at hRun
        exact absurd hPlaceA
          ((hFiring hPlaceB).2 j a hOldA hJ hRun)
      · exact hOrdered.single j k a b hOldA hOldB hPlaceA
          hPlaceB hRun
  case sorted =>
    unfold fired
    rw [hExecuted]
    exact hOrdered.sorted

/- The delivery that fires executes the next event. -/
theorem Ordered.execute
    (hOrdered : w.Ordered)
    {i : Nat}
    {d : Delivery}
    (hD : w.workers[i]? = some d)
    (hPlace : d.place = .firing)
    (status : InjectStatus) :
    ((w.runInject i d).put i
      { d with place := .recording status }).Ordered := by
  have hBound : i < w.workers.length :=
    (List.getElem?_eq_some_iff.mp hD).1
  have hBefore := hOrdered.firing i d hD hPlace
  constructor
  case past =>
    intro e hE
    rcases List.mem_append.mp hE with hOld | hNew
    · rcases hOrdered.past e hOld with ⟨d₀, hD₀, hRun, hSeq⟩
      by_cases hSame : i = e.worker
      · subst hSame
        rw [hD] at hD₀
        cases hD₀
        refine ⟨_, List.getElem?_set_self hBound, hRun, ?_⟩
        exact Nat.lt_succ_of_lt (hBefore e hOld hRun)
      · refine ⟨d₀, ?_, hRun, hSeq⟩
        exact (List.getElem?_set_ne hSame).trans hD₀
    · rcases List.mem_singleton.mp hNew with rfl
      refine ⟨_, List.getElem?_set_self hBound, rfl, ?_⟩
      exact Nat.lt_succ_self d.idx
  case firing =>
    intro j other hOther hFiring e hE hRun
    rcases set_cases hOther with ⟨_, rfl⟩ | ⟨hJ, hOld⟩
    · cases hFiring
    · rcases List.mem_append.mp hE with hE | hNew
      · exact hOrdered.firing j other hOld hFiring e hE hRun
      · rcases List.mem_singleton.mp hNew with rfl
        have hSame := hOrdered.single i j d other hD hOld
          hPlace hFiring hRun
        exact absurd hSame.symm hJ
  case single =>
    intro j k a b hA hB hPlaceA hPlaceB hRun
    rcases set_cases hA with ⟨_, rfl⟩ | ⟨_, hA⟩
    · cases hPlaceA
    · rcases set_cases hB with ⟨_, rfl⟩ | ⟨_, hB⟩
      · cases hPlaceB
      · exact hOrdered.single j k a b hA hB hPlaceA hPlaceB
          hRun
  case sorted =>
    intro runId
    have hFired :
        ((w.runInject i d).put i
          { d with place := .recording status }).fired runId =
        w.fired runId ++
          if d.runId = runId then [d.idx] else [] := by
      unfold fired
      show ((w.executed ++ [_]).filter _).map _ = _
      rw [List.filter_append, List.map_append]
      by_cases hRun : d.runId = runId <;> simp [hRun]
    rw [hFired]
    split
    case isFalse =>
      rw [List.append_nil]
      exact hOrdered.sorted runId
    case isTrue hRun =>
      refine List.pairwise_append.mpr
        ⟨hOrdered.sorted runId, List.pairwise_singleton _ _,
          ?_⟩
      intro seq hSeq last hLast
      rw [List.mem_singleton.mp hLast]
      unfold fired at hSeq
      rcases List.mem_map.mp hSeq with ⟨e, hE, rfl⟩
      rcases List.mem_filter.mp hE with ⟨hE, hSame⟩
      rw [decide_eq_true_eq] at hSame
      exact hBefore e hE (hSame.trans hRun.symm)

/- A delivery that starts has executed nothing. -/
theorem Ordered.join
    (hOrdered : w.Ordered)
    {d : Delivery}
    (hPlace : d.place = .starting)
    (drawn : List String) :
    Ordered { w with
      drawn := drawn
      workers := w.workers ++ [d] } := by
  have hOld : ∀ (j : Nat) other,
      (w.workers ++ [d])[j]? = some other →
      other.place = .firing → w.workers[j]? = some other := by
    intro j other hOther hFiring
    by_cases hBound : j < w.workers.length
    · rw [List.getElem?_append_left hBound] at hOther
      exact hOther
    · rw [List.getElem?_append_right (by omega)] at hOther
      have hMem := List.mem_of_getElem? hOther
      rcases List.mem_singleton.mp hMem with rfl
      rw [hPlace] at hFiring
      cases hFiring
  constructor
  case past =>
    intro e hE
    rcases hOrdered.past e hE with ⟨d₀, hD₀, hRun, hSeq⟩
    refine ⟨d₀, ?_, hRun, hSeq⟩
    have hBound : e.worker < w.workers.length :=
      (List.getElem?_eq_some_iff.mp hD₀).1
    exact (List.getElem?_append_left hBound).trans hD₀
  case firing =>
    intro j other hOther hFiring
    exact hOrdered.firing j other (hOld j other hOther hFiring)
      hFiring
  case single =>
    intro j k a b hA hB hPlaceA hPlaceB
    exact hOrdered.single j k a b (hOld j a hA hPlaceA)
      (hOld k b hB hPlaceB) hPlaceA hPlaceB
  case sorted => exact hOrdered.sorted

--------
-- Steps
--------

variable {w : World}
variable {i : Nat}
variable {d : Delivery}

/- Whatever was executed comes before the event to fire. -/
theorem executed_before
    (hBooks : w.Books)
    (hOrdered : w.Ordered)
    (hD : w.workers[i]? = some d)
    (hPlace : d.place = .checking true)
    (hClear : d.Clear w i)
    {e : Execution}
    (hE : e ∈ w.executed)
    (hRun : e.runId = d.runId) :
    e.seq < d.idx := by
  have hKept := hBooks.kept d (List.mem_of_getElem? hD)
  have hTodo := hKept.todo true hPlace
  rcases hClear.known e hE hRun with hDone | hOwn
  · by_cases hLease : d.lease = none
    · exact hClear.front hLease e.seq hDone
    · have hFront := hKept.claimed hPlace hLease
      by_contra hAfter
      exact hTodo (hFront (Nat.le_of_not_lt hAfter) hDone)
  · rcases hOrdered.past e hE with ⟨d₀, hD₀, _, hSeq⟩
    rw [hOwn, hD] at hD₀
    cases hD₀
    unfold Delivery.past at hSeq
    rw [hPlace] at hSeq
    exact hSeq

theorem past_ended
    (d : Delivery) :
    d.past ≤ Delivery.past { d with place := .ended } := by
  unfold Delivery.past
  split <;> simp

theorem Ordered.ended
    {w' : World}
    (hOrdered : w.Ordered)
    (hD : w.workers[i]? = some d)
    (hWorkers : w'.workers =
      w.workers.set i { d with place := .ended })
    (hExecuted : w'.executed = w.executed) :
    w'.Ordered :=
  hOrdered.move hD hWorkers hExecuted rfl (past_ended d)
    (fun hPlace => by cases hPlace)

theorem startDelivery_ordered
    (hOrdered : w.Ordered)
    (hD : w.workers[i]? = some d)
    (hPlace : d.place = .starting) :
    (w.startDelivery i d).Ordered := by
  unfold startDelivery
  split
  case isFalse => exact hOrdered.ended hD rfl rfl
  case isTrue =>
    refine hOrdered.move hD rfl rfl rfl ?_ ?_
    · unfold Delivery.past
      rw [hPlace]
    · intro hFiring
      cases hFiring

theorem nextEvent_ordered
    (hOrdered : w.Ordered)
    (hD : w.workers[i]? = some d)
    (hPlace : d.place = .looping) :
    (w.nextEvent i d).Ordered := by
  have hPast : d.past = d.idx := by
    unfold Delivery.past
    rw [hPlace]
  unfold nextEvent
  split
  case isFalse => exact hOrdered.ended hD rfl rfl
  case isTrue =>
    split
    case isTrue =>
      refine hOrdered.move hD rfl rfl rfl ?_ ?_
      · rw [hPast]
        unfold Delivery.past
        rw [hPlace]
        exact Nat.le_succ d.idx
      · intro hFiring
        rw [hPlace] at hFiring
        cases hFiring
    case isFalse =>
      split
      case h_1 =>
        refine hOrdered.move hD rfl rfl rfl ?_ ?_
        · exact Nat.le_of_eq hPast
        · intro hFiring
          cases hFiring
      case h_2 =>
        refine hOrdered.move hD rfl rfl rfl ?_ ?_
        · exact Nat.le_of_eq hPast
        · intro hFiring
          cases hFiring

/- The step the condition is about. -/
theorem checkEvent_ordered
    (hBooks : w.Books)
    (hOrdered : w.Ordered)
    (hD : w.workers[i]? = some d)
    {claimed : Bool}
    (hPlace : d.place = .checking claimed)
    (hClear : w.Clear (.delivery i .check)) :
    (w.checkEvent i d claimed).Ordered := by
  unfold checkEvent
  split
  case isFalse => exact hOrdered.ended hD rfl rfl
  case isTrue hRunning =>
    rcases hRunning with ⟨hState, rfl⟩
    have hThis : d.Clear w i := by
      apply hClear (i, d)
      simp [aboutToFire, hD, hPlace, hState]
    refine hOrdered.move hD rfl rfl rfl ?_ ?_
    · unfold Delivery.past
      rw [hPlace]
    · intro _
      constructor
      · intro e hE hRun
        exact executed_before hBooks hOrdered hD hPlace hThis
          hE hRun
      · intro j other hOther hJ hRun
        apply hThis.alone other _ hRun
        exact List.mem_eraseIdx_iff_getElem?.mpr
          ⟨j, hJ, hOther⟩

theorem recordEvent_ordered
    (hOrdered : w.Ordered)
    (hD : w.workers[i]? = some d)
    (hPast : d.past ≤ d.idx + 1)
    (status : InjectStatus) :
    (w.recordEvent i d status).Ordered := by
  unfold recordEvent
  refine hOrdered.move hD rfl rfl rfl ?_ ?_
  · exact hPast
  · intro hFiring
    cases hFiring

theorem fireEvent_ordered
    (hOrdered : w.Ordered)
    (hD : w.workers[i]? = some d)
    (hPlace : d.place = .firing)
    (event : TimelineEvent)
    (dispatch : Dispatch) :
    (w.fireEvent i d event dispatch).Ordered := by
  have hPast : d.past = d.idx := by
    unfold Delivery.past
    rw [hPlace]
  unfold fireEvent
  split
  case h_1 =>
    apply recordEvent_ordered hOrdered hD
    rw [hPast]
    exact Nat.le_succ d.idx
  case h_2 =>
    split
    case h_1 =>
      refine hOrdered.move hD rfl rfl rfl ?_ ?_
      · rw [hPast]
        exact Nat.le_succ d.idx
      · intro hFiring
        cases hFiring
    case h_2 status =>
      exact hOrdered.execute hD hPlace status

theorem failDelivery_ordered
    (hOrdered : w.Ordered)
    (hD : w.workers[i]? = some d)
    (final : Bool) :
    (w.failDelivery i d final).Ordered := by
  unfold failDelivery
  split
  case isFalse => exact hOrdered.ended hD rfl rfl
  case isTrue =>
    unfold cancelExercise
    split
    case isTrue => exact hOrdered.ended hD rfl rfl
    case isFalse => exact hOrdered.ended hD rfl rfl

theorem deliveryStep_ordered
    (hBooks : w.Books)
    (hOrdered : w.Ordered)
    (hD : w.workers[i]? = some d)
    (step : DeliveryStep)
    (hClear : w.Clear (.delivery i step)) :
    (w.deliveryStep i d step).Ordered := by
  cases step with
  | start =>
      simp only [deliveryStep]
      split
      case isTrue hPlace =>
        exact startDelivery_ordered hOrdered hD hPlace
      case isFalse => exact hOrdered
  | next =>
      simp only [deliveryStep]
      split
      case isTrue hPlace =>
        exact nextEvent_ordered hOrdered hD hPlace
      case isFalse => exact hOrdered
  | check =>
      simp only [deliveryStep]
      split
      case h_1 claimed hPlace =>
        exact checkEvent_ordered hBooks hOrdered hD hPlace
          hClear
      case h_2 => exact hOrdered
  | fire dispatch =>
      simp only [deliveryStep]
      split
      case h_2 => exact hOrdered
      case h_1 event _ =>
        split
        case isTrue hPlace =>
          exact fireEvent_ordered hOrdered hD hPlace event
            dispatch
        case isFalse => exact hOrdered
  | record =>
      simp only [deliveryStep]
      split
      case h_1 status hPlace =>
        apply recordEvent_ordered hOrdered hD
        unfold Delivery.past
        rw [hPlace]
      case h_2 => exact hOrdered
  | fail final => exact failDelivery_ordered hOrdered hD final
  | die => exact hOrdered.ended hD rfl rfl

/- No step but a delivery's own executes anything. -/
theorem step_ordered
    (w : World)
    (a : Action)
    (hClear : w.Clear a)
    (hBooks : w.Books)
    (hOrdered : w.Ordered) :
    (w.step a).Ordered := by
  cases a with
  | tick seconds => exact hOrdered.of_same rfl rfl
  | start seen runId lease =>
      simp only [step]
      split
      case isTrue => exact hOrdered.of_same rfl rfl
      case isFalse => exact hOrdered
  | reset seen =>
      simp only [step]
      split
      case isTrue => exact hOrdered.of_same rfl rfl
      case isFalse => exact hOrdered
  | pause seen =>
      simp only [step]
      split
      case isTrue => exact hOrdered.of_same rfl rfl
      case isFalse => exact hOrdered
  | resume lease token =>
      simp only [step]
      split
      case isTrue => exact hOrdered.of_same rfl rfl
      case isFalse => exact hOrdered
  | close =>
      simp only [step]
      split
      case isTrue => exact hOrdered.of_same rfl rfl
      case isFalse => exact hOrdered
  | withdraw =>
      simp only [step]
      split
      case isTrue => exact hOrdered.of_same rfl rfl
      case isFalse => exact hOrdered
  | deliver taskId lease timeline =>
      simp only [step]
      unfold deliver
      dsimp only
      split
      case h_1 => exact hOrdered.join rfl _
      case h_2 =>
        split
        case h_1 => exact hOrdered
        case h_2 =>
          split
          case isTrue => exact hOrdered.join rfl _
          case isFalse => exact hOrdered
  | delivery i deliveryStep =>
      simp only [step]
      split
      case h_1 d hD =>
        exact deliveryStep_ordered hBooks hOrdered hD
          deliveryStep hClear
      case h_2 => exact hOrdered

theorem fresh_ordered :
    fresh.Ordered := by
  constructor
  · intro e hE
    cases hE
  · intro j d hD
    cases hD
  · intro j k a b hA
    cases hA
  · intro runId
    exact List.Pairwise.nil

--------
-- Once and in Order
--------

/-
  Each step of a run is executed at most once, and the steps
  in order, wherever the condition is met.
-/
theorem clear_fired_once
    (actions : List Action)
    (hMeets : Runs.Meets step Clear fresh actions)
    (runId : String) :
    let w := Runs.run step fresh actions
    (∀ seq, (w.fired runId).count seq ≤ 1) ∧
      (w.fired runId).Pairwise (· < ·) := by
  intro w
  have hBoth : w.Books ∧ w.Ordered := by
    refine Runs.Meets.invariant
      (fun w => w.Books ∧ w.Ordered) ?_
      ⟨fresh_books, fresh_ordered⟩ hMeets
    intro w a hClear hInv
    exact ⟨step_books w a hInv.1,
      step_ordered w a hClear hInv.1 hInv.2⟩
  have hSorted := hBoth.2.sorted runId
  refine ⟨?_, hSorted⟩
  intro seq
  exact List.nodup_iff_count_le_one.mp
    (hSorted.imp Nat.ne_of_lt) seq

/- A well-formed event at once. -/
def atOnce : TimelineEvent :=
  .mapping (some "network_scan") true (some [0, 0])

/- One delivery takes its event to the end. -/
def oneEvent (i : Nat) : List Action :=
  [.delivery i .next, .delivery i .check,
    .delivery i (.fire (.ran .fired)), .delivery i .record]

/- A start whose message is delivered. -/
def started : List Action :=
  [.start .pending "run" "lease",
    .deliver "task" (some "lease") [atOnce, atOnce, atOnce],
    .delivery 0 .start]

/-
  A pause, a resume under a new lease, a redelivery of the
  first message, and a worker lost before it fires.
-/
theorem pausedAndResumed_fired :
    let w := Runs.run step fresh
      (started ++ oneEvent 0 ++
        [.pause .running, .delivery 0 .next,
          .delivery 0 .check, .resume "again" "unused",
          .deliver "task" (some "lease") [atOnce],
          .deliver "next" (some "again")
            [atOnce, atOnce, atOnce],
          .delivery 1 .start, .delivery 1 .next] ++
        oneEvent 1 ++
        [.delivery 1 .next, .delivery 1 .check,
          .delivery 1 .die,
          .deliver "next" (some "again")
            [atOnce, atOnce, atOnce],
          .delivery 2 .start, .delivery 2 .next,
          .delivery 2 .next] ++ oneEvent 2)
    w.fired "run" = [0, 1, 2] ∧
      (∀ seq, (w.fired "run").count seq ≤ 1) ∧
      (w.fired "run").Pairwise (· < ·) :=
  ⟨by decide,
    clear_fired_once _ (by decide) "run"⟩

/-
  One message delivered twice: both deliveries have read
  that nothing is recorded.
-/
theorem twoDeliveries_fire_twice :
    ¬ ∀ (actions : List Action) (runId : String) (seq : Nat),
      ((Runs.run step fresh actions).fired runId).count seq ≤
        1 := by
  intro hOnce
  have hTwice := hOnce
    (started ++
      [.deliver "task" (some "lease")
        [atOnce, atOnce, atOnce], .delivery 1 .start] ++
      oneEvent 0 ++ oneEvent 1)
    "run" 0
  revert hTwice
  decide

/- A worker that dies before it records: a redelivery. -/
example :
    (Runs.run step fresh
      (started ++
        [.delivery 0 .next, .delivery 0 .check,
          .delivery 0 (.fire (.ran .fired)),
          .delivery 0 .die,
          .deliver "task" (some "lease") [atOnce],
          .delivery 1 .start] ++
        oneEvent 1)).fired "run" = [0, 0] := by
  decide

/- A claim outlives a resume: the order is lost. -/
example :
    (Runs.run step fresh
      (started ++
        [.delivery 0 .next, .delivery 0 .check,
          .pause .running, .resume "again" "unused",
          .deliver "next" (some "again") [atOnce, atOnce],
          .delivery 1 .start, .delivery 1 .next] ++
        oneEvent 1 ++
        [.delivery 0 (.fire (.ran .fired))])).fired "run" =
      [1, 0] := by
  decide

end World

end ScenarioRuns

end TrueNorth
