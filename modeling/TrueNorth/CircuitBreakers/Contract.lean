import Mathlib.Algebra.Ring.Int.Defs
import Mathlib.Data.List.Basic
import TrueNorth.CircuitBreakers.Breaker

/-
  When the breaker keeps its contract under overlapping calls.

  What the breaker counts is tied to what was recorded by an
  invariant that holds in every run.  The half-open circuit
  admits every call, and counts every success: a run keeps
  the contract where its probes come one at a time and no
  other call's success helps to close the circuit.

  Key definitions include:
    * `Inv`
    * `Single`

  Main theorems:
    * `Inv.step`
    * `kept_iff_single`
    * `meets_kept_iff`
    * `run_counts`
-/

--------
-- What Is Counted
--------

namespace TrueNorth

namespace CircuitBreakers

namespace World

variable {T : Type}

/- Successes recorded while half-open since it last opened. -/
def counted (w : World T) : Nat :=
  w.recorded.countP (fun o =>
    o.success && (o.halfOpen && o.opening = w.openings))

/- Those of them of other calls than its probes. -/
def strangers (w : World T) : Nat :=
  w.recorded.countP (fun o =>
    o.success && (o.halfOpen && o.opening = w.openings) &&
      o.probeOf ≠ some w.openings)

/-
  The breaker's counts and times are those of what was
  recorded, and a probe is of an opening there was.
-/
structure Inv (w : World T) : Prop where
  calls : ∀ call ∈ w.calls, ∀ k, call.probeOf = some k →
    k ≤ w.openings
  callsOpen : w.breaker.state = .open_ → ∀ call ∈ w.calls,
    call.probeOf ≠ some w.openings
  recorded : ∀ o ∈ w.recorded, o.opening ≤ w.openings ∧
    ∀ k, o.probeOf = some k → k ≤ w.openings
  recordedOpen : w.breaker.state = .open_ → ∀ o ∈ w.recorded,
    o.probeOf ≠ some w.openings ∧
      (o.halfOpen && o.opening = w.openings) = false
  recordedHalf : w.breaker.state = .halfOpen →
    ∀ o ∈ w.recorded, o.probeOf = some w.openings →
      (o.halfOpen && o.opening = w.openings) = true
  countedHalf : w.breaker.state = .halfOpen →
    w.breaker.successCount = w.counted
  below : w.breaker.state = .halfOpen →
    w.breaker.successThreshold = 0 ∨
      w.breaker.successCount < w.breaker.successThreshold
  streak : w.breaker.state = .closed →
    w.breaker.failureCount = w.failuresInARow
  lastTime : ∀ t, w.lastFailure = some t →
    w.breaker.lastFailureTime = t

variable {w : World T}
variable {call : Call}
variable {i : Nat}

/- Of a new breaker there is nothing to count. -/
theorem Inv.start
    [Zero T]
    (name : String)
    (failureThreshold : Nat)
    (recoveryTimeout : T)
    (successThreshold : Nat) :
    (World.start (CircuitBreaker.new name failureThreshold
      recoveryTimeout successThreshold)).Inv := by
  constructor <;>
    simp [World.start, CircuitBreaker.new, failuresInARow,
      lastFailure]

/- While half-open, all the probes' successes were counted. -/
theorem Inv.counted_eq
    (hInv : w.Inv)
    (hHalf : w.breaker.state = .halfOpen) :
    w.breaker.successCount = w.probeSuccesses + w.strangers := by
  rw [hInv.countedHalf hHalf]
  have hRecorded := hInv.recordedHalf hHalf
  have hSplit := List.countP_eq_countP_filter_add w.recorded
    (fun o => o.success && (o.halfOpen && o.opening = w.openings))
    (fun o => o.probeOf = some w.openings)
  simp only [List.countP_filter] at hSplit
  unfold counted probeSuccesses strangers
  rw [hSplit]
  congr 1
  · apply List.countP_congr
    intro o hMem
    simp only [Bool.and_eq_true]
    constructor
    · rintro ⟨⟨hSuccess, _⟩, hProbe⟩
      exact ⟨hSuccess, hProbe⟩
    · rintro ⟨hSuccess, hProbe⟩
      have hCounts := hRecorded o hMem (of_decide_eq_true hProbe)
      rw [Bool.and_eq_true] at hCounts
      exact ⟨⟨hSuccess, hCounts⟩, hProbe⟩
  · simp

/- What is set aside of a call is not what it probes. -/
theorem mem_setPhase
    {phase : Phase}
    {call' : Call}
    (hCall : w.calls[i]? = some call)
    (hMem : call' ∈ (w.setPhase i call phase).calls) :
    ∃ old ∈ w.calls, call'.probeOf = old.probeOf := by
  unfold setPhase at hMem
  rcases List.mem_or_eq_of_mem_set hMem with hOld | rfl
  · exact ⟨call', hOld, rfl⟩
  · exact ⟨call, List.mem_of_getElem? hCall, rfl⟩

theorem Inv.setPhase
    (hInv : w.Inv)
    (hCall : w.calls[i]? = some call)
    (phase : Phase) :
    (w.setPhase i call phase).Inv :=
  { hInv with
    calls := by
      intro call' hMem k hProbe
      rcases mem_setPhase hCall hMem with ⟨old, hOld, hSame⟩
      exact hInv.calls old hOld k (hSame ▸ hProbe)
    callsOpen := by
      intro hOpen call' hMem
      rcases mem_setPhase hCall hMem with ⟨old, hOld, hSame⟩
      rw [hSame]
      exact hInv.callsOpen hOpen old hOld }

end World

end CircuitBreakers

end TrueNorth

--------
-- Every Run Keeps The Counts
--------

namespace TrueNorth

namespace CircuitBreakers

variable {T : Type}

section Enter

variable [Sub T] [LT T] [DecidableLT T]

/- A call that enters leaves the breaker, or half-opens it. -/
theorem enter_cases
    {cb cb' : CircuitBreaker T}
    {now : T}
    (hEnter : cb.enter now = .ok cb') :
    (cb.state ≠ .open_ ∧ cb' = cb) ∨
    (cb.state = .open_ ∧
      ¬ now - cb.lastFailureTime < cb.recoveryTimeout ∧
      cb' = { cb with state := .halfOpen, successCount := 0 }) := by
  unfold CircuitBreaker.enter at hEnter
  cases hState : cb.state with
  | closed =>
      rw [hState] at hEnter
      cases hEnter
      exact .inl ⟨by decide, rfl⟩
  | halfOpen =>
      rw [hState] at hEnter
      cases hEnter
      exact .inl ⟨by decide, rfl⟩
  | open_ =>
      rw [hState] at hEnter
      by_cases hEarly :
          now - cb.lastFailureTime < cb.recoveryTimeout
      · simp [hEarly] at hEnter
      · simp only [hEarly, if_false, Except.ok.injEq] at hEnter
        exact .inr ⟨rfl, hEarly, hEnter.symm⟩

end Enter

namespace World

variable {w : World T}
variable {call : Call}
variable {i : Nat}

/- A call that enters is of an opening there was. -/
theorem mem_admit
    {cb : CircuitBreaker T}
    {call' : Call}
    (hMem : call' ∈ (w.letIn cb).calls) :
    call' ∈ w.calls ∨ call'.probeOf = none ∨
      cb.state ≠ .closed ∧ call'.probeOf = some w.openings := by
  unfold letIn at hMem
  rcases List.mem_append.mp hMem with hOld | hNew
  · exact .inl hOld
  · rw [List.mem_singleton.mp hNew]
    by_cases hClosed : cb.state = .closed
    · exact .inr (.inl (by simp [hClosed]))
    · exact .inr (.inr ⟨hClosed, by simp [hClosed]⟩)

theorem Inv.letIn
    [Sub T] [LT T] [DecidableLT T]
    (hInv : w.Inv)
    {now : T}
    {cb : CircuitBreaker T}
    (hEnter : w.breaker.enter now = .ok cb) :
    (w.letIn cb).Inv := by
  have hCalls : ∀ call ∈ (w.letIn cb).calls, ∀ k,
      call.probeOf = some k → k ≤ w.openings := by
    intro call hMem k hProbe
    rcases mem_admit hMem with hOld | hNone | ⟨_, hSome⟩
    · exact hInv.calls call hOld k hProbe
    · rw [hNone] at hProbe
      cases hProbe
    · rw [hSome] at hProbe
      cases hProbe
      exact Nat.le_refl _
  rcases enter_cases hEnter with
    ⟨hNotOpen, rfl⟩ | ⟨hOpen, _, rfl⟩
  · exact { hInv with
      calls := hCalls
      callsOpen := fun hOpen => absurd hOpen hNotOpen }
  · constructor
    · exact hCalls
    · intro hNot
      cases hNot
    · exact hInv.recorded
    · intro hNot
      cases hNot
    · intro _ o hMem hProbe
      exact absurd hProbe (hInv.recordedOpen hOpen o hMem).1
    · intro _
      -- nothing was counted yet at this opening
      apply Eq.symm
      apply List.countP_eq_zero.mpr
      intro o hMem hCounts
      have hNot := (hInv.recordedOpen hOpen o hMem).2
      rw [Bool.and_eq_true] at hCounts
      exact absurd hCounts.2 (by
        change ¬ (o.halfOpen && o.opening = w.openings) = true
        rw [hNot]
        decide)
    · intro _
      exact Nat.eq_zero_or_pos w.breaker.successThreshold
    · intro hNot
      cases hNot
    · exact hInv.lastTime

/- What an outcome does to the counts, whatever the breaker. -/
theorem Inv.record
    (hInv : w.Inv)
    (hLe : ∀ k, call.probeOf = some k → k ≤ w.openings)
    (hCallOpen : w.breaker.state = .open_ →
      call.probeOf ≠ some w.openings)
    {success : Bool}
    {now : T}
    {cb : CircuitBreaker T}
    (hHalf : cb.state = .halfOpen →
      w.breaker.state = .halfOpen ∧
        cb.successCount =
          w.breaker.successCount + (if success then 1 else 0) ∧
        (cb.successThreshold = 0 ∨
          cb.successCount < cb.successThreshold))
    (hClosed : cb.state = .closed → cb.failureCount =
      if success then 0 else w.failuresInARow + 1)
    (hTime : cb.lastFailureTime =
      if success then w.breaker.lastFailureTime else now) :
    (w.record call success now cb).Inv := by
  have hGrows : w.openings ≤
      (w.record call success now cb).openings := by
    unfold World.record
    dsimp only
    split <;> omega
  -- the openings that are named come before a new one
  have hNew : cb.state = .open_ → w.breaker.state ≠ .open_ →
      (w.record call success now cb).openings =
        w.openings + 1 := by
    intro hOpen hNotOpen
    exact if_pos ⟨hNotOpen, hOpen⟩
  have hSame : cb.state ≠ .open_ ∨ w.breaker.state = .open_ →
      (w.record call success now cb).openings = w.openings := by
    intro hEither
    apply if_neg
    rintro ⟨hNotOpen, hOpen⟩
    rcases hEither with hNot | hWas
    · exact hNot hOpen
    · exact hNotOpen hWas
  have hRecorded : ∀ o ∈ (w.record call success now cb).recorded,
      o.opening ≤ w.openings ∧
        ∀ k, o.probeOf = some k → k ≤ w.openings := by
    intro o hMem
    rcases List.mem_cons.mp hMem with rfl | hOld
    · exact ⟨Nat.le_refl _, hLe⟩
    · exact hInv.recorded o hOld
  constructor
  · intro call' hMem k hProbe
    exact Nat.le_trans (hInv.calls call' hMem k hProbe) hGrows
  · intro hOpen call' hMem hProbe
    by_cases hWas : w.breaker.state = .open_
    · rw [hSame (.inr hWas)] at hProbe
      exact hInv.callsOpen hWas call' hMem hProbe
    · rw [hNew hOpen hWas] at hProbe
      have hLate := hInv.calls call' hMem _ hProbe
      omega
  · intro o hMem
    have hOld := hRecorded o hMem
    exact ⟨Nat.le_trans hOld.1 hGrows, fun k hProbe =>
      Nat.le_trans (hOld.2 k hProbe) hGrows⟩
  · intro hOpen o hMem
    by_cases hWas : w.breaker.state = .open_
    · rw [hSame (.inr hWas)]
      rcases List.mem_cons.mp hMem with rfl | hOld
      · refine ⟨hCallOpen hWas, ?_⟩
        simp [hWas]
      · exact hInv.recordedOpen hWas o hOld
    · rw [hNew hOpen hWas]
      have hOld := hRecorded o hMem
      constructor
      · intro hProbe
        have hLate := hOld.2 _ hProbe
        omega
      · rw [Bool.and_eq_false_iff]
        refine .inr (decide_eq_false ?_)
        omega
  · intro (hIs : cb.state = .halfOpen) o hMem hProbe
    rw [hSame (.inl (by rw [hIs]; decide))] at hProbe ⊢
    have hWas := (hHalf hIs).1
    rcases List.mem_cons.mp hMem with rfl | hOld
    · simp [hWas]
    · exact hInv.recordedHalf hWas o hOld hProbe
  · intro (hIs : cb.state = .halfOpen)
    rcases hHalf hIs with ⟨hWas, hCount, _⟩
    unfold counted
    rw [hSame (.inl (by rw [hIs]; decide))]
    unfold World.record
    rw [List.countP_cons]
    rw [hCount, hInv.countedHalf hWas]
    unfold counted
    cases success <;> simp [hWas]
  · intro hIs
    exact (hHalf hIs).2.2
  · intro hIs
    have hCount := hClosed hIs
    unfold failuresInARow World.record at *
    cases success <;> simpa using hCount
  · intro t hLast
    unfold World.record at hLast ⊢
    unfold lastFailure at hLast
    cases success with
    | true => exact hTime.trans (hInv.lastTime t (by
        simpa [lastFailure] using hLast))
    | false => simpa [hTime] using hLast

/- What is known of a call that has entered. -/
theorem Inv.success
    (hInv : w.Inv)
    (hCall : call ∈ w.calls)
    (now : T) :
    (w.record call true now w.breaker.onSuccess).Inv := by
  apply hInv.record (hInv.calls call hCall)
    (fun hOpen => hInv.callsOpen hOpen call hCall)
  · intro hHalf
    unfold CircuitBreaker.onSuccess at hHalf ⊢
    cases hState : w.breaker.state with
    | closed => simp [hState] at hHalf
    | open_ => simp [hState] at hHalf
    | halfOpen =>
        by_cases hCloses : w.breaker.successThreshold ≤
            w.breaker.successCount + 1
        · simp [hState, hCloses] at hHalf
        · simp only [hCloses, if_false, if_true, true_and]
          omega
  · intro hClosed
    unfold CircuitBreaker.onSuccess at hClosed ⊢
    cases hState : w.breaker.state with
    | closed => simp
    | open_ => simp [hState] at hClosed
    | halfOpen =>
        by_cases hCloses : w.breaker.successThreshold ≤
            w.breaker.successCount + 1
        · simp [hCloses]
        · simp [hState, hCloses] at hClosed
  · unfold CircuitBreaker.onSuccess
    cases w.breaker.state with
    | closed => rfl
    | open_ => rfl
    | halfOpen =>
        dsimp only
        split <;> rfl

theorem Inv.failure
    (hInv : w.Inv)
    (hCall : call ∈ w.calls)
    (now : T) :
    (w.record call false now (w.breaker.onFailure now)).Inv := by
  apply hInv.record (hInv.calls call hCall)
    (fun hOpen => hInv.callsOpen hOpen call hCall)
  · intro hHalf
    unfold CircuitBreaker.onFailure at hHalf
    cases hState : w.breaker.state with
    | halfOpen => simp [hState] at hHalf
    | open_ => simp [hState] at hHalf
    | closed =>
        simp only [hState] at hHalf
        split at hHalf <;> cases hHalf
  · intro hClosed
    unfold CircuitBreaker.onFailure at hClosed ⊢
    cases hState : w.breaker.state with
    | halfOpen => simp [hState] at hClosed
    | open_ => simp [hState] at hClosed
    | closed =>
        simp only [hInv.streak hState]
        split <;> simp
  · unfold CircuitBreaker.onFailure
    cases w.breaker.state with
    | halfOpen => rfl
    | open_ => rfl
    | closed =>
        dsimp only
        split <;> rfl

--------
-- Steps
--------

variable {T : Type}
variable [Sub T] [LT T] [DecidableLT T]
variable {w : World T}

/- What a step can do. -/
theorem step_cases
    (w : World T)
    (a : Action T) :
    (w.step a = w) ∨
    (∃ now cb, a = .enter now ∧ w.breaker.enter now = .ok cb ∧
      w.step a = w.letIn cb) ∨
    (∃ i call phase, a = .ends i phase ∧
      w.calls[i]? = some call ∧ call.phase = .running ∧
      w.step a = w.setPhase i call phase) ∨
    (∃ i call now, a = .record i now ∧
      w.calls[i]? = some call ∧ call.phase = .returned ∧
      w.step a = (w.setPhase i call .finished).record call true now
        w.breaker.onSuccess) ∨
    (∃ i call now, a = .record i now ∧
      w.calls[i]? = some call ∧ call.phase = .raised ∧
      w.step a = (w.setPhase i call .finished).record call false now
        (w.breaker.onFailure now)) := by
  cases a with
  | enter now =>
      cases hEnter : w.breaker.enter now with
      | error e => exact .inl (by simp [step, hEnter])
      | ok cb =>
          exact .inr (.inl ⟨now, cb, rfl, hEnter, by
            simp [step, hEnter]⟩)
  | ends i phase =>
      cases hCall : w.calls[i]? with
      | none => exact .inl (by simp [step, hCall])
      | some call =>
          by_cases hRunning : call.phase = .running
          · exact .inr (.inr (.inl ⟨i, call, phase, rfl, hCall,
              hRunning, by simp [step, hCall, hRunning]⟩))
          · exact .inl (by simp [step, hCall, hRunning])
  | record i now =>
      cases hCall : w.calls[i]? with
      | none => exact .inl (by simp [step, hCall])
      | some call =>
          cases hPhase : call.phase with
          | running => exact .inl (by simp [step, hCall, hPhase])
          | finished => exact .inl (by simp [step, hCall, hPhase])
          | returned =>
              exact .inr (.inr (.inr (.inl ⟨i, call, now, rfl,
                hCall, hPhase, by simp [step, hCall, hPhase]⟩)))
          | raised =>
              exact .inr (.inr (.inr (.inr ⟨i, call, now, rfl,
                hCall, hPhase, by simp [step, hCall, hPhase]⟩)))

omit [Sub T] [LT T] [DecidableLT T] in
/- A call whose phase was set still counts as one. -/
theorem exists_setPhase
    {i : Nat}
    {call : Call}
    (hCall : w.calls[i]? = some call)
    (phase : Phase) :
    { call with phase := phase } ∈ (w.setPhase i call phase).calls :=
  List.mem_set (List.getElem?_eq_some_iff.mp hCall).1 _

/- Every step keeps the counts. -/
theorem Inv.step
    (hInv : w.Inv)
    (a : Action T) : (w.step a).Inv := by
  rcases step_cases w a with
    hSame | ⟨now, cb, _, hEnter, hStep⟩ |
    ⟨i, call, phase, _, hCall, _, hStep⟩ |
    ⟨i, call, now, _, hCall, _, hStep⟩ |
    ⟨i, call, now, _, hCall, _, hStep⟩
  · rw [hSame]
    exact hInv
  · rw [hStep]
    exact hInv.letIn hEnter
  · rw [hStep]
    exact hInv.setPhase hCall phase
  · rw [hStep]
    exact (hInv.setPhase hCall .finished).success
      (exists_setPhase hCall .finished) now
  · rw [hStep]
    exact (hInv.setPhase hCall .finished).failure
      (exists_setPhase hCall .finished) now

end World

end CircuitBreakers

end TrueNorth

--------
-- When The Contract Is Kept
--------

namespace TrueNorth

namespace CircuitBreakers

/- A call that enters now is started as a probe. -/
def CircuitBreaker.AdmitsProbe
    {T : Type}
    [Sub T] [LT T]
    (cb : CircuitBreaker T)
    (now : T) : Prop :=
  cb.state = .halfOpen ∨ cb.state = .open_ ∧
    ¬ now - cb.lastFailureTime < cb.recoveryTimeout

namespace World

variable {T : Type}
variable [Sub T] [LT T] [DecidableLT T]
variable {w : World T}
variable {i : Nat}
variable {call : Call}

/-
  A probe is admitted while none is running, and the success
  that closes the circuit is the last of as many, all of
  calls started as probes since it last opened.
-/
def Single (w : World T) : Action T → Prop
| .enter now =>
    w.breaker.AdmitsProbe now → w.runningProbes = 0
| .ends _ _ => True
| .record i _ => ∀ call, w.calls[i]? = some call →
    call.phase = .returned → w.breaker.state = .halfOpen →
    w.breaker.successThreshold ≤ w.breaker.successCount + 1 →
    w.breaker.successThreshold = 0 ∨
      (w.strangers = 0 ∧ call.probeOf = some w.openings)

omit [Sub T] [LT T] [DecidableLT T] in
theorem runningProbes_admit
    (w : World T)
    (cb : CircuitBreaker T) :
    (w.letIn cb).runningProbes =
      w.runningProbes + if cb.state = .closed then 0 else 1 := by
  unfold runningProbes letIn
  rw [List.countP_append, List.countP_singleton]
  by_cases hClosed : cb.state = .closed <;> simp [hClosed]

omit [Sub T] [LT T] [DecidableLT T] in
theorem runningProbes_setPhase_le
    {phase : Phase}
    (hCall : w.calls[i]? = some call)
    (hPhase : phase = .running → call.phase = .running) :
    (w.setPhase i call phase).runningProbes ≤ w.runningProbes := by
  rcases List.getElem?_eq_some_iff.mp hCall with ⟨hi, rfl⟩
  unfold runningProbes setPhase
  rw [List.countP_set hi]
  generalize hOld : w.calls[i] = call at hPhase ⊢
  by_cases hRunning : phase = .running
  · have hWas := hPhase hRunning
    by_cases hProbe : call.probeOf.isSome = true
    · have hPos : 0 < w.calls.countP (fun call =>
          call.probeOf.isSome && call.phase = .running) := by
        rw [List.countP_pos_iff]
        exact ⟨call, hOld ▸ List.getElem_mem hi, by
          simp [hProbe, hWas]⟩
      simp only [hRunning, hWas, hProbe]
      simp only [Bool.true_and, decide_true, if_true]
      omega
    · simp [hProbe]
  · simp [hRunning]

/- A step has no more probes running, unless it admits one. -/
theorem runningProbes_step_le
    (a : Action T) :
    (w.step a).runningProbes ≤ w.runningProbes ∨
      ∃ now, a = .enter now ∧ w.breaker.AdmitsProbe now ∧
        (w.step a).breaker.state = .halfOpen ∧
        (w.step a).runningProbes = w.runningProbes + 1 := by
  rcases step_cases w a with
    hSame | ⟨now, cb, rfl, hEnter, hStep⟩ |
    ⟨i, call, phase, _, hCall, hRunning, hStep⟩ |
    ⟨i, call, now, _, hCall, _, hStep⟩ |
    ⟨i, call, now, _, hCall, _, hStep⟩
  · rw [hSame]
    exact .inl (Nat.le_refl _)
  · rw [hStep, runningProbes_admit]
    rcases enter_cases hEnter with
      ⟨hNotOpen, rfl⟩ | ⟨hOpen, hLate, rfl⟩
    · cases hState : w.breaker.state with
      | open_ => exact absurd hState hNotOpen
      | closed => exact .inl (by simp)
      | halfOpen =>
          exact .inr ⟨now, rfl, .inl hState, hState, by simp⟩
    · exact .inr ⟨now, rfl, .inr ⟨hOpen, hLate⟩, rfl, by simp⟩
  · rw [hStep]
    exact .inl (runningProbes_setPhase_le hCall
      (fun _ => hRunning))
  · rw [hStep]
    exact .inl (runningProbes_setPhase_le hCall nofun)
  · rw [hStep]
    exact .inl (runningProbes_setPhase_le hCall nofun)

/- An open circuit starts nothing before its time. -/
theorem shut_step
    (hInv : w.Inv)
    {now t : T}
    (hOpen : w.breaker.state = .open_)
    (hLast : w.lastFailure = some t)
    (hEarly : now - t < w.breaker.recoveryTimeout) :
    (w.step (.enter now)).calls = w.calls := by
  have hTime := hInv.lastTime t hLast
  have hRefused : ∃ e, w.breaker.enter now = .error e := by
    unfold CircuitBreaker.enter
    rw [hOpen]
    simp only [hTime, hEarly, if_true]
    exact ⟨_, rfl⟩
  rcases hRefused with ⟨e, hError⟩
  simp [step, hError]

/- A closed circuit opens after the failures it takes. -/
theorem opens_step
    (hInv : w.Inv)
    {a : Action T}
    (hClosed : w.breaker.state = .closed)
    (hOpens : (w.step a).breaker.state = .open_) :
    w.breaker.failureThreshold ≤ (w.step a).failuresInARow := by
  rcases step_cases w a with
    hSame | ⟨now, cb, rfl, hEnter, hStep⟩ |
    ⟨i, call, phase, _, hCall, _, hStep⟩ |
    ⟨i, call, now, _, hCall, _, hStep⟩ |
    ⟨i, call, now, _, hCall, _, hStep⟩
  · rw [hSame, hClosed] at hOpens
    cases hOpens
  · rw [hStep] at hOpens
    rcases enter_cases hEnter with ⟨hNotOpen, rfl⟩ | ⟨hOpen, _⟩
    · exact absurd hOpens hNotOpen
    · rw [hClosed] at hOpen
      cases hOpen
  · rw [hStep] at hOpens
    rw [show (w.setPhase i call phase).breaker.state =
      w.breaker.state from rfl, hClosed] at hOpens
    cases hOpens
  · rw [hStep] at hOpens
    simp [World.record, CircuitBreaker.onSuccess, hClosed]
      at hOpens
  · have hCount := hInv.streak hClosed
    rw [hStep] at hOpens ⊢
    have hReached : w.breaker.failureThreshold ≤
        w.breaker.failureCount + 1 := by
      by_contra hNot
      simp [World.record, CircuitBreaker.onFailure, hClosed,
        hNot] at hOpens
    rw [hCount] at hReached
    simpa [failuresInARow, World.record, setPhase]
      using hReached

omit [Sub T] [LT T] [DecidableLT T] in
/- What one success adds to those of the probes. -/
theorem probeSuccesses_record
    (hHalf : w.breaker.state = .halfOpen)
    (now : T) :
    ((w.setPhase i call .finished).record call true now
        w.breaker.onSuccess).probeSuccesses =
      w.probeSuccesses +
        if call.probeOf = some w.openings then 1 else 0 := by
  have hState : w.breaker.onSuccess.state ≠ .open_ := by
    unfold CircuitBreaker.onSuccess
    rw [hHalf]
    dsimp only
    split <;> simp
  unfold probeSuccesses World.record setPhase
  simp only [hState, and_false, if_false, List.countP_cons]
  simp

omit [Sub T] [LT T] [DecidableLT T] in
theorem onSuccess_closed_iff
    (hHalf : w.breaker.state = .halfOpen) :
    w.breaker.onSuccess.state = .closed ↔
      w.breaker.successThreshold ≤
        w.breaker.successCount + 1 := by
  unfold CircuitBreaker.onSuccess
  rw [hHalf]
  by_cases hCloses : w.breaker.successThreshold ≤
      w.breaker.successCount + 1 <;>
    simp [hCloses]

/- A circuit closes on its probes' successes, or breaks this. -/
theorem closes_iff
    (hInv : w.Inv)
    {now : T}
    (hCall : w.calls[i]? = some call)
    (hReturned : call.phase = .returned)
    (hHalf : w.breaker.state = .halfOpen)
    (hCloses : w.breaker.successThreshold ≤
      w.breaker.successCount + 1) :
    w.breaker.successThreshold ≤
        (w.step (.record i now)).probeSuccesses ↔
      w.breaker.successThreshold = 0 ∨
        (w.strangers = 0 ∧ call.probeOf = some w.openings) := by
  have hStep : w.step (.record i now) =
      (w.setPhase i call .finished).record call true now
        w.breaker.onSuccess := by
    simp [step, hCall, hReturned]
  have hCounted := hInv.counted_eq hHalf
  have hBelow := hInv.below hHalf
  rw [hStep, probeSuccesses_record hHalf]
  by_cases hProbe : call.probeOf = some w.openings
  · simp only [hProbe, if_true, and_true]
    omega
  · simp only [hProbe, if_false, and_false, or_false]
    omega

/- A probe that is admitted is one more that runs. -/
theorem step_of_admitsProbe
    {now : T}
    (hAdmits : w.breaker.AdmitsProbe now) :
    (w.step (.enter now)).breaker.state = .halfOpen ∧
      (w.step (.enter now)).runningProbes =
        w.runningProbes + 1 := by
  have hEnter : ∃ cb, w.breaker.enter now = .ok cb ∧
      cb.state = .halfOpen := by
    unfold CircuitBreaker.enter
    rcases hAdmits with hHalf | ⟨hOpen, hLate⟩
    · rw [hHalf]
      exact ⟨_, rfl, hHalf⟩
    · rw [hOpen]
      simp only [hLate, if_false]
      exact ⟨_, rfl, rfl⟩
  rcases hEnter with ⟨cb, hEnter, hHalf⟩
  have hStep : w.step (.enter now) = w.letIn cb := by
    simp [step, hEnter]
  rw [hStep, runningProbes_admit, hHalf]
  exact ⟨hHalf, rfl⟩

/- A step that closes the circuit records a success. -/
theorem exists_of_closes
    {a : Action T}
    (hHalf : w.breaker.state = .halfOpen)
    (hClosed : (w.step a).breaker.state = .closed) :
    ∃ i call now, a = .record i now ∧
      w.calls[i]? = some call ∧ call.phase = .returned ∧
      w.breaker.successThreshold ≤ w.breaker.successCount + 1 := by
  rcases step_cases w a with
    hSame | ⟨now, cb, rfl, hEnter, hStep⟩ |
    ⟨i, call, phase, _, hCall, _, hStep⟩ |
    ⟨i, call, now, rfl, hCall, hReturned, hStep⟩ |
    ⟨i, call, now, _, hCall, _, hStep⟩
  · rw [hSame, hHalf] at hClosed
    cases hClosed
  · rw [hStep] at hClosed
    rcases enter_cases hEnter with ⟨_, rfl⟩ | ⟨_, _, rfl⟩
    · rw [show (w.letIn w.breaker).breaker.state =
        w.breaker.state from rfl, hHalf] at hClosed
      cases hClosed
    · cases hClosed
  · rw [hStep] at hClosed
    rw [show (w.setPhase i call phase).breaker.state =
      w.breaker.state from rfl, hHalf] at hClosed
    cases hClosed
  · rw [hStep] at hClosed
    exact ⟨i, call, now, rfl, hCall, hReturned,
      (onSuccess_closed_iff hHalf).mp hClosed⟩
  · rw [hStep] at hClosed
    simp [World.record, CircuitBreaker.onFailure, hHalf]
      at hClosed

/- A step keeps the contract if and only if it is single. -/
theorem kept_iff_single
    (hInv : w.Inv)
    (hOne : w.runningProbes ≤ 1)
    (a : Action T) :
    w.Kept a ↔ w.Single a := by
  constructor
  · intro hKept
    cases a with
    | enter now =>
        intro hAdmits
        rcases step_of_admitsProbe hAdmits with ⟨hHalf, hMore⟩
        have hAtMost := hKept.oneProbe (by
          rw [hHalf]
          decide)
        omega
    | ends i phase => exact trivial
    | record i now =>
        intro call hCall hReturned hHalf hCloses
        apply (closes_iff hInv hCall hReturned hHalf hCloses).mp
        apply hKept.closes hHalf
        have hStep : w.step (.record i now) =
            (w.setPhase i call .finished).record call true now
              w.breaker.onSuccess := by
          simp [step, hCall, hReturned]
        rw [hStep]
        exact (onSuccess_closed_iff hHalf).mpr hCloses
  · intro hSingle
    constructor
    · rintro now t rfl hOpen hLast hEarly
      exact shut_step hInv hOpen hLast hEarly
    · intro _
      rcases runningProbes_step_le (w := w) a with
        hLe | ⟨now, rfl, hAdmits, _, hMore⟩
      · omega
      · have hNone := hSingle hAdmits
        omega
    · intro hHalf hClosed
      rcases exists_of_closes hHalf hClosed with
        ⟨i, call, now, rfl, hCall, hReturned, hCloses⟩
      exact (closes_iff hInv hCall hReturned hHalf hCloses).mpr
        (hSingle call hCall hReturned hHalf hCloses)
    · intro hClosed hOpens
      exact opens_step hInv hClosed hOpens

/- A single step keeps its probes to one. -/
theorem runningProbes_step
    {a : Action T}
    (hOne : w.runningProbes ≤ 1)
    (hSingle : w.Single a) :
    (w.step a).runningProbes ≤ 1 := by
  rcases runningProbes_step_le (w := w) a with
    hLe | ⟨now, rfl, hAdmits, _, hMore⟩
  · omega
  · have hNone := hSingle hAdmits
    omega

theorem meets_kept_iff_of_inv
    (hInv : w.Inv)
    (hOne : w.runningProbes ≤ 1)
    (actions : List (Action T)) :
    Runs.Meets step Kept w actions ↔
      Runs.Meets step Single w actions := by
  induction actions generalizing w with
  | nil => exact Iff.rfl
  | cons a actions ih =>
      have hStep := kept_iff_single hInv hOne a
      constructor
      · rintro ⟨hKept, hRest⟩
        have hSingle := hStep.mp hKept
        exact ⟨hSingle, (ih (hInv.step a)
          (runningProbes_step hOne hSingle)).mp hRest⟩
      · rintro ⟨hSingle, hRest⟩
        exact ⟨hStep.mpr hSingle, (ih (hInv.step a)
          (runningProbes_step hOne hSingle)).mpr hRest⟩

end World

/-
  A run of a new breaker keeps the contract if and only if
  each of its steps is single.
-/
theorem meets_kept_iff
    {T : Type}
    [Zero T] [Sub T] [LT T] [DecidableLT T]
    (name : String)
    (failureThreshold : Nat)
    (recoveryTimeout : T)
    (successThreshold : Nat)
    (actions : List (Action T)) :
    Runs.Meets World.step World.Kept
        (World.start (CircuitBreaker.new name failureThreshold
          recoveryTimeout successThreshold)) actions ↔
      Runs.Meets World.step World.Single
        (World.start (CircuitBreaker.new name failureThreshold
          recoveryTimeout successThreshold)) actions :=
  World.meets_kept_iff_of_inv (World.Inv.start name
    failureThreshold recoveryTimeout successThreshold)
    (Nat.zero_le 1) actions

namespace World

variable {T : Type}
variable [Sub T] [LT T] [DecidableLT T]
variable {w : World T}

/- A half-open circuit closes after the successes it takes. -/
theorem closes_step
    (hInv : w.Inv)
    {a : Action T}
    (hHalf : w.breaker.state = .halfOpen)
    (hClosed : (w.step a).breaker.state = .closed) :
    w.breaker.successThreshold ≤ (w.step a).counted := by
  rcases exists_of_closes hHalf hClosed with
    ⟨i, call, now, rfl, hCall, hReturned, hCloses⟩
  have hStep : w.step (.record i now) =
      (w.setPhase i call .finished).record call true now
        w.breaker.onSuccess := by
    simp [step, hCall, hReturned]
  rw [hStep] at hClosed ⊢
  replace hClosed : w.breaker.onSuccess.state = .closed := hClosed
  rw [hInv.countedHalf hHalf] at hCloses
  unfold counted World.record setPhase at *
  simp only [hClosed, reduceCtorEq, and_false, if_false,
    List.countP_cons]
  simpa [hHalf] using hCloses

/- An open circuit half-opens before it closes. -/
theorem open_step
    {a : Action T}
    (hOpen : w.breaker.state = .open_) :
    (w.step a).breaker.state ≠ .closed := by
  rcases step_cases w a with
    hSame | ⟨now, cb, _, hEnter, hStep⟩ |
    ⟨i, call, phase, _, _, _, hStep⟩ |
    ⟨i, call, now, _, _, _, hStep⟩ |
    ⟨i, call, now, _, _, _, hStep⟩
  · simp [hSame, hOpen]
  · rcases enter_cases hEnter with ⟨hNot, _⟩ | ⟨_, _, rfl⟩
    · exact absurd hOpen hNot
    · simp [hStep, letIn]
  · simp [hStep, setPhase, hOpen]
  · simp [hStep, World.record, CircuitBreaker.onSuccess, hOpen]
  · simp [hStep, World.record, CircuitBreaker.onFailure, hOpen]

end World

/-
  Whatever calls overlap, in every run of a new breaker: an
  open circuit starts nothing before its time, and closes
  only by way of half-open; it opens on as many failures in a
  row as it takes, and closes on as many successes, recorded
  while half-open since it last opened.
-/
theorem run_counts
    {T : Type}
    [Zero T] [Sub T] [LT T] [DecidableLT T]
    (name : String)
    (failureThreshold : Nat)
    (recoveryTimeout : T)
    (successThreshold : Nat)
    (actions : List (Action T))
    (a : Action T) :
    let w := Runs.run World.step
      (World.start (CircuitBreaker.new name failureThreshold
        recoveryTimeout successThreshold)) actions
    (w.breaker.state = .open_ →
      (w.step a).breaker.state ≠ .closed ∧
      ∀ now t, a = .enter now → w.lastFailure = some t →
        now - t < w.breaker.recoveryTimeout →
        (w.step a).calls = w.calls) ∧
    (w.breaker.state = .closed →
      (w.step a).breaker.state = .open_ →
      w.breaker.failureThreshold ≤
        (w.step a).failuresInARow) ∧
    (w.breaker.state = .halfOpen →
      (w.step a).breaker.state = .closed →
      w.breaker.successThreshold ≤ (w.step a).counted) := by
  intro w
  have hInv : w.Inv :=
    Runs.run_invariant World.Inv
      (fun w a hInv => World.Inv.step hInv a)
      (World.Inv.start name failureThreshold recoveryTimeout
        successThreshold) actions
  refine ⟨?_, World.opens_step hInv, World.closes_step hInv⟩
  intro hOpen
  refine ⟨World.open_step hOpen, ?_⟩
  rintro now t rfl hLast hEarly
  exact World.shut_step hInv hOpen hLast hEarly

/- Of two calls after the timeout both are admitted. -/
theorem two_probes_admitted :
    ¬ Runs.Meets World.step World.Kept
      (World.start (CircuitBreaker.new "proxmox" 3 (60 : Int) 2))
      [.enter 0, .ends 0 .raised, .record 0 0,
       .enter 1, .ends 1 .raised, .record 1 1,
       .enter 2, .ends 2 .raised, .record 2 2,
       .enter 62, .enter 62] := by
  intro hMeets
  rcases hMeets with
    ⟨_, _, _, _, _, _, _, _, _, _, hKept, _⟩
  exact absurd (hKept.oneProbe (by decide)) (by decide)

end CircuitBreakers

end TrueNorth
