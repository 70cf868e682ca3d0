import TrueNorth.Fencing.Execution

/-
  What one step can do to the lease row, to the execution
  that takes it and to the history.

  Main declarations:
    * `Truthful`
    * `Truthful.observe`
    * `RowChange`
    * `TaskEffect`
    * `World.taskStep_effect`
    * `World.step_move`
    * `World.step_task`
-/

--------
-- What an Execution Knows
--------

namespace TrueNorth

namespace Fencing

/-
  What an execution has concluded, or is about to conclude
  from what its threads have read, is true: it takes itself
  for fenced out only when the row is not its lease.
-/
structure Truthful
    (row : Option LeaseRow)
    (e : Execution) : Prop where
  flags :
    e.abandoned = true ∨ e.lost = true →
      ¬Holds e.token row
  sight :
    ∀ seen, e.sight = some seen →
      seen ≠ some e.holder → ¬Holds e.token row
  beat :
    ∀ seen, e.beat = .classifying seen →
      seen ≠ some e.holder → ¬Holds e.token row

/- Being fenced out is for good, so the conclusions stand. -/
theorem Truthful.mono
    {row row' : Option LeaseRow}
    {e : Execution}
    (hTruthful : Truthful row e)
    (hRow : ¬Holds e.token row → ¬Holds e.token row') :
    Truthful row' e :=
  ⟨fun hFlags => hRow (hTruthful.flags hFlags),
    fun seen hSight hSeen =>
      hRow (hTruthful.sight seen hSight hSeen),
    fun seen hBeat hSeen =>
      hRow (hTruthful.beat seen hBeat hSeen)⟩

/- What the row says now is what an execution may conclude. -/
theorem not_holds_of_seen
    {row : Option LeaseRow}
    {e : Execution}
    (hSeen : leaseHolder row ≠ some e.holder) :
    ¬Holds e.token row := by
  intro hHolds
  exact hSeen (holds_iff.mp hHolds)

namespace Execution

theorem observe_held
    {e e' : Execution}
    {seen : Option Holder}
    (hObserve : e.observe seen = (e', .held)) :
    seen = some e.holder ∧ e' = e := by
  unfold observe at hObserve
  split at hObserve
  · next hSeen =>
      cases hObserve
      exact ⟨hSeen.1, rfl⟩
  · split at hObserve <;> cases hObserve

theorem observe_abandoned
    {e e' : Execution}
    {seen : Option Holder}
    (hObserve : e.observe seen = (e', .abandoned)) :
    seen = some (tombstone e.holder) ∧
      e' =
        { e with
          current := tombstone e.holder
          abandoned := true } := by
  unfold observe at hObserve
  split at hObserve
  · cases hObserve
  · split at hObserve
    · next hSeen =>
        cases hObserve
        exact ⟨hSeen, rfl⟩
    · cases hObserve

theorem observe_lost
    {e e' : Execution}
    {seen : Option Holder}
    (hObserve : e.observe seen = (e', .lost)) :
    (seen = some e.holder → e.abandoned = true) ∧
      e' = { e with lost := true } := by
  unfold observe at hObserve
  split at hObserve
  · cases hObserve
  · next hNot =>
      split at hObserve
      · cases hObserve
      · cases hObserve
        refine ⟨?_, rfl⟩
        intro hSeen
        by_contra hAbandoned
        exact hNot ⟨hSeen, by simpa using hAbandoned⟩

/- Only the flags and `current` change. -/
theorem observe_unchanged
    (e : Execution)
    (seen : Option Holder) :
    (e.observe seen).1.token = e.token ∧
      (e.observe seen).1.place = e.place ∧
      (e.observe seen).1.beat = e.beat ∧
      (e.observe seen).1.sight = e.sight := by
  unfold observe
  split
  · simp
  · split <;> simp

end Execution

theorem tombstone_ne
    (holder : Holder) :
    tombstone holder ≠ holder := by
  induction holder with
  | plain token => intro hEq; cases hEq
  | abandoned holder ih =>
      intro hEq
      exact ih (by simpa [tombstone] using hEq)

theorem Truthful.observe
    {row : Option LeaseRow}
    {e : Execution}
    {seen : Option Holder}
    (hTruthful : Truthful row e)
    (hSeen : seen ≠ some e.holder → ¬Holds e.token row) :
    Truthful row (e.observe seen).1 := by
  cases hObserve : e.observe seen with
  | mk e' status =>
      cases status with
      | held =>
          rcases Execution.observe_held hObserve with ⟨_, rfl⟩
          exact hTruthful
      | abandoned =>
          rcases Execution.observe_abandoned hObserve with
            ⟨hTombstone, rfl⟩
          have hNot : ¬Holds e.token row := by
            apply hSeen
            rw [hTombstone]
            intro hEq
            exact tombstone_ne _ (Option.some.inj hEq)
          exact ⟨fun _ => hNot, hTruthful.sight,
            hTruthful.beat⟩
      | lost =>
          rcases Execution.observe_lost hObserve with
            ⟨hLost, rfl⟩
          have hNot : ¬Holds e.token row := by
            by_cases hOwn : seen = some e.holder
            · exact hTruthful.flags (.inl (hLost hOwn))
            · exact hSeen hOwn
          exact ⟨fun _ => hNot, hTruthful.sight,
            hTruthful.beat⟩

--------
-- Effects of an Execution's Step
--------

variable {leaseSeconds : Nat}

/- What an execution's statement does to the row. -/
inductive RowChange
    (w : World)
    (e : Execution) : Option LeaseRow → Prop where
| same : RowChange w e w.row
| extended
    (holder : Holder)
    (time seconds : Nat) :
    RowChange w e (extendLease w.row holder time seconds).1
| released
    (hPlace : e.place = .releasing) :
    RowChange w e (releaseLease w.row e.holder)

/- What an execution keeps of itself in every step. -/
structure Continues
    (row : Option LeaseRow)
    (e e' : Execution) : Prop where
  token : e'.token = e.token
  ended : e.place = .ended → e'.place = .ended
  truthful : Truthful row e → Truthful row e'

/-
  The effects of an execution's step: it goes on, keeps the
  lease, writes to the range, or takes or ends a reservation
  under the range's row lock.
-/
inductive TaskEffect
    (w : World)
    (i : Nat)
    (e : Execution)
    (step : TaskStep) : World → Prop where
| idle : TaskEffect w i e step w
| goesOn
    (e' : Execution)
    (row : Option LeaseRow)
    (hContinues : Continues w.row e e')
    (hRow : RowChange w e row) :
    TaskEffect w i e step ({ w with row := row }.put i e')
| unlocks
    (e' : Execution)
    (hContinues : Continues w.row e e') :
    TaskEffect w i e step ((w.put i e').unlock i)
| rollsBack : TaskEffect w i e step (w.unlock i)
| keeps
    (holder : Holder)
    (time : Nat)
    (hStep : step = .keep time)
    (hPlace : e.place = .extending holder)
    (hTime : time ≤ w.now) :
    TaskEffect w i e step
      ({ w with
          row :=
            (extendLease w.row holder time
              keptLeaseSeconds).1
          kept :=
            if (leaseHolder w.row).map Holder.owner =
                some e.token then
              ⟨e.token, time⟩ :: w.kept
            else
              w.kept }.put i { e with place := .ended })
| writes
    (hPlace : e.place = .running)
    (hSeen : leaseHolder w.row = some e.holder) :
    TaskEffect w i e step
      { w with
        writes :=
          w.writes ++
            [{ task := i
               guarded := true
               seen := leaseHolder w.row
               atCommit := leaseHolder w.row }] }
| locks
    (hFree : w.locked = none)
    (hSeen : leaseHolder w.row = some e.holder) :
    TaskEffect w i e step
      { w with locked := some (i, leaseHolder w.row) }
| commits
    (seen : Option Holder)
    (hLocked : w.locked = some (i, seen)) :
    TaskEffect w i e step
      { w with
        locked := none
        writes :=
          w.writes ++
            [{ task := i
               guarded := false
               seen := seen
               atCommit := leaseHolder w.row }] }

/- A step that changes the execution alone. -/
private theorem TaskEffect.only
    {w : World}
    {i : Nat}
    {e e' : Execution}
    {step : TaskStep}
    (hContinues : Continues w.row e e') :
    TaskEffect w i e step (w.put i e') :=
  .goesOn e' w.row hContinues .same

/- Changing neither flags nor sights concludes nothing. -/
private theorem Continues.of_place
    {row : Option LeaseRow}
    {e : Execution}
    (place : Place)
    (hEnded : e.place = .ended → place = .ended)
    (stopped : Bool) :
    Continues row e
      { e with place := place, stopped := stopped } :=
  ⟨rfl, hEnded, fun h => ⟨h.flags, h.sight, h.beat⟩⟩

/- The heartbeat thread moves on to something it has not read. -/
private theorem Continues.of_beat
    {row : Option LeaseRow}
    {e : Execution}
    (beat : Beat)
    (hBeat :
      ∀ seen, beat = .classifying seen →
        seen ≠ some e.holder → ¬Holds e.token row) :
    Continues row e { e with beat := beat } :=
  ⟨rfl, fun hEnded => hEnded,
    fun h => ⟨h.flags, h.sight, hBeat⟩⟩

namespace World

theorem beatStep_effect
    (w : World)
    (i : Nat)
    (e : Execution)
    (step : TaskStep) :
    TaskEffect w i e step (beatStep leaseSeconds w i e step) := by
  cases step with
  | wake =>
      simp only [beatStep]
      split
      · refine .only (Continues.of_beat _ ?_)
        intro seen hBeat
        split at hBeat <;> cases hBeat
      · exact .idle
  | renew time =>
      cases hBeat : e.beat with
      | renewing holder =>
          simp only [beatStep, hBeat]
          split
          · split
            · next row hExtend =>
                have hRow :
                    row =
                      (extendLease w.row holder time
                        leaseSeconds).1 := by
                  rw [hExtend]
                rw [hRow]
                refine .goesOn _ _ (Continues.of_beat _ ?_)
                  (.extended holder time leaseSeconds)
                intro seen hBeat'
                cases hBeat'
            · refine .only (Continues.of_beat _ ?_)
              intro seen hBeat'
              cases hBeat'
          · exact .idle
      | _ => simpa only [beatStep, hBeat] using .idle
  | read =>
      simp only [beatStep]
      split
      · refine .only (Continues.of_beat _ ?_)
        intro seen hBeat hSeen
        cases hBeat
        exact not_holds_of_seen hSeen
      · exact .idle
  | classify =>
      cases hBeat : e.beat with
      | classifying seen =>
          have hKeep := e.observe_unchanged seen
          have hTruthful :
              Truthful w.row e →
                Truthful w.row (e.observe seen).1 :=
            fun h => h.observe (h.beat seen hBeat)
          have hGo :
              ∀ beat : Beat,
                (∀ s, beat ≠ .classifying s) →
                Continues w.row e
                  { (e.observe seen).1 with beat := beat } := by
            intro beat hOther
            refine ⟨hKeep.1, ?_, ?_⟩
            · intro hEnded
              exact hKeep.2.1.trans hEnded
            · intro h
              refine ⟨(hTruthful h).flags,
                (hTruthful h).sight, ?_⟩
              intro s hBeat'
              exact absurd hBeat' (hOther s)
          simp only [beatStep, hBeat]
          cases hObserve : e.observe seen with
          | mk e' status =>
              rw [hObserve] at hGo
              cases status with
              | abandoned =>
                  refine .only (hGo _ ?_)
                  intro s hEq
                  cases hEq
              | held =>
                  refine .only (hGo _ ?_)
                  intro s hEq
                  split at hEq <;> cases hEq
              | lost =>
                  refine .only (hGo _ ?_)
                  intro s hEq
                  split at hEq <;> cases hEq
      | _ => simpa only [beatStep, hBeat] using .idle
  | renewAgain time =>
      cases hBeat : e.beat with
      | renewingAgain holder =>
          simp only [beatStep, hBeat]
          split
          · refine .goesOn _ _ (Continues.of_beat _ ?_)
              (.extended holder time leaseSeconds)
            intro seen hBeat'
            split at hBeat' <;> cases hBeat'
          · exact .idle
      | _ => simpa only [beatStep, hBeat] using .idle
  | blip =>
      simp only [beatStep]
      cases hBeat : e.beat with
      | renewing holder =>
          refine .only (Continues.of_beat _ ?_)
          intro seen hBeat'
          cases hBeat'
      | reading =>
          refine .only (Continues.of_beat _ ?_)
          intro seen hBeat'
          cases hBeat'
      | renewingAgain holder =>
          refine .only (Continues.of_beat _ ?_)
          intro seen hBeat'
          cases hBeat'
      | _ => exact .idle
  | _ => exact .idle

theorem bodyStep_effect
    (w : World)
    (i : Nat)
    (e : Execution)
    (step : TaskStep) :
    TaskEffect w i e step (bodyStep w i e step) := by
  -- observing the row as it is now
  have hNow :
      Continues w.row e
        (e.observe (leaseHolder w.row)).1 := by
    have hKeep := e.observe_unchanged (leaseHolder w.row)
    refine ⟨hKeep.1, ?_, ?_⟩
    · intro hEnded
      exact hKeep.2.1.trans hEnded
    · intro h
      exact h.observe not_holds_of_seen
  cases step with
  | look =>
      simp only [bodyStep]
      split
      · refine .only
          ⟨rfl, fun hEnded => hEnded, fun h =>
            ⟨h.flags, ?_, h.beat⟩⟩
        intro seen hSight hSeen
        cases hSight
        exact not_holds_of_seen hSeen
      · exact .idle
  | observe =>
      simp only [bodyStep]
      split
      · next seen hSight =>
          have hKeep := e.observe_unchanged seen
          refine .only ⟨hKeep.1, ?_, ?_⟩
          · intro hEnded
            exact hKeep.2.1.trans hEnded
          · intro h
            have hAfter :=
              h.observe (h.sight seen hSight)
            refine ⟨hAfter.flags, ?_, hAfter.beat⟩
            intro s hNone
            cases hNone
      · exact .idle
  | guardedRangeUpdate =>
      simp only [bodyStep]
      split
      · next hPlace =>
          cases hObserve : e.observe (leaseHolder w.row) with
          | mk e' status =>
              rw [hObserve] at hNow
              cases status with
              | held =>
                  exact .writes hPlace.1
                    (Execution.observe_held hObserve).1
              | abandoned => exact .only hNow
              | lost => exact .only hNow
      · exact .idle
  | reserve =>
      simp only [bodyStep]
      split
      · next hPlace =>
          cases hObserve : e.observe (leaseHolder w.row) with
          | mk e' status =>
              rw [hObserve] at hNow
              cases status with
              | held =>
                  exact .locks hPlace.2
                    (Execution.observe_held hObserve).1
              | abandoned => exact .only hNow
              | lost => exact .only hNow
      · exact .idle
  | commit =>
      simp only [bodyStep]
      split
      · next j seen hLocked =>
          split
          · next hMine =>
              exact .commits seen (hMine ▸ hLocked)
          · exact .idle
      · exact .idle
  | rollback => exact .rollsBack
  | _ => exact .idle

theorem wrapperStep_effect
    (w : World)
    (i : Nat)
    (e : Execution)
    (step : TaskStep) :
    TaskEffect w i e step (wrapperStep w i e step) := by
  cases step with
  | checked isInState =>
      simp only [wrapperStep]
      split
      · next hPlace =>
          split
          · refine .only ⟨rfl, ?_, ?_⟩
            · intro hEnded
              rw [hPlace] at hEnded
              cases hEnded
            · intro h
              refine ⟨h.flags, h.sight, ?_⟩
              intro seen hBeat
              cases hBeat
          · refine .only (Continues.of_place _ ?_ e.stopped)
            intro hEnded
            rw [hPlace] at hEnded
            cases hEnded
      · refine .only (Continues.of_place _ ?_ e.stopped)
        intro hEnded
        rfl
      · exact .idle
  | softTimeLimit =>
      simp only [wrapperStep]
      split
      · next hPlace =>
          refine .unlocks _ ⟨rfl, ?_, ?_⟩
          · intro hEnded
            rw [hPlace] at hEnded
            cases hEnded
          · intro h
            refine ⟨h.flags, ?_, h.beat⟩
            intro seen hSight
            cases hSight
      · exact .idle
  | takeCurrent =>
      simp only [wrapperStep]
      split
      · next hPlace =>
          refine .only (Continues.of_place _ ?_ e.stopped)
          intro hEnded
          rw [hPlace] at hEnded
          cases hEnded
      · exact .idle
  | keep time =>
      cases hPlace : e.place with
      | extending holder =>
          simp only [wrapperStep, hPlace]
          split
          · next hTime => exact .keeps holder time rfl hPlace hTime
          · exact .idle
      | _ => simpa only [wrapperStep, hPlace] using .idle
  | keepFailed =>
      simp only [wrapperStep]
      split
      · exact .only
          (Continues.of_place _ (fun _ => rfl) e.stopped)
      · exact .idle
  | finish =>
      simp only [wrapperStep]
      split
      · next hPlace =>
          refine .unlocks _ (Continues.of_place _ ?_ true)
          intro hEnded
          rw [hPlace] at hEnded
          cases hEnded
      · exact .idle
  | release =>
      simp only [wrapperStep]
      split
      · next hPlace =>
          exact .goesOn _ _
            (Continues.of_place _ (fun _ => rfl) e.stopped)
            (.released hPlace)
      · exact .idle
  | releaseFailed =>
      simp only [wrapperStep]
      split
      · exact .only
          (Continues.of_place _ (fun _ => rfl) e.stopped)
      · exact .idle
  | die =>
      simp only [wrapperStep]
      refine .unlocks _ ⟨rfl, fun _ => rfl, ?_⟩
      intro h
      refine ⟨h.flags, ?_, ?_⟩
      · intro seen hSight
        cases hSight
      · intro seen hBeat
        cases hBeat
  | _ => exact .idle

theorem taskStep_effect
    (leaseSeconds : Nat)
    (w : World)
    (i : Nat)
    (e : Execution)
    (step : TaskStep) :
    TaskEffect w i e step (w.taskStep leaseSeconds i e step) := by
  unfold taskStep
  split <;>
    first
    | exact beatStep_effect w i e _
    | exact bodyStep_effect w i e _
    | exact wrapperStep_effect w i e _

end World

end Fencing

end TrueNorth

--------
-- Effects of Any Step
--------

namespace TrueNorth

namespace Fencing

open Leases

variable {leaseSeconds : Nat}

namespace World

@[simp] theorem put_row
    (w : World)
    (i : Nat)
    (e : Execution) :
    (w.put i e).row = w.row := rfl

@[simp] theorem put_tasks
    (w : World)
    (i : Nat)
    (e : Execution) :
    (w.put i e).tasks = w.tasks.set i e := rfl

@[simp] theorem unlock_row
    (w : World)
    (i : Nat) :
    (w.unlock i).row = w.row := by
  unfold unlock
  split <;> rfl

@[simp] theorem unlock_tasks
    (w : World)
    (i : Nat) :
    (w.unlock i).tasks = w.tasks := by
  unfold unlock
  split <;> rfl

@[simp] theorem unlock_writes
    (w : World)
    (i : Nat) :
    (w.unlock i).writes = w.writes := by
  unfold unlock
  split <;> rfl

@[simp] theorem unlock_kept
    (w : World)
    (i : Nat) :
    (w.unlock i).kept = w.kept := by
  unfold unlock
  split <;> rfl

@[simp] theorem unlock_forced
    (w : World)
    (i : Nat) :
    (w.unlock i).forced = w.forced := by
  unfold unlock
  split <;> rfl

@[simp] theorem unlock_now
    (w : World)
    (i : Nat) :
    (w.unlock i).now = w.now := by
  unfold unlock
  split <;> rfl

theorem unlock_locked
    {w : World}
    {i : Nat}
    {lock : Nat × Option Holder}
    (hLocked : (w.unlock i).locked = some lock) :
    w.locked = some lock := by
  unfold unlock at hLocked
  split at hLocked
  · cases hLocked
  · exact hLocked

end World

theorem RowChange.move
    {w : World}
    {e : Execution}
    {row : Option LeaseRow}
    {fresh : Token → Prop}
    (hRow : RowChange w e row) :
    Move w.now fresh (rowOf w.row) (rowOf row) := by
  cases hRow with
  | same => exact .same _
  | extended holder time seconds =>
      exact extendLease_move w.row holder seconds
  | released => exact releaseLease_move w.row e.holder

theorem leaseHolder_extendLease
    (row : Option LeaseRow)
    (holder : Holder)
    (time seconds : Nat) :
    leaseHolder (extendLease row holder time seconds).1 =
      leaseHolder row := by
  unfold extendLease
  cases row with
  | none => rfl
  | some r =>
      simp only
      split <;> rfl

/- An execution's statement renames no lease. -/
theorem RowChange.holder
    {w : World}
    {e : Execution}
    {row : Option LeaseRow}
    (hRow : RowChange w e row) :
    leaseHolder row = leaseHolder w.row ∨
      leaseHolder row = none := by
  cases hRow with
  | same => exact .inl rfl
  | extended holder time seconds =>
      exact .inl (leaseHolder_extendLease _ _ _ _)
  | released =>
      unfold releaseLease
      cases w.row with
      | none => exact .inl rfl
      | some r =>
          simp only
          split
          · exact .inr rfl
          · exact .inl rfl

namespace TaskEffect

variable {w w' : World}
variable {i : Nat}
variable {e : Execution}
variable {step : TaskStep}

theorem move
    {fresh : Token → Prop}
    (hEffect : TaskEffect w i e step w') :
    Move w.now fresh (rowOf w.row) (rowOf w'.row) := by
  cases hEffect with
  | idle => exact .same _
  | goesOn e' row hContinues hRow => exact hRow.move
  | unlocks e' hContinues => simpa using .same _
  | rollsBack => simpa using .same _
  | keeps holder time hStep hPlace hTime =>
      exact extendLease_move w.row holder keptLeaseSeconds
  | writes => exact .same _
  | locks => exact .same _
  | commits => exact .same _

/- Only the execution that takes the step changes. -/
theorem tasks
    (hEffect : TaskEffect w i e step w') :
    w'.tasks = w.tasks ∨
      ∃ e', w'.tasks = w.tasks.set i e' ∧
        Continues w.row e e' := by
  cases hEffect with
  | idle => exact .inl rfl
  | goesOn e' row hContinues hRow =>
      exact .inr ⟨e', rfl, hContinues⟩
  | unlocks e' hContinues =>
      exact .inr ⟨e', by simp, hContinues⟩
  | rollsBack => simp
  | keeps holder time hStep hPlace hTime =>
      refine .inr ⟨_, rfl, rfl, fun _ => rfl, ?_⟩
      exact fun h => ⟨h.flags, h.sight, h.beat⟩
  | writes => exact .inl rfl
  | locks => exact .inl rfl
  | commits => exact .inl rfl

theorem now
    (hEffect : TaskEffect w i e step w') :
    w'.now = w.now := by
  cases hEffect <;> simp [World.put]

theorem holder
    (hEffect : TaskEffect w i e step w') :
    leaseHolder w'.row = leaseHolder w.row ∨
      leaseHolder w'.row = none := by
  cases hEffect with
  | idle => exact .inl rfl
  | goesOn e' row hContinues hRow => exact hRow.holder
  | unlocks e' hContinues => simp
  | rollsBack => simp
  | keeps holder time hStep hPlace hTime =>
      exact .inl (leaseHolder_extendLease _ _ _ _)
  | writes => exact .inl rfl
  | locks => exact .inl rfl
  | commits => exact .inl rfl

end TaskEffect

namespace World

/- An execution keeps its place and its token. -/
theorem step_task
    {w : World}
    {j : Nat}
    {f : Execution}
    (a : Step)
    (hTask : w.tasks[j]? = some f) :
    ∃ f', (w.step leaseSeconds a).tasks[j]? = some f' ∧
      f'.token = f.token ∧
      (f.place = .ended → f'.place = .ended) := by
  have hLength : j < w.tasks.length :=
    (List.getElem?_eq_some_iff.mp hTask).1
  cases a with
  | tick seconds => exact ⟨f, hTask, rfl, id⟩
  | claim token time =>
      simp only [step]
      split
      · refine ⟨f, ?_, rfl, id⟩
        rw [List.getElem?_append_left hLength]
        exact hTask
      · exact ⟨f, hTask, rfl, id⟩
  | task i s =>
      simp only [step]
      cases hActing : w.tasks[i]? with
      | none => exact ⟨f, hTask, rfl, id⟩
      | some e =>
          rcases (taskStep_effect leaseSeconds w i e s).tasks with
            hSame | ⟨e', hSet, hContinues⟩
          · exact ⟨f, by rw [hSame]; exact hTask, rfl, id⟩
          · rw [hSet]
            by_cases hij : i = j
            · rw [hij] at hActing ⊢
              rw [hTask] at hActing
              cases hActing
              exact ⟨e', List.getElem?_set_self hLength,
                hContinues.token, hContinues.ended⟩
            · rw [List.getElem?_set_ne hij]
              exact ⟨f, hTask, rfl, id⟩
  | abandon action legacy time =>
      simp only [step]
      split <;> exact ⟨f, hTask, rfl, id⟩
  | forceRelease =>
      simp only [step]
      split <;> exact ⟨f, hTask, rfl, id⟩

/- A step moves the row, and only a fresh token takes it. -/
theorem step_move
    (w : World)
    (a : Step) :
    Move w.now (fun token => token ∉ w.tokens)
      (rowOf w.row) (rowOf (w.step leaseSeconds a).row) := by
  cases a with
  | tick seconds => exact .same _
  | claim token time =>
      simp only [step]
      split
      · next hGuard =>
          exact claimLease_move w.row hGuard.1 hGuard.2
      · exact .same _
  | task i s =>
      simp only [step]
      split
      · exact (taskStep_effect leaseSeconds w i _ s).move
      · exact .same _
  | abandon action legacy time =>
      simp only [step]
      split
      · exact fenceLease_move w.row action legacy
      · exact .same _
  | forceRelease =>
      simp only [step]
      split
      · exact forceReleaseTombstone_move w.row
      · exact .same _

/- Being fenced out is for good. -/
theorem step_not_holds
    {w : World}
    {f : Execution}
    (a : Step)
    (hTask : f ∈ w.tasks)
    (hNot : ¬Holds f.token w.row) :
    ¬Holds f.token (w.step leaseSeconds a).row := by
  refine (step_move w a).not_held ?_ hNot
  exact fun hFresh => hFresh (List.mem_map_of_mem hTask)

/- So is having neither a lease nor a tombstone. -/
theorem step_not_owns
    {w : World}
    {f : Execution}
    (a : Step)
    (hTask : f ∈ w.tasks)
    (hNot : ¬Owns f.token w.row) :
    ¬Owns f.token (w.step leaseSeconds a).row := by
  refine (step_move w a).not_belongs ?_ hNot
  exact fun hFresh => hFresh (List.mem_map_of_mem hTask)

end World

end Fencing

end TrueNorth
