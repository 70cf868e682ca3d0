import TrueNorth.Fencing.Effects

/-
  Range lease safety over every interleaving: one holder,
  writes for the holder alone, no write after being fenced
  out, no claim over an unexpired row.

  Key definitions include:
    * `World.Inv`
    * `World.guardedWrites`
    * `World.lease_safety`
-/

--------
-- The Invariant
--------

namespace TrueNorth

namespace Fencing

open Leases

variable {leaseSeconds : Nat}

/-
  A write was made for the lease its transaction read, which
  an abandon cannot have renamed before the commit; under
  the lease row's lock nothing else moved it either.
-/
structure Write.Authorised
    (x : Write)
    (e : Execution) : Prop where
  seen : x.seen = some e.holder
  notRenamed : x.atCommit ≠ some (tombstone e.holder)
  guarded : x.guarded = true → x.atCommit = some e.holder

structure World.Inv (w : World) : Prop where
  distinct : w.tokens.Nodup
  truthful : ∀ e ∈ w.tasks, Truthful w.row e
  writes :
    ∀ x ∈ w.writes, ∃ e,
      w.tasks[x.task]? = some e ∧ x.Authorised e
  -- a reservation's transaction keeps abandons out
  locked :
    ∀ i seen, w.locked = some (i, seen) → ∃ e,
      w.tasks[i]? = some e ∧ seen = some e.holder ∧
        leaseHolder w.row ≠ some (tombstone e.holder)

theorem World.fresh_inv :
    World.fresh.Inv := by
  refine ⟨List.nodup_nil, ?_, ?_, ?_⟩
  · intro e hMem
    cases hMem
  · intro x hMem
    cases hMem
  · intro i seen hLocked
    cases hLocked

/- What was authorised stays so: tokens never change. -/
private theorem authorised_mono
    {x : Write}
    {e e' : Execution}
    (hToken : e'.token = e.token)
    (hAuthorised : x.Authorised e) :
    x.Authorised e' := by
  have hHolder : e'.holder = e.holder := by
    simp [Execution.holder, hToken]
  rcases hAuthorised with ⟨hSeen, hRenamed, hGuarded⟩
  refine ⟨?_, ?_, ?_⟩
  · rwa [hHolder]
  · rwa [hHolder]
  · rwa [hHolder]

namespace World

/- Only a claim adds an execution, under a fresh token. -/
theorem step_tokens
    (w : World)
    (a : Step) :
    (w.step leaseSeconds a).tokens = w.tokens ∨
      ∃ token, token ∉ w.tokens ∧
        (w.step leaseSeconds a).tokens =
          w.tokens ++ [token] := by
  cases a with
  | tick seconds => exact .inl rfl
  | claim token time =>
      simp only [step]
      split
      · next hGuard =>
          refine .inr ⟨token, hGuard.1, ?_⟩
          simp [tokens, Execution.claimed]
      · exact .inl rfl
  | task i s =>
      left
      simp only [step]
      cases hActing : w.tasks[i]? with
      | none => rfl
      | some e =>
          unfold tokens
          rcases (taskStep_effect leaseSeconds w i e s).tasks with
            hSame | ⟨e', hSet, hContinues⟩
          · rw [hSame]
          · rcases List.getElem?_eq_some_iff.mp hActing with
              ⟨hLength, hGet⟩
            rw [hSet, List.map_set, hContinues.token, ← hGet,
              ← List.getElem_map Execution.token,
              List.set_getElem_self]
            simpa using hLength
  | abandon action legacy time =>
      simp only [step]
      split <;> exact .inl rfl
  | forceRelease =>
      simp only [step]
      split <;> exact .inl rfl

/- Executions under one token are one execution. -/
theorem eq_of_token
    {w : World}
    {i j : Nat}
    {e f : Execution}
    (hDistinct : w.tokens.Nodup)
    (hTask : w.tasks[i]? = some e)
    (hTask' : w.tasks[j]? = some f)
    (hToken : e.token = f.token) :
    i = j := by
  have hi : i < w.tokens.length := by
    simpa [tokens] using
      (List.getElem?_eq_some_iff.mp hTask).1
  apply (List.getElem?_inj hi hDistinct).mp
  simp [tokens, hTask, hTask', hToken]

theorem step_distinct
    {w : World}
    (a : Step)
    (hDistinct : w.tokens.Nodup) :
    (w.step leaseSeconds a).tokens.Nodup := by
  rcases step_tokens w a with hSame | ⟨token, hFresh, hMore⟩
  · rwa [hSame]
  · rw [hMore, List.nodup_append]
    refine ⟨hDistinct, by simp, ?_⟩
    intro t hMem t' hMem' hEq
    rw [List.mem_singleton] at hMem'
    rw [hEq, hMem'] at hMem
    exact hFresh hMem

theorem step_truthful
    {w : World}
    (a : Step)
    (hTruthful : ∀ e ∈ w.tasks, Truthful w.row e) :
    ∀ e ∈ (w.step leaseSeconds a).tasks,
      Truthful (w.step leaseSeconds a).row e := by
  -- executions the step does not touch
  have hOld :
      ∀ e ∈ w.tasks,
        Truthful (w.step leaseSeconds a).row e :=
    fun e hMem =>
      (hTruthful e hMem).mono (step_not_holds a hMem)
  cases a with
  | tick seconds => exact hOld
  | claim token time =>
      intro e hMem
      by_cases hGuard : token ∉ w.tokens ∧ time ≤ w.now
      · have hTasks :
            (w.step leaseSeconds (.claim token time)).tasks =
              w.tasks ++
                [.claimed token
                  (claimLease leaseSeconds w.row
                    (.plain token) time).2] := by
          simp [step, hGuard]
        rw [hTasks, List.mem_append,
          List.mem_singleton] at hMem
        rcases hMem with hMem | rfl
        · exact hOld e hMem
        · refine ⟨?_, ?_, ?_⟩
          · rintro (hFlag | hFlag) <;> cases hFlag
          · intro seen hSight
            cases hSight
          · intro seen hBeat
            cases hBeat
      · have hTasks :
            (w.step leaseSeconds (.claim token time)).tasks =
              w.tasks := by
          simp only [step]
          rw [if_neg hGuard]
        rw [hTasks] at hMem
        exact hOld e hMem
  | task i s =>
      cases hActing : w.tasks[i]? with
      | none =>
          intro f hMem
          refine hOld f ?_
          simpa [step, hActing] using hMem
      | some e =>
          have hStep :
              w.step leaseSeconds (.task i s) =
                w.taskStep leaseSeconds i e s := by
            simp [step, hActing]
          have hMemE : e ∈ w.tasks :=
            List.mem_of_getElem? hActing
          intro f hMem
          rcases (taskStep_effect leaseSeconds w i e s).tasks with
            hSame | ⟨e', hSet, hContinues⟩
          · refine hOld f ?_
            rwa [hStep, hSame] at hMem
          · rw [hStep, hSet] at hMem
            rcases List.mem_or_eq_of_mem_set hMem with
              hMem | rfl
            · exact hOld f hMem
            · refine
                (hContinues.truthful
                  (hTruthful e hMemE)).mono ?_
              rw [hContinues.token]
              exact step_not_holds _ hMemE
  | abandon action legacy time =>
      intro e hMem
      refine hOld e ?_
      simp only [step] at hMem
      split at hMem <;> exact hMem
  | forceRelease =>
      intro e hMem
      refine hOld e ?_
      simp only [step] at hMem
      split at hMem <;> exact hMem

/- The history grows by the writes of the step, if any. -/
theorem step_writes
    {w : World}
    (a : Step)
    (hInv : w.Inv) :
    ∀ x ∈ (w.step leaseSeconds a).writes,
      x ∈ w.writes ∨
        ∃ e, w.tasks[x.task]? = some e ∧ x.Authorised e := by
  intro x hMem
  cases a with
  | tick seconds => exact .inl hMem
  | claim token time =>
      simp only [step] at hMem
      split at hMem <;> exact .inl hMem
  | task i s =>
      simp only [step] at hMem
      split at hMem
      · next e hActing =>
          generalize hW : w.taskStep leaseSeconds i e s = w'
            at hMem
          have hEffect :=
            taskStep_effect leaseSeconds w i e s
          rw [hW] at hEffect
          cases hEffect with
          | writes hPlace hSeen =>
              rw [List.mem_append, List.mem_singleton] at hMem
              rcases hMem with hMem | rfl
              · exact .inl hMem
              · refine .inr ⟨e, hActing, hSeen, ?_, ?_⟩
                · simp only [hSeen]
                  intro hEq
                  exact tombstone_ne _
                    (Option.some.inj hEq).symm
                · exact fun _ => hSeen
          | commits seen hLocked =>
              rw [List.mem_append, List.mem_singleton] at hMem
              rcases hMem with hMem | rfl
              · exact .inl hMem
              · rcases hInv.locked i seen hLocked with
                  ⟨f, hTask, hSeen, hRenamed⟩
                refine .inr ⟨f, hTask, hSeen, hRenamed, ?_⟩
                intro hGuarded
                cases hGuarded
          | _ => exact .inl (by simpa [put] using hMem)
      · exact .inl hMem
  | abandon action legacy time =>
      simp only [step] at hMem
      split at hMem <;> exact .inl hMem
  | forceRelease =>
      simp only [step] at hMem
      split at hMem <;> exact .inl hMem

/-
  While a reservation's transaction holds the range's row
  lock, no step renames the lease.
-/
theorem step_holder_locked
    {w : World}
    (a : Step)
    (hLocked : w.locked ≠ none)
    {holder : Holder}
    (hRenamed : leaseHolder w.row ≠ some (tombstone holder)) :
    leaseHolder (w.step leaseSeconds a).row ≠
      some (tombstone holder) := by
  cases a with
  | tick seconds => exact hRenamed
  | claim token time =>
      simp only [step]
      split
      · unfold claimLease
        cases hRow : w.row with
        | none => simp [leaseHolder, tombstone]
        | some r =>
            rw [hRow] at hRenamed
            simp only
            split
            · simp [leaseHolder, tombstone]
            · exact hRenamed
      · exact hRenamed
  | task i s =>
      simp only [step]
      split
      · next e hActing =>
          rcases (taskStep_effect leaseSeconds w i e s).holder with hSame | hNone
          · rwa [hSame]
          · rw [hNone]
            intro hEq
            cases hEq
      · exact hRenamed
  | abandon action legacy time =>
      simp only [step]
      rw [if_neg (fun hGuard => hLocked hGuard.1)]
      exact hRenamed
  | forceRelease =>
      simp only [step]
      rw [if_neg hLocked]
      exact hRenamed

/- A lock is kept from before, or taken by its own holder. -/
theorem step_locked
    {w : World}
    (a : Step)
    {i : Nat}
    {seen : Option Holder}
    (hLocked :
      (w.step leaseSeconds a).locked = some (i, seen)) :
    w.locked = some (i, seen) ∨
      ∃ e, w.tasks[i]? = some e ∧ seen = some e.holder ∧
        leaseHolder (w.step leaseSeconds a).row =
          some e.holder := by
  cases a with
  | tick seconds => exact .inl hLocked
  | claim token time =>
      simp only [step] at hLocked
      split at hLocked <;> exact .inl hLocked
  | task j s =>
      cases hActing : w.tasks[j]? with
      | none =>
          left
          simpa [step, hActing] using hLocked
      | some e =>
          have hStep :
              w.step leaseSeconds (.task j s) =
                w.taskStep leaseSeconds j e s := by
            simp [step, hActing]
          rw [hStep] at hLocked ⊢
          have hEffect :=
            taskStep_effect leaseSeconds w j e s
          generalize w.taskStep leaseSeconds j e s = w'
            at hLocked hEffect ⊢
          cases hEffect with
          | unlocks e' hContinues =>
              have hBefore := unlock_locked hLocked
              exact .inl hBefore
          | rollsBack => exact .inl (unlock_locked hLocked)
          | locks hFree hSeen =>
              cases hLocked
              exact .inr ⟨e, hActing, hSeen, hSeen⟩
          | commits => cases hLocked
          | _ => exact .inl hLocked
  | abandon action legacy time =>
      simp only [step] at hLocked
      split at hLocked <;> exact .inl hLocked
  | forceRelease =>
      simp only [step] at hLocked
      split at hLocked <;> exact .inl hLocked

theorem step_inv
    (w : World)
    (a : Step)
    (hInv : w.Inv) :
    (w.step leaseSeconds a).Inv := by
  refine ⟨step_distinct a hInv.distinct,
    step_truthful a hInv.truthful, ?_, ?_⟩
  · intro x hMem
    have hTask :
        ∃ e, w.tasks[x.task]? = some e ∧
          x.Authorised e := by
      rcases step_writes a hInv x hMem with hOld | hNew
      · exact hInv.writes x hOld
      · exact hNew
    rcases hTask with ⟨e, hGet, hAuthorised⟩
    rcases step_task a hGet with ⟨e', hGet', hToken, _⟩
    exact ⟨e', hGet', authorised_mono hToken hAuthorised⟩
  · intro i seen hLocked
    have hTask :
        ∃ e, w.tasks[i]? = some e ∧ seen = some e.holder ∧
          leaseHolder (w.step leaseSeconds a).row ≠
            some (tombstone e.holder) := by
      rcases step_locked a hLocked with
        hOld | ⟨e, hGet, hSeen, hNow⟩
      · rcases hInv.locked i seen hOld with
          ⟨e, hGet, hSeen, hRenamed⟩
        refine ⟨e, hGet, hSeen, ?_⟩
        exact step_holder_locked a (by simp [hOld]) hRenamed
      · refine ⟨e, hGet, hSeen, ?_⟩
        rw [hNow]
        intro hEq
        exact tombstone_ne _ (Option.some.inj hEq).symm
    rcases hTask with ⟨e, hGet, hSeen, hRenamed⟩
    rcases step_task a hGet with ⟨e', hGet', hToken, _⟩
    have hHolder : e'.holder = e.holder := by
      simp [Execution.holder, hToken]
    rw [← hHolder] at hSeen hRenamed
    exact ⟨e', hGet', hSeen, hRenamed⟩

theorem run_inv
    (actions : List Step) :
    (Runs.run (step leaseSeconds) fresh actions).Inv :=
  Runs.run_invariant Inv step_inv fresh_inv actions

end World

end Fencing

end TrueNorth

--------
-- Being Fenced Out
--------

namespace TrueNorth

namespace Fencing

open Leases

variable {leaseSeconds : Nat}

namespace World

/- The writes `guarded_range_update` made for an execution. -/
def guardedWrites
    (w : World)
    (i : Nat) : List Write :=
  w.writes.filter (fun x => x.guarded && x.task == i)

/- The execution's own lease is not in the row. -/
def FencedOut
    (w : World)
    (i : Nat) : Prop :=
  ∃ e, w.tasks[i]? = some e ∧ ¬Holds e.token w.row

theorem step_fencedOut
    {w : World}
    {i : Nat}
    (a : Step)
    (hOut : w.FencedOut i) :
    (w.step leaseSeconds a).FencedOut i ∧
      (w.step leaseSeconds a).guardedWrites i =
        w.guardedWrites i := by
  rcases hOut with ⟨e, hTask, hNot⟩
  rcases step_task a hTask with ⟨e', hTask', hToken, _⟩
  refine ⟨⟨e', hTask', ?_⟩, ?_⟩
  · rw [hToken]
    exact step_not_holds a (List.mem_of_getElem? hTask) hNot
  · cases a with
    | tick seconds => rfl
    | claim token time =>
        simp only [step]
        split <;> rfl
    | task j s =>
        cases hActing : w.tasks[j]? with
        | none => simp [step, hActing]
        | some f =>
            have hStep :
                w.step leaseSeconds (.task j s) =
                  w.taskStep leaseSeconds j f s := by
              simp [step, hActing]
            rw [hStep]
            have hEffect :=
              taskStep_effect leaseSeconds w j f s
            generalize w.taskStep leaseSeconds j f s = w'
              at hEffect ⊢
            cases hEffect with
            | writes hPlace hSeen =>
                have hOther : j ≠ i := by
                  intro hEq
                  rw [hEq, hTask] at hActing
                  cases hActing
                  exact hNot (holds_iff.mpr hSeen)
                simp [guardedWrites, hOther]
            | commits seen hLocked => simp [guardedWrites]
            | _ => simp [guardedWrites, put]
    | abandon action legacy time =>
        simp only [step]
        split <;> rfl
    | forceRelease =>
        simp only [step]
        split <;> rfl

theorem run_fencedOut
    {w : World}
    {i : Nat}
    (later : List Step)
    (hOut : w.FencedOut i) :
    (Runs.run (step leaseSeconds) w later).guardedWrites i =
      w.guardedWrites i := by
  have hStep :
      ∀ (v : World) (a : Step),
        (v.FencedOut i ∧
          v.guardedWrites i = w.guardedWrites i) →
        (v.step leaseSeconds a).FencedOut i ∧
          (v.step leaseSeconds a).guardedWrites i =
            w.guardedWrites i := by
    rintro v a ⟨hOut, hSame⟩
    rcases step_fencedOut a hOut with ⟨hOut', hSame'⟩
    exact ⟨hOut', hSame'.trans hSame⟩
  have hRun :=
    Runs.run_invariant
      (fun v : World =>
        v.FencedOut i ∧ v.guardedWrites i = w.guardedWrites i)
      hStep ⟨hOut, rfl⟩ later
  exact hRun.2

/- An execution that has concluded it is fenced out is. -/
theorem Inv.fencedOut
    {w : World}
    {i : Nat}
    {e : Execution}
    (hInv : w.Inv)
    (hTask : w.tasks[i]? = some e)
    (hFlags : e.abandoned = true ∨ e.lost = true) :
    w.FencedOut i :=
  ⟨e, hTask,
    (hInv.truthful e (List.mem_of_getElem? hTask)).flags
      hFlags⟩

/- An unexpired row refuses every claim. -/
theorem step_claim_blocked
    {w : World}
    {r : LeaseRow}
    (token : Token)
    (time : Nat)
    (hRow : w.row = some r)
    (hExpires : w.now ≤ r.expiresAt) :
    w.step leaseSeconds (.claim token time) = w ∨
      w.step leaseSeconds (.claim token time) =
        { w with
          tasks := w.tasks ++ [.claimed token false] } := by
  simp only [step]
  split
  · next hGuard =>
      right
      rw [hRow, claimLease_blocked _ hGuard.2 hExpires, ← hRow]
  · exact .inl rfl

/-
  Range lease safety, in every state that any interleaving
  reaches.  At most one execution's lease is in the row;
  every write was made for the lease its own transaction
  read there; an execution that has seen itself abandoned or
  lost, or whose lease is not in the row any more, never
  writes through `guarded_range_update` again; and while the
  row has not expired a claim takes nothing.
-/
theorem lease_safety
    (actions : List Step) :
    let w := Runs.run (step leaseSeconds) fresh actions
    (∀ (i j : Nat) (e f : Execution),
      w.tasks[i]? = some e → w.tasks[j]? = some f →
      leaseHolder w.row = some e.holder →
      leaseHolder w.row = some f.holder → i = j) ∧
    (∀ x ∈ w.writes, ∃ e,
      w.tasks[x.task]? = some e ∧ x.Authorised e) ∧
    (∀ (i : Nat) (e : Execution),
      w.tasks[i]? = some e →
      e.abandoned = true ∨ e.lost = true ∨
        leaseHolder w.row ≠ some e.holder →
      ∀ later,
        (Runs.run (step leaseSeconds) w later).guardedWrites
            i = w.guardedWrites i) ∧
    ∀ r, w.row = some r → w.now ≤ r.expiresAt →
      ∀ token time,
        w.step leaseSeconds (.claim token time) = w ∨
        w.step leaseSeconds (.claim token time) =
          { w with
            tasks :=
              w.tasks ++ [.claimed token false] } := by
  intro w
  have hInv : w.Inv := run_inv actions
  refine ⟨?_, hInv.writes, ?_, ?_⟩
  · intro i j e f hTask hTask' hHolder hHolder'
    have hToken : e.token = f.token := by
      rw [hHolder] at hHolder'
      simpa [Execution.holder] using hHolder'
    exact eq_of_token hInv.distinct hTask hTask' hToken
  · intro i e hTask hOut later
    apply run_fencedOut
    rcases hOut with hFlag | hFlag | hHolder
    · exact hInv.fencedOut hTask (.inl hFlag)
    · exact hInv.fencedOut hTask (.inr hFlag)
    · exact ⟨e, hTask, not_holds_of_seen hHolder⟩
  · intro r hRow hExpires token time
    exact step_claim_blocked token time hRow hExpires

end World

end Fencing

end TrueNorth
