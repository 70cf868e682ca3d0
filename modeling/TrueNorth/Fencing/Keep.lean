import TrueNorth.Fencing.Safety

/-
  What a soft time limit keeps.  `keep` extends the holder
  it finds in `lease.current`; an abandon that neither the
  heartbeat nor an observation has seen yet has renamed the
  row under it, and the extension matches nothing.

  Key definitions include:
    * `Guards`
    * `World.Blocked`
    * `World.KeepTakes`
    * `World.kept_blocked`
-/

--------
-- Rows Kept for an Execution
--------

namespace TrueNorth

namespace Fencing

variable {leaseSeconds : Nat}

/- The row is the owner's lease or tombstone until a time. -/
def Guards
    (token : Token)
    (till : Nat)
    (row : Option LeaseRow) : Prop :=
  ∃ r, row = some r ∧ r.holder.owner = token ∧
    till ≤ r.expiresAt

theorem Guards.extendLease
    {token : Token}
    {till : Nat}
    {row : Option LeaseRow}
    (hGuards : Guards token till row)
    (holder : Holder)
    (time seconds : Nat) :
    Guards token till
      (extendLease row holder time seconds).1 := by
  rcases hGuards with ⟨r, rfl, hOwner, hTill⟩
  simp only [Fencing.extendLease]
  split
  · refine ⟨_, rfl, hOwner, ?_⟩
    exact Nat.le_trans hTill (Nat.le_max_left _ _)
  · exact ⟨r, rfl, hOwner, hTill⟩

theorem Guards.releaseLease
    {token : Token}
    {till : Nat}
    {row : Option LeaseRow}
    (hGuards : Guards token till row)
    {e : Execution}
    (hOther : e.token ≠ token) :
    Guards token till (releaseLease row e.holder) := by
  rcases hGuards with ⟨r, rfl, hOwner, hTill⟩
  simp only [Fencing.releaseLease]
  split
  · next hMine =>
      rcases hMine with hMine | hMine <;>
        · rw [hMine] at hOwner
          exact absurd hOwner hOther
  · exact ⟨r, rfl, hOwner, hTill⟩

theorem Guards.claimLease
    {token : Token}
    {till : Nat}
    {row : Option LeaseRow}
    (hGuards : Guards token till row)
    (holder : Holder)
    (time : Nat) :
    till < time ∨
      Guards token till
        (claimLease leaseSeconds row holder time).1 := by
  rcases hGuards with ⟨r, rfl, hOwner, hTill⟩
  simp only [Fencing.claimLease]
  split
  · left
    omega
  · exact .inr ⟨r, rfl, hOwner, hTill⟩

/- Renaming keeps the owner; the expiry is the abandon's. -/
theorem Guards.fenceLease
    {token : Token}
    {till time : Nat}
    {row : Option LeaseRow}
    {action : TaskAction}
    {legacy : Bool}
    (hGuards : Guards token till row)
    (hLong :
      ∀ r, row = some r →
        r.holder.fencedBy action legacy = true →
        r.holder.owner = token →
        till ≤ time + leaseSeconds) :
    Guards token till
      (fenceLease leaseSeconds row action legacy time) := by
  rcases hGuards with ⟨r, rfl, hOwner, hTill⟩
  simp only [Fencing.fenceLease]
  split
  · next hFenced =>
      exact ⟨_, rfl, hOwner, hLong r rfl hFenced hOwner⟩
  · exact ⟨r, rfl, hOwner, hTill⟩

--------
-- The Range Stays Blocked
--------

variable {leaseSeconds : Nat}

namespace World

/-
  A kept row blocks the range for `KEPT_LEASE_SECONDS` from
  the keep, unless its tombstone was force-released.
-/
def Blocked
    (w : World)
    (k : Kept) : Prop :=
  k.token ∈ w.forced ∨
    k.time + keptLeaseSeconds < w.now ∨
    Guards k.token (k.time + keptLeaseSeconds) w.row

/-
  The steps on which the keep takes hold: `keep` finds the
  row still under the name it has for it (or long enough
  already), and no abandon shortens a row that is kept.
-/
def KeepTakes
    (leaseSeconds : Nat)
    (w : World) : Step → Prop
| .task i (.keep time) =>
    ∀ e holder r,
      w.tasks[i]? = some e → e.place = .extending holder →
      time ≤ w.now →
      w.row = some r → r.holder.owner = e.token →
      r.holder = holder ∨
        time + keptLeaseSeconds ≤ r.expiresAt
| .abandon action legacy time =>
    ∀ r k,
      w.locked = none → time ≤ w.now →
      w.row = some r →
      r.holder.fencedBy action legacy = true →
      k ∈ w.kept → r.holder.owner = k.token →
      w.now ≤ k.time + keptLeaseSeconds →
      k.time + keptLeaseSeconds ≤ time + leaseSeconds
| _ => True

/- A kept execution has ended: it releases nothing. -/
structure KeptInv (w : World) : Prop where
  distinct : w.tokens.Nodup
  ended :
    ∀ k ∈ w.kept, ∃ (i : Nat) (e : Execution),
      w.tasks[i]? = some e ∧ e.token = k.token ∧
        e.place = .ended
  blocked : ∀ k ∈ w.kept, w.Blocked k

/- Only a keep adds to `kept`, for the row's own execution. -/
structure Keeps
    (w w' : World)
    (i : Nat)
    (e : Execution)
    (holder : Holder)
    (r : LeaseRow)
    (k : Kept) : Prop where
  task : w.tasks[i]? = some e
  place : e.place = .extending holder
  time : k.time ≤ w.now
  row : w.row = some r
  owner : r.holder.owner = e.token
  token : k.token = e.token
  row' :
    w'.row =
      (extendLease w.row holder k.time keptLeaseSeconds).1
  tasks' : w'.tasks = w.tasks.set i { e with place := .ended }

theorem step_kept
    {w : World}
    (a : Step)
    {k : Kept}
    (hKept : k ∈ (w.step leaseSeconds a).kept) :
    k ∈ w.kept ∨
      ∃ i e holder r,
        a = .task i (.keep k.time) ∧
          Keeps w (w.step leaseSeconds a) i e holder r k := by
  cases a with
  | tick seconds => exact .inl hKept
  | claim token time =>
      simp only [step] at hKept
      split at hKept <;> exact .inl hKept
  | task i s =>
      cases hActing : w.tasks[i]? with
      | none =>
          left
          simpa [step, hActing] using hKept
      | some e =>
          have hStep :
              w.step leaseSeconds (.task i s) =
                w.taskStep leaseSeconds i e s := by
            simp [step, hActing]
          rw [hStep] at hKept ⊢
          have hEffect := taskStep_effect leaseSeconds w i e s
          generalize w.taskStep leaseSeconds i e s = w'
            at hKept hEffect ⊢
          cases hEffect with
          | keeps holder time hKeep hPlace hTime =>
              simp only [put] at hKept
              split at hKept
              · next hMine =>
                  rcases List.mem_cons.mp hKept with
                    rfl | hOld
                  · cases hRow : w.row with
                    | none =>
                        rw [hRow] at hMine
                        cases hMine
                    | some r =>
                        rw [hRow] at hMine
                        refine .inr ⟨i, e, holder, r, ?_, ?_⟩
                        · rw [hKeep]
                        · exact
                            ⟨hActing, hPlace, hTime, hRow,
                              Option.some.inj hMine, rfl,
                              by rw [hRow]; rfl, rfl⟩
                  · exact .inl hOld
              · exact .inl hKept
          | _ => exact .inl (by simpa [put] using hKept)
  | abandon action legacy time =>
      simp only [step] at hKept
      split at hKept <;> exact .inl hKept
  | forceRelease =>
      simp only [step] at hKept
      split at hKept <;> exact .inl hKept

/- The row of a kept execution, after one more step. -/
private theorem step_guards
    {w : World}
    {a : Step}
    {k : Kept}
    (hInv : w.KeptInv)
    (hTakes : KeepTakes leaseSeconds w a)
    (hKept : k ∈ w.kept)
    (hNow : w.now ≤ k.time + keptLeaseSeconds)
    (hGuards :
      Guards k.token (k.time + keptLeaseSeconds) w.row) :
    k.token ∈ (w.step leaseSeconds a).forced ∨
      Guards k.token (k.time + keptLeaseSeconds)
        (w.step leaseSeconds a).row := by
  cases a with
  | tick seconds => exact .inr hGuards
  | claim token time =>
      right
      simp only [step]
      split
      · next hGuard =>
          have hClaim :
              k.time + keptLeaseSeconds < time ∨
                Guards k.token (k.time + keptLeaseSeconds)
                  (claimLease leaseSeconds w.row
                    (.plain token) time).1 :=
            hGuards.claimLease _ _
          rcases hClaim with hLate | hSame
          · omega
          · exact hSame
      · exact hGuards
  | task i s =>
      right
      cases hActing : w.tasks[i]? with
      | none => simpa [step, hActing] using hGuards
      | some e =>
          have hStep :
              w.step leaseSeconds (.task i s) =
                w.taskStep leaseSeconds i e s := by
            simp [step, hActing]
          rw [hStep]
          have hEffect := taskStep_effect leaseSeconds w i e s
          generalize w.taskStep leaseSeconds i e s = w'
            at hEffect ⊢
          cases hEffect with
          | goesOn e' row hContinues hRow =>
              cases hRow with
              | same => exact hGuards
              | extended holder time seconds =>
                  exact hGuards.extendLease holder time seconds
              | released hPlace =>
                  -- the kept execution has ended
                  refine hGuards.releaseLease ?_
                  intro hToken
                  rcases hInv.ended k hKept with
                    ⟨j, f, hTask, hToken', hEnded⟩
                  have hij : i = j :=
                    eq_of_token hInv.distinct hActing hTask
                      (hToken.trans hToken'.symm)
                  rw [← hij, hActing] at hTask
                  cases hTask
                  rw [hPlace] at hEnded
                  cases hEnded
          | keeps holder time _ hPlace hTime =>
              exact hGuards.extendLease holder time _
          | unlocks e' hContinues => simpa using hGuards
          | rollsBack => simpa using hGuards
          | _ => exact hGuards
  | abandon action legacy time =>
      right
      simp only [step]
      split
      · next hGuard =>
          refine hGuards.fenceLease ?_
          intro r hRow hFenced hOwner
          exact hTakes r k hGuard.1 hGuard.2 hRow hFenced hKept
            hOwner hNow
      · exact hGuards
  | forceRelease =>
      simp only [step]
      split
      · rcases hGuards with ⟨r, hRow, hOwner, hTill⟩
        rw [hRow]
        simp only [forceReleaseTombstone]
        split
        · left
          rw [hOwner]
          exact List.mem_cons_self
        · exact .inr ⟨r, rfl, hOwner, hTill⟩
      · exact .inr hGuards

theorem step_now_le
    (w : World)
    (a : Step) :
    w.now ≤ (w.step leaseSeconds a).now := by
  cases a with
  | tick seconds => exact Nat.le_add_right _ _
  | claim token time =>
      simp only [step]
      split <;> exact Nat.le_refl _
  | task i s =>
      simp only [step]
      split
      · next e hActing =>
          exact Nat.le_of_eq
            (taskStep_effect leaseSeconds w i e s).now.symm
      · exact Nat.le_refl _
  | abandon action legacy time =>
      simp only [step]
      split <;> exact Nat.le_refl _
  | forceRelease =>
      simp only [step]
      split <;> exact Nat.le_refl _

theorem step_forced
    {w : World}
    {token : Token}
    (a : Step)
    (hForced : token ∈ w.forced) :
    token ∈ (w.step leaseSeconds a).forced := by
  cases a with
  | tick seconds => exact hForced
  | claim token time =>
      simp only [step]
      split <;> exact hForced
  | task i s =>
      simp only [step]
      split
      · next e hActing =>
          have hEffect := taskStep_effect leaseSeconds w i e s
          generalize w.taskStep leaseSeconds i e s = w'
            at hEffect ⊢
          cases hEffect <;> simpa [put] using hForced
      · exact hForced
  | abandon action legacy time =>
      simp only [step]
      split <;> exact hForced
  | forceRelease =>
      simp only [step]
      split
      · split
        · split
          · exact List.mem_cons_of_mem _ hForced
          · exact hForced
        · exact hForced
      · exact hForced

/- A row already kept goes on blocking the range. -/
theorem step_blocked
    {w : World}
    {a : Step}
    {k : Kept}
    (hInv : w.KeptInv)
    (hTakes : KeepTakes leaseSeconds w a)
    (hKept : k ∈ w.kept) :
    (w.step leaseSeconds a).Blocked k := by
  have hNow : w.now ≤ (w.step leaseSeconds a).now :=
    step_now_le w a
  by_cases hLate : k.time + keptLeaseSeconds < w.now
  · right
    left
    omega
  rcases hInv.blocked k hKept with hForced | hPast | hGuards
  · exact .inl (step_forced a hForced)
  · exact absurd hPast hLate
  · rcases step_guards hInv hTakes hKept (by omega) hGuards
      with hForced | hGuards'
    · exact .inl hForced
    · exact .inr (.inr hGuards')

/- A keep that takes hold makes the row block the range. -/
theorem Keeps.blocked
    {w w' : World}
    {i : Nat}
    {e : Execution}
    {holder : Holder}
    {r : LeaseRow}
    {k : Kept}
    (hKeeps : Keeps w w' i e holder r k)
    (hFound :
      r.holder = holder ∨
        k.time + keptLeaseSeconds ≤ r.expiresAt) :
    w'.Blocked k := by
  right
  right
  rw [hKeeps.row', hKeeps.row]
  have hOwner := hKeeps.owner.trans hKeeps.token.symm
  rcases hFound with hSame | hLong
  · simp only [extendLease]
    rw [if_pos hSame]
    exact ⟨_, rfl, hOwner, Nat.le_max_right _ _⟩
  · have hGuards :
        Guards k.token (k.time + keptLeaseSeconds)
          (some r) :=
      ⟨r, rfl, hOwner, hLong⟩
    exact hGuards.extendLease holder k.time keptLeaseSeconds

theorem step_keptInv
    (w : World)
    (a : Step)
    (hTakes : KeepTakes leaseSeconds w a)
    (hInv : w.KeptInv) :
    (w.step leaseSeconds a).KeptInv := by
  refine ⟨step_distinct a hInv.distinct, ?_, ?_⟩
  · intro k hKept
    rcases step_kept a hKept with
      hOld | ⟨i, e, holder, r, hStep, hKeeps⟩
    · rcases hInv.ended k hOld with
        ⟨i, e, hTask, hToken, hEnded⟩
      rcases step_task a hTask with
        ⟨e', hTask', hToken', hEnded'⟩
      exact ⟨i, e', hTask', hToken'.trans hToken,
        hEnded' hEnded⟩
    · refine ⟨i, { e with place := .ended }, ?_,
        hKeeps.token.symm, rfl⟩
      rw [hKeeps.tasks']
      apply List.getElem?_set_self
      exact (List.getElem?_eq_some_iff.mp hKeeps.task).1
  · intro k hKept
    rcases step_kept a hKept with
      hOld | ⟨i, e, holder, r, hStep, hKeeps⟩
    · exact step_blocked hInv hTakes hOld
    · apply hKeeps.blocked
      rw [hStep] at hTakes
      exact hTakes e holder r hKeeps.task hKeeps.place
        hKeeps.time hKeeps.row hKeeps.owner

theorem fresh_keptInv :
    fresh.KeptInv := by
  refine ⟨List.nodup_nil, ?_, ?_⟩
  · intro k hKept
    cases hKept
  · intro k hKept
    cases hKept

/-
  In every run whose keeps take hold, every row kept for an
  execution blocks the range until `KEPT_LEASE_SECONDS` after
  the keep, unless its tombstone is force-released; until
  then every claim is refused.
-/
theorem kept_blocked
    (actions : List Step)
    (hTakes :
      Runs.Meets (step leaseSeconds) (KeepTakes leaseSeconds)
        fresh actions) :
    let w := Runs.run (step leaseSeconds) fresh actions
    ∀ k ∈ w.kept,
      w.Blocked k ∧
        (k.token ∉ w.forced →
          w.now ≤ k.time + keptLeaseSeconds →
          ∀ token time,
            w.step leaseSeconds (.claim token time) = w ∨
            w.step leaseSeconds (.claim token time) =
              { w with
                tasks :=
                  w.tasks ++ [.claimed token false] }) := by
  intro w k hKept
  have hInv : w.KeptInv :=
    Runs.Meets.invariant KeptInv step_keptInv fresh_keptInv
      hTakes
  have hBlocked := hInv.blocked k hKept
  refine ⟨hBlocked, ?_⟩
  intro hNotForced hNow token time
  rcases hBlocked with hForced | hPast | ⟨r, hRow, _, hTill⟩
  · exact absurd hForced hNotForced
  · omega
  · exact step_claim_blocked token time hRow (by omega)

/-
  The build of a provision is abandoned at 10, its heartbeat
  has not run since, and the soft time limit strikes at 20:
  `keep` extends a holder that is not in the row any more.
  The tombstone lapses at 190, and at 191 another execution
  claims the range.
-/
def unseenAbandon : List Step :=
  [.claim ⟨some .provision, 1⟩ 0, .task 0 (.checked true),
    .tick 10, .abandon .provision false 10, .tick 10,
    .task 0 .softTimeLimit, .task 0 .takeCurrent,
    .task 0 (.keep 20), .tick 171,
    .claim ⟨some .provision, 2⟩ 191]

theorem unseenAbandon_taken :
    let w := Runs.run (step 180) fresh unseenAbandon
    ∃ k ∈ w.kept,
      w.now ≤ k.time + keptLeaseSeconds ∧
        w.forced = [] ∧
        leaseHolder w.row =
          some (.plain ⟨some .provision, 2⟩) ∧
        ¬w.Blocked k := by
  refine ⟨⟨⟨some .provision, 1⟩, 20⟩, by decide, by decide,
    by decide, by decide, ?_⟩
  rintro (hForced | hPast | ⟨r, hRow, hOwner, _⟩)
  · revert hForced
    decide
  · revert hPast
    decide
  · cases hRow
    revert hOwner
    decide

/- With the abandon seen in time, the keep takes hold. -/
theorem seenAbandon_blocked :
    ∃ k,
      World.Blocked
        (Runs.run (step 180) fresh
          [.claim ⟨some .provision, 1⟩ 0,
            .task 0 (.checked true), .tick 10,
            .abandon .provision false 10, .task 0 .look,
            .task 0 .observe, .tick 10,
            .task 0 .softTimeLimit, .task 0 .takeCurrent,
            .task 0 (.keep 20), .tick 3000]) k := by
  refine ⟨⟨⟨some .provision, 1⟩, 20⟩,
    (kept_blocked _ ?_ _ (by decide)).1⟩
  refine ⟨trivial, trivial, trivial, ?_, trivial, trivial,
    trivial, trivial, trivial, ?_, trivial, trivial⟩
  · rintro r k _ _ _ _ hKept
    cases hKept
  · rintro e holder r hTask hPlace _ hRow _
    cases hTask
    cases hPlace
    cases hRow
    exact .inl rfl

end World

end Fencing

end TrueNorth
