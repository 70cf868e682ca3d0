import TrueNorth.ResultTransfer.Consumption

/-
  The steps of the runs that consume packages, in any order:
  what a step can do, and what it keeps.

  Key definitions include:
    * `Stage.left`
    * `World.Numbered`

  Main theorems:
    * `World.advance_cases`
    * `World.Recorded.step`
    * `Kept.step`
-/

--------
-- What A Step Can Do
--------

namespace TrueNorth

namespace ResultTransfer

namespace Media

variable {S : Type}
variable {site : Site S}
variable {s₀ : S}
variable {w : World site.lib S}
variable {p : Nat}
variable {m : MediaPackage site.lib}
variable {stage : Stage}

/- How many steps a run may yet take. -/
def Stage.left : Stage → Nat
| .loaded => 5
| .checked => 4
| .applied => 3
| .found => 2
| .created => 2
| .written => 1

namespace World

/- A run ends by its step, or has fewer steps left. -/
theorem advance_cases
    (hRun : w.runs p = some ⟨m, stage⟩) :
    (w.advance p).next = w.next ∧
      ((∃ answer,
          (w.advance p).runs = (w.setRun p none).runs ∧
            (w.advance p).log = w.log ++ [.ended p m answer]) ∨
        ∃ stage',
          stage'.left < stage.left ∧
            (w.advance p).runs =
              (w.setRun p (some ⟨m, stage'⟩)).runs ∧
            ((w.advance p).log = w.log ∨
              (w.advance p).log = w.log ++ [.applied m])) := by
  unfold advance
  rw [hRun]
  cases stage with
  | loaded =>
      simp only
      split
      · exact ⟨rfl, .inl ⟨_, rfl, rfl⟩⟩
      · exact ⟨rfl, .inr ⟨.checked, by decide, rfl, .inl rfl⟩⟩
      · exact ⟨rfl, .inl ⟨_, rfl, rfl⟩⟩
  | checked =>
      simp only
      split
      · exact ⟨rfl, .inr ⟨.applied, by decide, rfl, .inr rfl⟩⟩
      · exact ⟨rfl, .inl ⟨_, rfl, rfl⟩⟩
  | applied =>
      simp only
      split
      · exact ⟨rfl, .inr ⟨.created, by decide, rfl, .inl rfl⟩⟩
      · exact ⟨rfl, .inr ⟨.found, by decide, rfl, .inl rfl⟩⟩
  | found =>
      simp only
      split
      · exact ⟨rfl, .inl ⟨_, rfl, rfl⟩⟩
      · exact ⟨rfl, .inl ⟨_, rfl, rfl⟩⟩
      · exact ⟨rfl, .inl ⟨_, rfl, rfl⟩⟩
  | created =>
      exact ⟨rfl, .inr ⟨.written, by decide, rfl, .inl rfl⟩⟩
  | written => exact ⟨rfl, .inl ⟨_, rfl, rfl⟩⟩

theorem advance_none
    (hRun : w.runs p = none) :
    w.advance p = w := by
  unfold advance
  rw [hRun]

/- The first steps of a run that finds no receipt. -/
theorem advance_check
    (hRun : w.runs p = some ⟨m, .loaded⟩)
    (hNone : w.receipt m = none) :
    w.advance p = w.setRun p (some ⟨m, .checked⟩) := by
  simp only [advance, hRun, hNone, check]

theorem advance_apply
    {result : DecryptedResult}
    (hRun : w.runs p = some ⟨m, .checked⟩)
    (hOk : site.decrypt m = .ok result) :
    w.advance p =
      ({ w with store := site.apply w.store result }.note
        (.applied m)).setRun p (some ⟨m, .applied⟩) := by
  simp only [advance, hRun, hOk]

theorem advance_create
    (hRun : w.runs p = some ⟨m, .applied⟩)
    (hNone : w.receipt m = none) :
    w.advance p =
      (w.setReceipt m []).setRun p (some ⟨m, .created⟩) := by
  simp only [advance, hRun, hNone]

/- A run that is refused, by what is in its receipt. -/
theorem advance_refuse
    {failure : Failure}
    (hRun : w.runs p = some ⟨m, .loaded⟩)
    (hCheck : check (w.receipt m) m.sha256 = .error failure) :
    w.advance p = w.finish p m (.error failure) := by
  simp only [advance, hRun, hCheck]

theorem advance_receipts
    (hRun : w.runs p = some ⟨m, stage⟩)
    (hStage : stage ≠ .applied ∧ stage ≠ .created) :
    (w.advance p).receipts = w.receipts := by
  unfold advance
  rw [hRun]
  cases stage with
  | loaded =>
      simp only
      split
      · rfl
      · rfl
      · rfl
  | checked =>
      simp only
      split
      · rfl
      · rfl
  | applied => exact absurd rfl hStage.1
  | found =>
      simp only
      split
      · rfl
      · rfl
      · rfl
  | created => exact absurd rfl hStage.2
  | written => rfl

/- A stopped run is gone, and nothing more is seen. -/
theorem crash_cases (kept : Nat) :
    (w.crash p kept).next = w.next ∧
      (w.crash p kept).log = w.log ∧
      (w.crash p kept).runs = (w.setRun p none).runs := by
  unfold crash
  split
  · rename_i hRun
    refine ⟨rfl, rfl, ?_⟩
    funext q
    by_cases hq : q = p
    · rw [hq, runs_setRun_self, hRun]
    · rw [runs_setRun_ne hq]
  · exact ⟨rfl, rfl, rfl⟩
  · exact ⟨rfl, rfl, rfl⟩

theorem begin_cases (file : MediaFile) :
    (w.begin file).next = w.next + 1 ∧
      (w.begin file).receipts = w.receipts ∧
      ((∃ m,
          (w.begin file).runs =
              (w.setRun w.next (some ⟨m, .loaded⟩)).runs ∧
            (w.begin file).log = w.log) ∨
        ∃ failure,
          (w.begin file).runs = w.runs ∧
            (w.begin file).log =
              w.log ++ [.refused w.next failure]) := by
  unfold begin
  simp only
  split
  · rename_i m hLoad
    exact ⟨rfl, rfl, .inl ⟨m, rfl, rfl⟩⟩
  · rename_i failure hLoad
    exact ⟨rfl, rfl, .inr ⟨failure, rfl, rfl⟩⟩

@[simp] theorem step_begin (file : MediaFile) :
    w.step (.begin file) = w.begin file := rfl

@[simp] theorem step_advance :
    w.step (.advance p) = w.advance p := rfl

@[simp] theorem step_crash (kept : Nat) :
    w.step (.crash p kept) = w.crash p kept := rfl

/- What was seen stays seen. -/
theorem log_step
    {event : Event site.lib}
    (hEvent : event ∈ w.log)
    (a : Action) :
    event ∈ (w.step a).log := by
  cases a with
  | begin file =>
      rw [step_begin]
      rcases (begin_cases (w := w) file).2.2 with
        ⟨m, _, hLog⟩ | ⟨failure, _, hLog⟩
      · rw [hLog]
        exact hEvent
      · rw [hLog]
        exact List.mem_append_left _ hEvent
  | advance q =>
      rw [step_advance]
      cases hRun : w.runs q with
      | none =>
          rw [advance_none hRun]
          exact hEvent
      | some run =>
          rcases (advance_cases hRun).2 with
            ⟨answer, _, hLog⟩ | ⟨stage', _, _, hLog | hLog⟩
          · rw [hLog]
            exact List.mem_append_left _ hEvent
          · rw [hLog]
            exact hEvent
          · rw [hLog]
            exact List.mem_append_left _ hEvent
  | crash q kept =>
      rw [step_crash, (crash_cases kept).2.1]
      exact hEvent

/- Runs have the numbers that were given. -/
structure Numbered (w : World site.lib S) : Prop where
  hRuns : ∀ q, w.next ≤ q → w.runs q = none
  hEnded : ∀ q m answer, .ended q m answer ∈ w.log → q < w.next

theorem numbered_start :
    Numbered (.start site.lib s₀ : World site.lib S) where
  hRuns := fun _ _ => rfl
  hEnded := by
    intro q m answer hEnded
    cases hEnded

theorem Numbered.step
    (hNumbered : w.Numbered)
    (a : Action) :
    (w.step a).Numbered := by
  have hGone (run : Option (Run site.lib))
      {q r : Nat}
      (hq : q < w.next)
      (hr : w.next ≤ r) :
      (w.setRun q run).runs r = none := by
    rw [runs_setRun_ne (by omega)]
    exact hNumbered.hRuns r hr
  cases a with
  | begin file =>
      rw [step_begin]
      rcases begin_cases (w := w) file with
        ⟨hNext, _, ⟨m, hRuns, hLog⟩ | ⟨failure, hRuns, hLog⟩⟩
      · constructor
        · intro q hq
          rw [hNext] at hq
          rw [hRuns, runs_setRun_ne (by omega)]
          exact hNumbered.hRuns q (by omega)
        · intro q m' answer hEnded
          rw [hLog] at hEnded
          rw [hNext]
          exact Nat.lt_succ_of_lt
            (hNumbered.hEnded q m' answer hEnded)
      · constructor
        · intro q hq
          rw [hNext] at hq
          rw [hRuns]
          exact hNumbered.hRuns q (by omega)
        · intro q m' answer hEnded
          rw [hLog] at hEnded
          rw [hNext]
          have hOld :=
            (List.mem_append.mp hEnded).resolve_right (by simp)
          exact Nat.lt_succ_of_lt
            (hNumbered.hEnded q m' answer hOld)
  | advance q =>
      rw [step_advance]
      cases hRun : w.runs q with
      | none =>
          rw [advance_none hRun]
          exact hNumbered
      | some run =>
          rcases run with ⟨m, stage⟩
          have hq : q < w.next := by
            by_contra hNot
            rw [hNumbered.hRuns q (by omega)] at hRun
            cases hRun
          rcases advance_cases hRun with ⟨hNext, hCases⟩
          constructor
          · intro r hr
            rw [hNext] at hr
            rcases hCases with
              ⟨_, hRuns, _⟩ | ⟨_, _, hRuns, _⟩
            · rw [hRuns]
              exact hGone _ hq hr
            · rw [hRuns]
              exact hGone _ hq hr
          · intro r m' answer hEnded
            rw [hNext]
            rcases hCases with
              ⟨_, _, hLog⟩ | ⟨_, _, _, hLog | hLog⟩
            · rw [hLog] at hEnded
              rcases List.mem_append.mp hEnded with hOld | hNew
              · exact hNumbered.hEnded r m' answer hOld
              · cases List.mem_singleton.mp hNew
                exact hq
            · rw [hLog] at hEnded
              exact hNumbered.hEnded r m' answer hEnded
            · rw [hLog] at hEnded
              exact hNumbered.hEnded r m' answer
                ((List.mem_append.mp hEnded).resolve_right
                  (by simp))
  | crash q kept =>
      rw [step_crash]
      rcases crash_cases (w := w) (p := q) kept with
        ⟨hNext, hLog, hRuns⟩
      constructor
      · intro r hr
        rw [hNext] at hr
        rw [hRuns]
        by_cases hq : r = q
        · rw [hq, runs_setRun_self]
        · rw [runs_setRun_ne hq]
          exact hNumbered.hRuns r hr
      · intro r m' answer hEnded
        rw [hLog] at hEnded
        rw [hNext]
        exact hNumbered.hEnded r m' answer hEnded

/- A record stays: its receipt is written once, or again. -/
theorem Recorded.step
    {m' : MediaPackage site.lib}
    (hRecorded : w.Recorded m')
    (hKept : Kept site s₀ w)
    {a : Action}
    (hCond : w.Undisturbed a) :
    (w.step a).Recorded m' := by
  have hMono {w' : World site.lib S}
      (hLog : ∀ event ∈ w.log, event ∈ w'.log)
      (hReceipts : w'.receipts = w.receipts) :
      w'.Recorded m' := by
    refine ⟨hLog _ hRecorded.1, ?_⟩
    unfold World.receipt
    rw [hReceipts]
    exact hRecorded.2
  cases a with
  | begin file =>
      exact hMono (fun _ h => log_step h _)
        (begin_cases file).2.1
  | advance q =>
      cases hRun : w.runs q with
      | none =>
          rw [step_advance, advance_none hRun]
          exact hRecorded
      | some run =>
          rcases run with ⟨m, stage⟩
          by_cases hStage : stage ≠ .applied ∧ stage ≠ .created
          · exact hMono (fun _ h => log_step h _)
              (advance_receipts hRun hStage)
          rw [step_advance]
          cases stage with
          | applied =>
              unfold advance
              rw [hRun]
              simp only
              split
              · rename_i hNone
                rcases hRecorded.2 with ⟨entry, hEntry, hHolds⟩
                have hId : m'.packageId ≠ m.packageId := by
                  intro hSame
                  rw [receipt_eq hSame, hNone] at hEntry
                  cases hEntry
                exact ⟨hRecorded.1, entry,
                  (Dict.get?_set_ne hId _).trans hEntry, hHolds⟩
              · exact hRecorded
          | created =>
              have hApplied := (hKept.hRun q m .created hRun).1
              have hFull : Holds m.sha256
                  (.regular (receiptBytes m.sha256)) :=
                ⟨(receiptBytes m.sha256).length + 64, by omega, by
                  rw [List.take_of_length_le (by omega)]⟩
              unfold advance
              rw [hRun]
              exact (hKept.setReceipt hApplied hFull).2.2 m'
                hRecorded
          | loaded => exact absurd (by decide) hStage
          | checked => exact absurd (by decide) hStage
          | found => exact absurd (by decide) hStage
          | written => exact absurd (by decide) hStage
  | crash q kept =>
      rw [step_crash]
      unfold crash
      split
      · exact hRecorded
      · rename_i m hRun
        have hLong : 64 ≤ kept := by
          simpa [Undisturbed, hRun] using hCond
        exact (hKept.setReceipt (hKept.hRun q m .written hRun).1
          ⟨kept, hLong, rfl⟩).2.2 m' hRecorded
      · exact hRecorded

end World

namespace Kept

open World

/- What is read is the digest of a package that was applied. -/
theorem check_receipt
    (hSha : ∀ bytes, (site.lib.sha256 bytes).length = 32)
    (hKept : Kept site s₀ w)
    (hUnheld : w.Unheld m)
    {entry : Entry}
    (hEntry : w.receipt m = some entry) :
    ∃ m', w.Applied m' ∧ m'.packageId = m.packageId ∧
      (check (some entry) m.sha256 = .ok true ∧
          m'.sha256 = m.sha256 ∧ Holds m'.sha256 entry ∨
        m' ≠ m ∧ ∃ failure,
          check (some entry) m.sha256 = .error failure) := by
  have hHex (m' : MediaPackage site.lib) : Hex m'.sha256 :=
    hex_hexDigest (hSha _)
  rcases hKept.hReceipt m.packageId entry hEntry with
    ⟨m', hId, hApplied, hHolds | ⟨rfl, q, hCreated⟩⟩
  · refine ⟨m', hApplied, hId, ?_⟩
    have hCheck : check (some entry) m.sha256 = _ :=
      check_holds (hHex m') hHolds
    by_cases hSame : m'.sha256 = m.sha256
    · rw [if_pos hSame] at hCheck
      exact .inl ⟨hCheck, hSame, hHolds⟩
    · rw [if_neg hSame] at hCheck
      exact .inr ⟨fun h => hSame (h ▸ rfl), _, hCheck⟩
  · refine ⟨m', hApplied, hId, .inr ⟨?_, _, check_empty (hHex m)⟩⟩
    rintro rfl
    exact hUnheld q hCreated

/- A run that checks for its receipt. -/
theorem advance_loaded
    (hSha : ∀ bytes, (site.lib.sha256 bytes).length = 32)
    (hKept : Kept site s₀ w)
    (hRun : w.runs p = some ⟨m, .loaded⟩)
    (hCond : w.Undisturbed (.advance p)) :
    Kept site s₀ (w.advance p) := by
  simp only [Undisturbed, hRun] at hCond
  have hTrue (hCheck : check (w.receipt m) m.sha256 = .ok true) :
      Kept site s₀ (w.finish p m (.ok .duplicate)) := by
    apply hKept.finish hRun (by simp)
    · intro failure hError
      cases hError
    · intro hOk
      cases hOk
  cases hReceipt : w.receipt m with
  | none =>
      rw [advance_check hRun hReceipt]
      apply hKept.setRun (m := m)
      · intro m' hCreated
        rw [hRun] at hCreated
        cases hCreated
      · intro r hr
        cases hr
        exact ⟨rfl, trivial⟩
      · intro _ hOpens
        exact hCond.2 hReceipt hOpens
  | some entry =>
      rcases hKept.check_receipt hSha hCond.1 hReceipt with
        ⟨m', hApplied, hId, hCases⟩
      rcases hCases with ⟨hCheck, _⟩ | ⟨hOther, failure, hCheck⟩
      · unfold advance
        rw [hRun]
        simp only [hReceipt, hCheck]
        exact hTrue (hReceipt ▸ hCheck)
      · rw [advance_refuse hRun (hReceipt ▸ hCheck)]
        apply hKept.finish hRun (by simp)
        · intro failure' hError hOpens
          exact ⟨m', hApplied, hId, hOther⟩
        · intro hOk
          cases hOk

/- A run whose receipt was there when it was to create it. -/
theorem advance_found
    (hSha : ∀ bytes, (site.lib.sha256 bytes).length = 32)
    (hKept : Kept site s₀ w)
    (hRun : w.runs p = some ⟨m, .found⟩)
    (hCond : w.Undisturbed (.advance p)) :
    Kept site s₀ (w.advance p) := by
  simp only [Undisturbed, hRun] at hCond
  rcases hKept.hRun p m .found hRun with ⟨hApplied, hSome⟩
  rcases Option.ne_none_iff_exists'.mp hSome with
    ⟨entry, hReceipt⟩
  rcases hKept.check_receipt hSha hCond hReceipt with
    ⟨m', hApplied', hId, hCases⟩
  have hSame : m' = m :=
    hKept.hOne m' m (.inl hApplied') (.inl hApplied) hId
  rcases hCases with ⟨hCheck, _, hHolds⟩ | ⟨hOther, _⟩
  · unfold advance
    rw [hRun]
    simp only [hReceipt, hCheck]
    apply hKept.finish hRun (by simp)
    · intro failure hError
      cases hError
    · intro _
      rw [hSame] at hHolds
      exact ⟨hApplied, entry, hReceipt, hHolds⟩
  · exact absurd hSame hOther

/- Every step of a run, where it is not disturbed. -/
theorem advance
    (hSha : ∀ bytes, (site.lib.sha256 bytes).length = 32)
    (hIdempotent : site.Idempotent)
    (hKept : Kept site s₀ w)
    (hCond : w.Undisturbed (.advance p)) :
    Kept site s₀ (w.advance p) := by
  cases hRun : w.runs p with
  | none =>
      rw [advance_none hRun]
      exact hKept
  | some run =>
      rcases run with ⟨m, stage⟩
      have hNotCreated (hStage : stage ≠ .created)
          (m' : MediaPackage site.lib)
          (hCreated : w.runs p = some ⟨m', .created⟩) :
          w.Recorded m' := by
        rw [hRun] at hCreated
        cases hCreated
        exact absurd rfl hStage
      have hAlone (hStage : stage ≠ .loaded) :=
        hKept.alone hRun hStage
      cases stage with
      | loaded => exact hKept.advance_loaded hSha hRun hCond
      | checked =>
          cases hDecrypt : site.decrypt m with
          | ok result =>
              have hNext := hKept.applied hIdempotent hRun hDecrypt
              rw [advance_apply hRun hDecrypt]
              apply hNext.setRun (m := m)
              · exact fun m' h =>
                  absurd (hRun.symm.trans h) (by simp)
              · intro r hr
                cases hr
                exact ⟨rfl, List.mem_append_right _
                  (List.mem_singleton_self _)⟩
              · intro _ hOpens
                exact hNext.alone hRun (by simp) hOpens
          | error failure =>
              unfold World.advance
              rw [hRun]
              simp only [hDecrypt]
              apply hKept.finish hRun (by simp)
              · rintro _ _ ⟨result, hOk⟩
                rw [hOk] at hDecrypt
                cases hDecrypt
              · intro hOk
                cases hOk
      | applied =>
          have hApplied := hKept.hRun p m .applied hRun
          cases hReceipt : w.receipt m with
          | none =>
              rw [advance_create hRun hReceipt]
              exact hKept.created hRun hReceipt
          | some entry =>
              unfold World.advance
              rw [hRun]
              simp only [hReceipt]
              apply hKept.setRun (m := m)
                (hNotCreated (by simp))
              · intro r hr
                cases hr
                exact ⟨rfl, hApplied, by simp [hReceipt]⟩
              · intro _ hOpens
                exact hAlone (by simp) hOpens
      | found => exact hKept.advance_found hSha hRun hCond
      | created =>
          have hFull : Holds m.sha256
              (.regular (receiptBytes m.sha256)) :=
            ⟨(receiptBytes m.sha256).length + 64, by omega, by
              rw [List.take_of_length_le (by omega)]⟩
          rcases hKept.setReceipt (hKept.hRun p m .created hRun).1
            hFull with ⟨hNext, hRecorded, _⟩
          unfold World.advance
          rw [hRun]
          apply hNext.setRun (m := m)
          · intro m' hCreated
            cases hRun.symm.trans hCreated
            exact hRecorded
          · intro r hr
            cases hr
            exact ⟨rfl, hRecorded⟩
          · intro _ hOpens
            exact hNext.alone hRun (by simp) hOpens
      | written =>
          unfold World.advance
          rw [hRun]
          apply hKept.finish hRun (by simp)
          · intro failure hError
            cases hError
          · intro _
            exact hKept.hRun p m .written hRun

theorem crash
    (hKept : Kept site s₀ w)
    {kept : Nat}
    (hCond : w.Undisturbed (.crash p kept)) :
    Kept site s₀ (w.crash p kept) := by
  have hOver {w' : World site.lib S}
      (hKept' : Kept site s₀ w')
      (hNot : ∀ m', w'.runs p ≠ some ⟨m', .created⟩) :
      Kept site s₀ (w'.setRun p none) := by
    rcases hLast : w'.runs p with _ | ⟨m', stage⟩
    · have hSame : w'.setRun p none = w' := by
        unfold World.setRun
        have hRuns : (fun q => if q = p then none else w'.runs q) =
            w'.runs := by
          funext q
          by_cases hq : q = p
          · rw [if_pos hq, hq, hLast]
          · rw [if_neg hq]
        rw [hRuns]
      rw [hSame]
      exact hKept'
    · apply hKept'.setRun (m := m')
      · intro m₁ hCreated
        exact absurd hCreated (hNot m₁)
      · intro r hr
        cases hr
      · rintro ⟨r, hr, _⟩
        cases hr
  unfold World.crash
  split
  · exact hKept
  · rename_i m hRun
    have hLong : 64 ≤ kept := by
      simpa [Undisturbed, hRun] using hCond
    apply hOver (hKept.setReceipt
      (hKept.hRun p m .written hRun).1 ⟨kept, hLong, rfl⟩).1
    intro m' hCreated
    cases hRun.symm.trans hCreated
  · apply hOver hKept
    intro m' hCreated
    simp [Undisturbed, hCreated] at hCond

/- What is kept is kept by a step that is not disturbed. -/
theorem step
    (hSha : ∀ bytes, (site.lib.sha256 bytes).length = 32)
    (hIdempotent : site.Idempotent)
    (hKept : Kept site s₀ w)
    (hNumbered : w.Numbered)
    {a : Action}
    (hCond : w.Undisturbed a) :
    Kept site s₀ (w.step a) := by
  cases a with
  | begin file =>
      rw [step_begin]
      unfold begin
      have hNext : Kept site s₀
          ({ w with next := w.next + 1 } : World site.lib S) :=
        ⟨hKept.hOne, hKept.hRun, hKept.hReceipt, hKept.hRefused,
          hKept.hApplied, hKept.hOpens, hKept.hStore⟩
      have hFresh := hNumbered.hRuns w.next (Nat.le_refl _)
      simp only
      split
      · rename_i m hLoad
        apply hNext.setRun (m := m)
        · intro m' hCreated
          rw [hFresh] at hCreated
          cases hCreated
        · intro r hr
          cases hr
          exact ⟨rfl, trivial⟩
        · rintro ⟨r, hr, hStage⟩
          cases hr
          exact absurd rfl hStage
      · apply hNext.note
        · intro m' hEvent
          cases hEvent
        · intro q m' failure' hEvent
          cases hEvent
        · intro q m' hEvent
          cases hEvent
  | advance q => exact hKept.advance hSha hIdempotent hCond
  | crash q kept => exact hKept.crash hCond

end Kept

end Media

end ResultTransfer

end TrueNorth
