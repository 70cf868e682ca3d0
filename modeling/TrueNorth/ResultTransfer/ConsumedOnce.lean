import Mathlib.Data.List.Sort
import TrueNorth.Lib.JsonRecords
import TrueNorth.ResultTransfer.Interleavings

/-
  Packages are consumed once in every run that is not
  disturbed, and not in a run that is.

  Key definitions include:
    * `Settled`

  Main theorems:
    * `kept_run`
    * `consumed_once`
    * `Interrupted.stuck`
-/

--------
-- Whole Runs
--------

namespace TrueNorth

namespace ResultTransfer

namespace Media

variable {S : Type}
variable {site : Site S}
variable {s₀ : S}
variable {w : World site.lib S}
variable {p : Nat}
variable {m : MediaPackage site.lib}
variable {stage : Stage}

theorem kept_start :
    Kept site s₀ (.start site.lib s₀) where
  hOne := by
    rintro m m' (hApplied | ⟨_, q, stage, hRun, _⟩) _ _
    · cases hApplied
    · cases hRun
  hRun := by
    intro q m stage hRun
    cases hRun
  hReceipt := by
    intro id entry hEntry
    cases hEntry
  hRefused := by
    intro q m failure hEnded
    cases hEnded
  hApplied := by
    intro q m hEnded
    cases hEnded
  hOpens := by
    intro m hApplied
    cases hApplied
  hStore := by
    refine ⟨[], List.nodup_nil, rfl, ?_⟩
    intro result
    constructor
    · intro hMem
      cases hMem
    · rintro ⟨m, hApplied, _⟩
      cases hApplied

theorem Kept.consistent
    (hKept : Kept site s₀ w) :
    w.Consistent s₀ where
  hOne := by
    intro m m' hApplied hApplied' hId
    exact congrArg MediaPackage.content
      (hKept.hOne m m' (.inl hApplied) (.inl hApplied') hId)
  hAnswered := by
    intro q m failure hEnded hOpens
    rcases hKept.hRefused q m failure hEnded hOpens with
      ⟨m', hApplied, hId, hNe⟩
    exact ⟨m', hApplied, hId,
      fun h => hNe (MediaPackage.eq_of_content h)⟩
  hStore := hKept.hStore

/- What a run that is not disturbed keeps, all along. -/
theorem kept_run
    (hSha : ∀ bytes, (site.lib.sha256 bytes).length = 32)
    (hIdempotent : site.Idempotent)
    (hKept : Kept site s₀ w)
    (hNumbered : w.Numbered)
    {actions : List Action}
    (hMeets :
      Runs.Meets World.step World.Undisturbed w actions) :
    Kept site s₀ (Runs.run World.step w actions) ∧
      (Runs.run World.step w actions).Numbered :=
  hMeets.invariant
    (fun w' : World site.lib S => Kept site s₀ w' ∧ w'.Numbered)
    (fun _ a hCond hInv =>
      ⟨hInv.1.step hSha hIdempotent hInv.2 hCond, hInv.2.step a⟩)
    ⟨hKept, hNumbered⟩

/-
  A package that is recorded when there are `n` runs: each
  later run on it is yet to check, or found a duplicate.
-/
structure Settled
    (w : World site.lib S)
    (n : Nat)
    (m : MediaPackage site.lib) : Prop where
  hRecorded : w.Recorded m
  hRuns : ∀ q stage, n ≤ q → w.runs q = some ⟨m, stage⟩ →
    stage = .loaded
  hAnswers : ∀ q answer, n ≤ q → .ended q m answer ∈ w.log →
    answer = .ok .duplicate

namespace Settled

open World

theorem start
    (hRecorded : w.Recorded m)
    (hNumbered : w.Numbered) :
    Settled w w.next m where
  hRecorded := hRecorded
  hRuns := by
    intro q stage hq hRun
    rw [hNumbered.hRuns q hq] at hRun
    cases hRun
  hAnswers := by
    intro q answer hq hEnded
    exact absurd (hNumbered.hEnded q m answer hEnded) (by omega)

theorem step
    {n : Nat}
    (hSha : ∀ bytes, (site.lib.sha256 bytes).length = 32)
    (hSettled : Settled w n m)
    (hKept : Kept site s₀ w)
    {a : Action}
    (hCond : w.Undisturbed a) :
    Settled (w.step a) n m := by
  have hRecorded := hSettled.hRecorded.step hKept hCond
  cases a with
  | begin file =>
      rw [step_begin] at hRecorded ⊢
      rcases (begin_cases (w := w) file).2.2 with
        ⟨m', hRuns, hLog⟩ | ⟨failure, hRuns, hLog⟩
      · refine ⟨hRecorded, ?_, ?_⟩
        · intro q stage hq hRun
          rw [hRuns] at hRun
          by_cases hSame : q = w.next
          · rw [hSame, runs_setRun_self] at hRun
            cases hRun
            rfl
          · rw [runs_setRun_ne hSame] at hRun
            exact hSettled.hRuns q stage hq hRun
        · rw [hLog]
          exact hSettled.hAnswers
      · refine ⟨hRecorded, ?_, ?_⟩
        · rw [hRuns]
          exact hSettled.hRuns
        · intro q answer hq hEnded
          rw [hLog] at hEnded
          exact hSettled.hAnswers q answer hq
            ((List.mem_append.mp hEnded).resolve_right (by simp))
  | advance q =>
      rw [step_advance] at hRecorded ⊢
      cases hRun : w.runs q with
      | none =>
          rw [advance_none hRun]
          exact hSettled
      | some run =>
          rcases run with ⟨m', stage⟩
          by_cases hLater : n ≤ q ∧ m' = m
          · -- a later run on the same bytes: it reads the record
            rcases hLater with ⟨hq, rfl⟩
            cases hSettled.hRuns q stage hq hRun
            rcases hSettled.hRecorded.2 with
              ⟨entry, hEntry, hHolds⟩
            have hCheck :
                check (some entry) m'.sha256 = .ok true :=
               (check_holds (hex_hexDigest (hSha _))
                hHolds).trans (if_pos rfl)
            have hAdvance : w.advance q =
                w.finish q m' (.ok .duplicate) := by
              unfold advance
              rw [hRun]
              simp only [hEntry, hCheck]
            rw [hAdvance] at hRecorded ⊢
            refine ⟨hRecorded, ?_, ?_⟩
            · intro r stage hr hRun'
              by_cases hSame : r = q
              · rw [hSame] at hRun'
                cases (runs_setRun_self (w := w) (p := q)).symm.trans
                  hRun'
              · exact hSettled.hRuns r stage hr
                  ((runs_setRun_ne hSame).symm.trans hRun')
            · intro r answer hr hEnded
              rcases List.mem_append.mp hEnded with hOld | hNew
              · exact hSettled.hAnswers r answer hr hOld
              · cases List.mem_singleton.mp hNew
                rfl
          · have hOther {run : Option (Run site.lib)}
                (hPackage : ∀ r, run = some r → r.package = m')
                {r : Nat}
                {stage' : Stage}
                (hr : n ≤ r)
                (hRun' : (w.setRun q run).runs r =
                  some ⟨m, stage'⟩) :
                stage' = .loaded := by
              by_cases hSame : r = q
              · rw [hSame, runs_setRun_self] at hRun'
                exact absurd
                  ⟨hSame ▸ hr, (hPackage _ hRun').symm⟩ hLater
              · rw [runs_setRun_ne hSame] at hRun'
                exact hSettled.hRuns r stage' hr hRun'
            rcases (advance_cases hRun).2 with
              ⟨answer, hRuns, hLog⟩ | ⟨stage', _, hRuns, hLog⟩
            · refine ⟨hRecorded, ?_, ?_⟩
              · intro r stage' hr hRun'
                rw [hRuns] at hRun'
                exact hOther (by simp) hr hRun'
              · intro r answer' hr hEnded
                rw [hLog] at hEnded
                rcases List.mem_append.mp hEnded with hOld | hNew
                · exact hSettled.hAnswers r answer' hr hOld
                · cases List.mem_singleton.mp hNew
                  exact absurd ⟨hr, rfl⟩ hLater
            · refine ⟨hRecorded, ?_, ?_⟩
              · intro r stage'' hr hRun'
                rw [hRuns] at hRun'
                exact hOther (by simp) hr hRun'
              · intro r answer hr hEnded
                apply hSettled.hAnswers r answer hr
                rcases hLog with hLog | hLog
                · rw [hLog] at hEnded
                  exact hEnded
                · rw [hLog] at hEnded
                  exact (List.mem_append.mp hEnded).resolve_right
                    (by simp)
  | crash q kept =>
      rw [step_crash] at hRecorded ⊢
      rcases crash_cases (w := w) (p := q) kept with
        ⟨_, hLog, hRuns⟩
      refine ⟨hRecorded, ?_, ?_⟩
      · intro r stage hr hRun
        rw [hRuns] at hRun
        by_cases hSame : r = q
        · rw [hSame, runs_setRun_self] at hRun
          cases hRun
        · rw [runs_setRun_ne hSame] at hRun
          exact hSettled.hRuns r stage hr hRun
      · rw [hLog]
        exact hSettled.hAnswers

/- A settled package stays so in a run that is not disturbed. -/
theorem run
    {n : Nat}
    (hSha : ∀ bytes, (site.lib.sha256 bytes).length = 32)
    (hIdempotent : site.Idempotent)
    (hSettled : Settled w n m)
    (hKept : Kept site s₀ w)
    (hNumbered : w.Numbered)
    {actions : List Action}
    (hMeets :
      Runs.Meets World.step World.Undisturbed w actions) :
    Settled (Runs.run World.step w actions) n m := by
  have hInv := hMeets.invariant
    (fun w' : World site.lib S =>
      (Kept site s₀ w' ∧ w'.Numbered) ∧ Settled w' n m)
    (fun _ a hCond hInv =>
      ⟨⟨hInv.1.1.step hSha hIdempotent hInv.1.2 hCond,
        hInv.1.2.step a⟩,
        hInv.2.step hSha hInv.1.1 hCond⟩)
    ⟨⟨hKept, hNumbered⟩, hSettled⟩
  exact hInv.2

end Settled

/- A run that takes its steps returns. -/
theorem ends
    {actions : List Action}
    (hNumbered : w.Numbered)
    (hRun : w.runs p = some ⟨m, stage⟩)
    (hSteps : stage.left ≤
      actions.countP (Action.isAdvance p))
    (hGoes :
      actions.all (fun a => !a.isCrash p) = true) :
    ∃ answer,
      .ended p m answer ∈
        (Runs.run World.step w actions).log := by
  induction actions generalizing w stage with
  | nil =>
      rw [List.countP_nil] at hSteps
      cases stage with
      | loaded => cases hSteps
      | checked => cases hSteps
      | applied => cases hSteps
      | found => cases hSteps
      | created => cases hSteps
      | written => cases hSteps
  | cons a actions ih =>
      rw [List.all_cons, Bool.and_eq_true] at hGoes
      rw [Runs.run_cons]
      have hLess : p < w.next := by
        by_contra hNot
        rw [hNumbered.hRuns p (by omega)] at hRun
        cases hRun
      -- a step of something else leaves the run where it is
      have hRest
          (hStays : (w.step a).runs p = some ⟨m, stage⟩)
          (hNot : Action.isAdvance p a = false) :
          ∃ answer,
            .ended p m answer ∈
              (Runs.run World.step (w.step a) actions).log := by
        rw [List.countP_cons_of_neg (by simp [hNot])] at hSteps
        exact ih (hNumbered.step a) hStays hSteps hGoes.2
      cases a with
      | begin file =>
          apply hRest _ rfl
          rw [World.step_begin]
          rcases (World.begin_cases (w := w) file).2.2 with
            ⟨m', hRuns, _⟩ | ⟨failure, hRuns, _⟩
          · rw [hRuns, World.runs_setRun_ne (by omega), hRun]
          · rw [hRuns, hRun]
      | crash q kept =>
          have hNe : p ≠ q := by
            rintro rfl
            simp [Action.isCrash] at hGoes
          apply hRest _ rfl
          rw [World.step_crash, (World.crash_cases kept).2.2,
            World.runs_setRun_ne hNe, hRun]
      | advance q =>
          by_cases hq : q = p
          · rw [hq] at hSteps ⊢
            rw [World.step_advance]
            rw [List.countP_cons_of_pos
              (by simp [Action.isAdvance])] at hSteps
            rcases (World.advance_cases hRun).2 with
              ⟨answer, _, hLog⟩ | ⟨stage', hLeft, hRuns, _⟩
            · have hEnded : .ended p m answer ∈
                  (w.advance p).log := by
                rw [hLog]
                exact List.mem_append_right _
                  (List.mem_singleton_self _)
              exact ⟨answer, Runs.run_invariant
                (fun w' : World site.lib S =>
                  .ended p m answer ∈ w'.log)
                (fun _ a h => World.log_step h a) hEnded actions⟩
            · have hStays : (w.step (.advance p)).runs p =
                  some ⟨m, stage'⟩ := by
                rw [World.step_advance, hRuns]
                exact World.runs_setRun_self
              exact ih (hNumbered.step (.advance p)) hStays
                (by omega) hGoes.2
          · apply hRest
            · rw [World.step_advance]
              cases hOther : w.runs q with
              | none => rw [World.advance_none hOther, hRun]
              | some run =>
                  rcases (World.advance_cases hOther).2 with
                    ⟨_, hRuns, _⟩ | ⟨_, _, hRuns, _⟩
                  · rw [hRuns, World.runs_setRun_ne (Ne.symm hq),
                      hRun]
                  · rw [hRuns, World.runs_setRun_ne (Ne.symm hq),
                      hRun]
            · exact decide_eq_false hq

/-
  Packages are consumed once in every run whose steps are
  not disturbed: no crash leaves a receipt without its
  digest, no run reads one that is to be written, and two
  contents of one id are not consumed at a time.
-/
theorem consumed_once
    (site : Site S)
    (s₀ : S)
    (actions : List Action)
    (hSha : ∀ bytes, (site.lib.sha256 bytes).length = 32)
    (hIdempotent : site.Idempotent)
    (hMeets : Runs.Meets World.step World.Undisturbed
      (.start site.lib s₀) actions) :
    ConsumedOnce site s₀ actions := by
  rintro before after rfl
  rw [Runs.meets_append] at hMeets
  have hBefore := kept_run hSha hIdempotent kept_start
    World.numbered_start hMeets.1
  refine ⟨hBefore.1.consistent, ?_, ?_⟩
  · intro p m stage hRun hSteps hGoes
    unfold World.after
    rw [Runs.run_append]
    apply ends hBefore.2 hRun _ hGoes
    refine Nat.le_trans ?_ hSteps
    cases stage with
    | loaded => decide
    | checked => decide
    | applied => decide
    | found => decide
    | created => decide
    | written => decide
  · intro q p m m' answer hFirst hLater hEnded hContent
    rw [MediaPackage.eq_of_content hContent] at hEnded
    have hSettled := Settled.start
      (hBefore.1.hApplied q m hFirst) hBefore.2
    have hAfter := hSettled.run hSha hIdempotent hBefore.1
      hBefore.2 hMeets.2
    unfold World.after at hEnded
    rw [Runs.run_append] at hEnded
    exact hAfter.hAnswers p answer hLater hEnded

end Media

end ResultTransfer

end TrueNorth

--------
-- A Receipt That Was Not Written
--------

namespace TrueNorth

namespace ResultTransfer

namespace Media

namespace Interrupted

variable {S : Type}
variable {site : Site S}
variable {s₀ : S}
variable {file : MediaFile}
variable {m : MediaPackage site.lib}

/-
  A run stops after it created its receipt, and the package
  is consumed again.
-/
def actions (file : MediaFile) : List Action :=
  [.begin file, .advance 0, .advance 0, .advance 0,
    .crash 0 0, .begin file, .advance 1]

/- Three steps: the package is applied, its receipt empty. -/
theorem created_receipt
    {w : World site.lib S}
    {p : Nat}
    (hRun : w.runs p = some ⟨m, .loaded⟩)
    (hNone : w.receipt m = none)
    {result : DecryptedResult}
    (hOpens : site.decrypt m = .ok result) :
    ∃ w' : World site.lib S,
      ((w.advance p).advance p).advance p = w' ∧
        w'.runs p = some ⟨m, .created⟩ ∧
        w'.receipt m = some (.regular []) ∧
        w'.next = w.next ∧
        w'.log = w.log ++ [.applied m] := by
  have hCheck := World.advance_check hRun hNone
  have hChecked :
      (w.advance p).runs p = some ⟨m, .checked⟩ := by
    rw [hCheck]
    exact World.runs_setRun_self
  have hApply := World.advance_apply hChecked hOpens
  have hApplied :
      ((w.advance p).advance p).runs p = some ⟨m, .applied⟩ := by
    rw [hApply]
    exact World.runs_setRun_self
  have hStill : ((w.advance p).advance p).receipt m = none := by
    rw [hApply, hCheck]
    exact hNone
  refine ⟨_, rfl, ?_⟩
  rw [World.advance_create hApplied hStill, hApply, hCheck]
  exact ⟨World.runs_setRun_self, Dict.get?_set_self _ _ _, rfl,
    rfl⟩

/- The package was applied, and is refused from then on. -/
theorem stuck
    (hSha : ∀ bytes, (site.lib.sha256 bytes).length = 32)
    (hLoad : site.load file = .ok m)
    {result : DecryptedResult}
    (hOpens : site.decrypt m = .ok result) :
    (World.after site s₀ (actions file)).log =
      [.applied m,
        .ended 1 m (refusal ("package_id was already consumed " ++
          "with different content"))] := by
  have hBegin (w : World site.lib S) :
      w.begin file =
        ({ w with next := w.next + 1 } :
          World site.lib S).setRun w.next
            (some ⟨m, .loaded⟩) := by
    simp only [World.begin, hLoad]
  have hLoaded : ((World.start site.lib s₀).begin file).runs 0 =
      some ⟨m, .loaded⟩ := by
    rw [hBegin]
    exact World.runs_setRun_self
  have hNone : ((World.start site.lib s₀).begin file).receipt m =
      none := by
    rw [hBegin]
    rfl
  rcases created_receipt hLoaded hNone hOpens with
    ⟨w, hThree, hCreated, hEmpty, hNext, hLog⟩
  have hLog' : w.log = [.applied m] := by
    rw [hLog, hBegin]
    rfl
  have hNext' : w.next = 1 := by
    rw [hNext, hBegin]
    rfl
  have hGone : w.crash 0 0 = w.setRun 0 none := by
    unfold World.crash
    rw [hCreated]
  have hAgain : ((w.setRun 0 none).begin file).runs 1 =
      some ⟨m, .loaded⟩ := by
    rw [hBegin]
    exact if_pos hNext'.symm
  have hRefused :
      check (((w.setRun 0 none).begin file).receipt m)
          m.sha256 =
        refusal ("package_id was already consumed with " ++
          "different content") := by
    have hSame : ((w.setRun 0 none).begin file).receipt m =
        some (.regular []) := by
      rw [hBegin]
      exact hEmpty
    rw [hSame]
    exact check_empty (hex_hexDigest (hSha _))
  unfold World.after actions
  simp only [Runs.run_cons, Runs.run_nil, World.step_begin,
    World.step_advance, World.step_crash]
  rw [hThree, hGone, World.advance_refuse hAgain hRefused, hBegin]
  change w.log ++ [_] = _
  rw [hLog']
  rfl

/- So a package that opens is not consumed once. -/
theorem not_consumed_once
    (hSha : ∀ bytes, (site.lib.sha256 bytes).length = 32)
    (hLoad : site.load file = .ok m)
    {result : DecryptedResult}
    (hOpens : site.decrypt m = .ok result) :
    ¬ ConsumedOnce site s₀ (actions file) := by
  intro hOnce
  have hLog : (World.after site s₀ (actions file)).log = _ :=
    stuck hSha hLoad hOpens
  have hConsistent :=
    (hOnce (actions file) [] (List.append_nil _).symm).1
  rcases hConsistent.hAnswered 1 m _ (by
      rw [hLog]
      exact List.mem_cons_of_mem _ (List.mem_singleton_self _))
    ⟨result, hOpens⟩ with
    ⟨m', hApplied, _, hOther⟩
  unfold World.Applied at hApplied
  rw [hLog] at hApplied
  simp only [List.mem_cons, List.not_mem_nil, or_false,
    Event.applied.injEq, reduceCtorEq] at hApplied
  exact hOther (congrArg MediaPackage.content hApplied)

/- A run that goes to its end. -/
def toItsEnd (file : MediaFile) : List Action :=
  [.begin file, .advance 0, .advance 0, .advance 0,
    .advance 0, .advance 0]

theorem toItsEnd_undisturbed
    (hLoad : site.load file = .ok m)
    {result : DecryptedResult}
    (hOpens : site.decrypt m = .ok result) :
    Runs.Meets World.step World.Undisturbed
      (.start site.lib s₀) (toItsEnd file) := by
  have hBegin : (World.start site.lib s₀).begin file =
      ({ World.start site.lib s₀ with next := 1 } :
        World site.lib S).setRun 0 (some ⟨m, .loaded⟩) := by
    simp only [World.begin, hLoad]
    rfl
  generalize hw : (World.start site.lib s₀).begin file = w
    at hBegin
  have hRun : w.runs 0 = some ⟨m, .loaded⟩ := by
    rw [hBegin]
    exact World.runs_setRun_self
  have hNone : w.receipt m = none := by
    rw [hBegin]
    rfl
  have hStages {q : Nat} {m' : MediaPackage site.lib}
      {stage : Stage}
      (hOther : w.runs q = some ⟨m', stage⟩) :
      stage = .loaded := by
    rw [hBegin] at hOther
    by_cases hq : q = 0
    · rw [hq, World.runs_setRun_self] at hOther
      cases hOther
      rfl
    · rw [World.runs_setRun_ne hq] at hOther
      cases hOther
  have hAlone : w.Alone m := by
    rintro m' (hApplied | ⟨_, q, stage, hOther, hStage⟩) _
    · have hLog : w.log = [] := by
        rw [hBegin]
        rfl
      unfold World.Applied at hApplied
      rw [hLog] at hApplied
      cases hApplied
    · exact absurd (hStages hOther) hStage
  have hUnheld : w.Unheld m := by
    intro q hCreated
    cases hStages hCreated
  have hCheck := World.advance_check hRun hNone
  have hChecked :
      (w.advance 0).runs 0 = some ⟨m, .checked⟩ := by
    rw [hCheck]
    exact World.runs_setRun_self
  have hApply := World.advance_apply hChecked hOpens
  have hApplied :
      ((w.advance 0).advance 0).runs 0 = some ⟨m, .applied⟩ := by
    rw [hApply]
    exact World.runs_setRun_self
  rcases created_receipt hRun hNone hOpens with
    ⟨w', hThree, hCreated, _, _, _⟩
  have hWritten : (w'.advance 0).runs 0 = some ⟨m, .written⟩ := by
    unfold World.advance
    rw [hCreated]
    exact World.runs_setRun_self
  unfold toItsEnd
  simp only [Runs.Meets, World.step_begin, World.step_advance,
    World.Undisturbed, hw, hRun, hChecked, hApplied, hThree,
    hCreated, hWritten]
  exact ⟨trivial, ⟨hUnheld, fun _ _ => hAlone⟩, trivial, trivial,
    trivial, trivial, trivial⟩

--------
-- One Package
--------

open Checks Texts TwoEnclaves

/- A signature is its key, and nothing is ciphered. -/
def lib : Libraries :=
  { TwoEnclaves.lib with
    sha256 := fun _ => List.replicate 32 0
    sign := fun key _ => key
    verifies := fun key value _ => value = key
    encrypt := fun _ _ plain _ => plain
    decrypt := fun _ _ sealed _ => some sealed }

theorem documented : lib.Documented := by
  have hSame : lib.uuidOf = TwoEnclaves.lib.uuidOf ∧
      lib.intOf = TwoEnclaves.lib.intOf ∧
      lib.datetimeOf = TwoEnclaves.lib.datetimeOf ∧
      lib.datetimeText = TwoEnclaves.lib.datetimeText ∧
      lib.floatText = TwoEnclaves.lib.floatText :=
    ⟨rfl, rfl, rfl, rfl, rfl⟩
  rcases hSame with ⟨hUuid, hInt, hOf, hText, hFloat⟩
  rcases TwoEnclaves.documented with
    ⟨hUuid', hInt', hDatetime', hFloat'⟩
  constructor
  · rw [hUuid]
    exact hUuid'
  · rw [hInt]
    exact hInt'
  · rw [hOf, hText]
    exact hDatetime'
  · rw [hFloat]
    exact hFloat'

theorem ideal : lib.Ideal where
  hSigningPublic := fun k hLength => hLength
  hExchangePublic := fun k hLength => hLength
  hVerifies := fun k body hLength => decide_eq_true rfl
  hAgree := TwoEnclaves.ideal.hAgree
  hHkdf := TwoEnclaves.ideal.hHkdf
  hOpens := fun key nonce plain aad _ _ => rfl
  hSealed := by
    intro key nonce aad key' nonce' plain aad' opened hOpened
    exact (Option.some.inj hOpened).symm

theorem created :
    ∃ package projection,
      createPackage lib draw claim request =
        .ok (package, projection) := by
  have hOk : (createPackage lib draw claim request).isOk = true := by
    decide
  cases hCreated : createPackage lib draw claim request with
  | error e =>
      rw [hCreated] at hOk
      cases hOk
  | ok p => exact ⟨p.1, p.2, rfl⟩

/- The members of the claim, by key. -/
def members : List (String × Json) :=
  (Json.sortedMembers (claim.modelDump lib)).insertionSort
    (fun m m' => m.1 ≤ m'.1)

def plaintext : Bytes :=
  utf8 ((Json.obj members).write lib.floatText)

def package : List (String × Json) :=
  header lib draw request "2026-10-23T14:30:00Z" recipientKey
      (.of claim.toResultClaim) ++
    [("ciphertext", .str (b64 plaintext))] ++
    [("signature", .obj (signature lib signingKey []))]

def packageFile : MediaFile where
  name := Uuid.text 5 ++ packageSuffix
  entry := .regular (utf8 ((Json.obj package).write lib.floatText))

theorem members_eq :
    (Json.obj (claim.modelDump lib)).sorted = .obj members := by
  have hKeys : ((Json.sortedMembers
      (claim.modelDump lib)).map Prod.fst).Nodup := by
    decide
  have hOrder : members.Pairwise
      (fun m m' => decide (m.1 ≤ m'.1) = true) := by
    decide
  rw [Json.sorted, Json.inOrder_eq_of_perm
    (List.perm_insertionSort
      (fun m m' : String × Json => m.1 ≤ m'.1) _).symm hKeys]
  exact congrArg Json.obj (List.mergeSort_of_pairwise hOrder)

/- The package that is created is that one. -/
theorem package_eq
    (a : Assembly lib draw claim request) :
    a.package = package := by
  have hCreatedAt : a.createdAt = "2026-10-23T14:30:00Z" := by
    have hTime : (request.createdAt.getD draw.now).utcText? =
        some "2026-10-23T14:30:00Z" := by
      decide
    exact Option.some.inj (a.hCreatedAt.symm.trans hTime)
  have hSigning : a.signing = signingKey :=
    Except.ok.inj (a.hSigning.symm.trans (rawKey_b64 rfl _))
  have hRecipient : a.recipient = recipientKey :=
    Except.ok.inj (a.hRecipient.symm.trans (rawKey_b64 rfl _))
  have hPlaintext : a.plaintext = plaintext := by
    rw [← (canonical_eq_ok.mp a.hPlaintext).2, members_eq]
    rfl
  unfold Assembly.package Assembly.unsigned Assembly.header
  rw [hCreatedAt, hSigning, hRecipient]
  have hSealed : a.sealed = plaintext := hPlaintext
  rw [hSealed]
  rfl

theorem package_tidy : (Json.obj package).Tidy := by
  unfold package
  rw [Json.Tidy]
  refine ⟨by decide, ?_⟩
  simp [Json.TidyMembers, Json.TidyMember, Json.Tidy, header,
    uuidJson, ResultProjection.modelDump, signature]

/- Base64 has two digits a byte at most, and a last group. -/
theorem length_encode
    (bytes : Bytes) :
    (Base64.encode bytes).length ≤ 2 * bytes.length + 2 := by
  fun_induction Base64.encode bytes with
  | case1 a b c rest ih =>
      simp only [List.length_cons]
      omega
  | case2 a b => simp
  | case3 a => simp
  | case4 => simp

theorem length_quote
    (text : String) :
    (JsonText.quote text).length ≤ 6 * text.toList.length + 2 := by
  have hEscape (c : Char) : (JsonText.escape c).length ≤ 6 := by
    unfold JsonText.escape
    repeat' split
    all_goals simp
  have hAll (cs : List Char) :
      (cs.flatMap JsonText.escape).length ≤ 6 * cs.length := by
    induction cs with
    | nil => simp
    | cons c cs ih =>
        rw [List.flatMap_cons, List.length_append,
          List.length_cons]
        have hFirst := hEscape c
        omega
  have hText := hAll text.toList
  unfold JsonText.quote
  rw [List.length_cons, List.length_append, List.length_singleton]
  omega

theorem length_utf8
    (text : List Char) :
    (utf8 text).length ≤ 4 * text.length := by
  unfold utf8
  induction text with
  | nil => simp
  | cons c text ih =>
      have hFirst : (String.utf8EncodeChar c).length ≤ 4 := by
        rw [String.length_utf8EncodeChar]
        exact c.utf8Size_le_four
      rw [List.flatMap_cons, List.length_append, List.length_cons]
      omega

/- How long the members are, each with a sign after it. -/
def width (members : List (String × Json)) : Nat :=
  (members.map (fun m =>
    (Json.writeMember lib.floatText m).length + 1)).sum

theorem width_append
    (first rest : List (String × Json)) :
    width (first ++ rest) = width first + width rest := by
  unfold width
  rw [List.map_append, List.sum_append]

theorem length_write
    (members : List (String × Json)) :
    ((Json.obj members).write lib.floatText).length ≤
      width members + 2 := by
  have hMore (rest : List (String × Json)) :
      (Json.moreMembers lib.floatText rest).length =
        width rest + 1 := by
    induction rest with
    | nil => rw [Json.moreMembers]; rfl
    | cons m rest ih =>
        rw [Json.moreMembers, List.length_cons,
          List.length_append, ih]
        unfold width
        rw [List.map_cons, List.sum_cons]
        omega
  cases members with
  | nil => rw [Json.write]; decide
  | cons m rest =>
      rw [Json.write, List.length_cons, List.length_append, hMore]
      unfold width
      rw [List.map_cons, List.sum_cons]
      omega

theorem packageFile_short :
    (utf8 ((Json.obj package).write lib.floatText)).length ≤
      maxPackageBytes := by
  have hPlaintext : plaintext.length ≤ 1000 := by
    decide +kernel
  have hFront : width (header lib draw request
      "2026-10-23T14:30:00Z" recipientKey
        (.of claim.toResultClaim)) ≤ 2000 := by
    decide +kernel
  have hBack : width [("signature",
      .obj (signature lib signingKey []))] ≤ 1000 := by
    decide +kernel
  have hName : (JsonText.quote "ciphertext").length = 12 := by
    decide
  have hSealed : width [("ciphertext", .str (b64 plaintext))] ≤
      20000 := by
    have hQuote := length_quote (b64 plaintext)
    have hEncode := length_encode plaintext
    unfold b64 at hQuote
    rw [String.toList_ofList] at hQuote
    unfold width b64
    rw [List.map_singleton, List.sum_singleton, Json.writeMember,
      Json.write, List.length_append, List.length_cons, hName]
    omega
  have hWrite := length_write package
  have hUtf8 :=
    length_utf8 ((Json.obj package).write lib.floatText)
  have hWidth : width package ≤ 23000 := by
    unfold package
    rw [width_append, width_append]
    omega
  unfold maxPackageBytes
  omega

/- A store of the ids that were applied. -/
def secret : Site (List Uuid) where
  lib := lib
  trustedSigningPublicKey := b64 signingKey
  recipientPrivateKey := b64 recipientKey
  destinationEnclave := "SECRET"
  apply := fun ids result =>
    if result.packageId ∈ ids then ids
    else ids ++ [result.packageId]

theorem mem_apply
    (ids : List Uuid)
    (result : DecryptedResult) :
    result.packageId ∈ secret.apply ids result := by
  unfold secret
  simp only
  split
  · rename_i hMem
    exact hMem
  · exact List.mem_append_right _ (List.mem_singleton_self _)

theorem idempotent : secret.Idempotent := by
  have hStays (id : Uuid)
      (ids : List Uuid)
      (others : List DecryptedResult)
      (hMem : id ∈ ids) :
      id ∈ others.foldl secret.apply ids := by
    induction others generalizing ids with
    | nil => exact hMem
    | cons other others ih =>
        apply ih
        unfold secret
        simp only
        split
        · exact hMem
        · exact List.mem_append_left _ hMem
  intro ids result others
  exact if_pos (hStays _ _ _ (mem_apply ids result))

/- The package is loaded, and opens to the claim. -/
theorem packageFile_opens :
    ∃ m result,
      secret.load packageFile = .ok m ∧
        secret.decrypt m = .ok result := by
  rcases created with ⟨package', projection, hCreated⟩
  rcases createPackage_eq_ok hCreated with
    ⟨_, a, hPackage, hMinimal⟩
  rw [hPackage] at hMinimal
  have hKey (bytes : Bytes)
      (hLength : bytes.length = 32)
      (field : String) :
      rawKey (.str (b64 bytes)) field = .ok bytes :=
    rawKey_b64 hLength field
  have hSigning : a.signing = signingKey :=
    Except.ok.inj (a.hSigning.symm.trans (hKey _ rfl _))
  have hRecipient : a.recipient = recipientKey :=
    Except.ok.inj (a.hRecipient.symm.trans (hKey _ rfl _))
  have hTrusted : rawKey (.str (b64 signingKey))
      "trusted_signing_public_key" =
        .ok (lib.signingPublic a.signing) := by
    rw [hSigning]
    exact hKey _ rfl _
  have hDestination :
      strip request.destinationEnclave = "SECRET" := by
    decide
  have hVerified :=
    verifyPackage_created ideal a hMinimal hTrusted
  have hDecrypted :=
    decryptPackage_created documented ideal a hMinimal hTrusted
      (hKey recipientKey rfl _) hRecipient
  rw [package_eq a, hDestination] at hVerified hDecrypted
  have hLoads : loads lib
      (utf8 ((Json.obj package).write lib.floatText)) =
        some (.obj package) := by
    unfold loads
    rw [utf8?_utf8, Option.bind_some,
      Json.loads?_write package_tidy]
    rfl
  have hId : packageIdOf package = .ok 5 := by
    have hText : Json.lookup package "package_id" =
        .str (Uuid.text 5) := rfl
    unfold packageIdOf
    rw [hText, packageId?_str, Uuid.parse?_text (by decide)]
  exact ⟨⟨_, package, 5, hLoads, hId⟩, _,
    loadPackage_regular packageFile_short hLoads hId hVerified,
    hDecrypted⟩

/-
  `apply` is idempotent and the package opens; it is applied,
  and its receipt is created and not written.  From then on
  the same bytes are refused.
-/
theorem once_unless_interrupted :
    secret.Idempotent ∧
      (∀ bytes, (secret.lib.sha256 bytes).length = 32) ∧
      (∃ m result,
        secret.load packageFile = .ok m ∧
          secret.decrypt m = .ok result) ∧
      ¬ ConsumedOnce secret [] (actions packageFile) := by
  have hSha (bytes : Bytes) :
      (secret.lib.sha256 bytes).length = 32 :=
    rfl
  rcases packageFile_opens with ⟨m, result, hLoad, hOpens⟩
  exact ⟨idempotent, hSha, ⟨m, result, hLoad, hOpens⟩,
    not_consumed_once hSha hLoad hOpens⟩

end Interrupted

theorem consumed_to_its_end :
    ConsumedOnce Interrupted.secret []
      (Interrupted.toItsEnd Interrupted.packageFile) := by
  rcases Interrupted.packageFile_opens with
    ⟨m, result, hLoad, hOpens⟩
  exact consumed_once Interrupted.secret [] _ (fun _ => rfl)
    Interrupted.idempotent
    (Interrupted.toItsEnd_undisturbed hLoad hOpens)

end Media

end ResultTransfer

end TrueNorth
