import TrueNorth.AuditLog.RunSteps

/-
  No row is missed: wherever a run is, each committed row is
  filed, or comes before the export of its day, or is in
  hand, or is late and before the recount.

  The recount is a comparison of two numbers.  It is enough,
  for as long as no row of the day is gone: the files of a
  day hold each of its rows at most once, so that they hold
  all of them when they hold as many.

  Key definitions include:
    * `Daily.SecureAt`

  Main theorems:
    * `Daily.Sound.next`
    * `Daily.recovers_and_misses_no_row`
-/

--------
-- Rows, as a Run Goes On
--------

namespace TrueNorth

namespace AuditLog

open Checks

variable {H : Type} [DecidableEq H]

namespace Daily

omit [DecidableEq H] in
/- `Secure`, with a run at a given statement. -/
def SecureAt
    (site : Site H)
    (today : Day)
    (job : ExportJob H)
    (r : AuditRow)
    (c : Day) : Prop :=
  r ∈ site.filed r.day ∨
    ¬ ((∃ e ∈ site.exports, r.day ≤ e.day) ∨
      job.passed r.day = true) ∨
    r ∈ job.inHand ∨
    (r.day < c ∧
      (site.recorded r.day = true ∨ job.opens r.day = true) ∧
      (today ≤ r.day + 2 ∨
        (job.recounts r.day = true ∧
          ∀ r' ∈ site.history, r'.day = r.day → r' ∈ site.logs)))

omit [DecidableEq H] in
theorem secure_iff
    {s : Daily H}
    {job : ExportJob H}
    (hJob : s.job = some job)
    (r : AuditRow)
    (c : Day) :
    s.Secure r c ↔ SecureAt s.site s.today job r c := by
  unfold Secure Taken Holds Opened Due SecureAt
  rw [hJob]
  simp only [Option.any_some, List.contains_iff_mem]

section

variable {site site' : Site H}
variable {today : Day}
variable {job job' : ExportJob H}
variable {r : AuditRow}
variable {c : Day}

omit [DecidableEq H] in
/- A step to a statement that is in the same place. -/
theorem SecureAt.same
    (hSecure : SecureAt site today job r c)
    (hExports : site'.exports = site.exports)
    (hFiled : site'.filed r.day = site.filed r.day)
    (hLogs : site'.logs = site.logs)
    (hHistory : site'.history = site.history)
    (hPassed : job'.passed r.day = job.passed r.day)
    (hHand : job'.inHand = job.inHand)
    (hOpens : job'.opens r.day = job.opens r.day)
    (hRecounts : job'.recounts r.day = job.recounts r.day) :
    SecureAt site' today job' r c := by
  unfold SecureAt Site.recorded at hSecure ⊢
  rw [hExports, hFiled, hLogs, hHistory, hPassed, hHand, hOpens,
    hRecounts]
  exact hSecure

omit [DecidableEq H] in
/- The first day to export is after what was exported. -/
theorem SecureAt.start
    {today' day : Day}
    (hSecure : SecureAt site today (.start today') r c)
    (hKept : r ∈ site.logs ∨ r ∈ site.filed r.day)
    (hFirst : (∀ e ∈ site.exports, r.day ≤ e.day → False) →
      r ∈ site.logs → day ≤ r.day) :
    SecureAt site today (.days today' day) r c := by
  rcases hSecure with hFiled | hAhead | hHand | hLate
  · exact .inl hFiled
  · rcases hKept with hLogs | hFiled
    · right
      left
      rintro (hTaken | hPassed)
      · exact hAhead (.inl hTaken)
      · have hLe : day ≤ r.day := by
          apply hFirst _ hLogs
          intro e hMem hDay
          exact hAhead (.inl ⟨e, hMem, hDay⟩)
        simp only [ExportJob.passed, Bool.and_eq_true,
          decide_eq_true_eq] at hPassed
        exact absurd hLe (not_le.mpr hPassed.2)
    · exact .inl hFiled
  · cases hHand
  · exact .inr (.inr (.inr hLate))

omit [DecidableEq H] in
/- The rows of the day are read. -/
theorem SecureAt.days
    {today' day : Day}
    (hSecure : SecureAt site today (.days today' day) r c)
    (hKept : r ∈ site.logs ∨ r ∈ site.filed r.day)
    (hLt : day < today') :
    SecureAt site today
      (.head today' day 0 (site.dayRows day)) r c := by
  rcases hSecure with hFiled | hAhead | hHand | hLate
  · exact .inl hFiled
  · rcases hKept with hLogs | hFiled
    · by_cases hDay : r.day = day
      · right
        right
        left
        exact Site.mem_dayRows.mpr ⟨hLogs, hDay⟩
      · right
        left
        rintro (hTaken | hPassed)
        · exact hAhead (.inl hTaken)
        · simp only [ExportJob.passed, decide_true,
            Bool.true_and, decide_eq_true_eq] at hPassed
          apply hAhead
          right
          simp only [ExportJob.passed, Bool.and_eq_true,
            decide_eq_true_eq]
          exact ⟨hLt, lt_of_le_of_ne hPassed hDay⟩
    · exact .inl hFiled
  · cases hHand
  · rcases hLate with ⟨hCommit, hOpen, hDue⟩
    refine .inr (.inr (.inr ⟨hCommit, ?_, ?_⟩))
    · rcases hOpen with hRecorded | hOpens
      · exact .inl hRecorded
      · cases hOpens
    · rcases hDue with hToday | ⟨hRecounts, hAll⟩
      · exact .inl hToday
      · right
        refine ⟨?_, hAll⟩
        simp only [ExportJob.recounts, decide_true,
          Bool.true_and] at hRecounts ⊢
        exact hRecounts

omit [DecidableEq H] in
/- The recount finds no more rows than are filed. -/
theorem SecureAt.counted
    {today' : Day}
    (hSecure : SecureAt site today job r c)
    (hHand : job.inHand = [])
    (hOpens : job.opens r.day = false)
    (hAll : site.recorded r.day = true →
      job.recounts r.day = true →
        (∀ r' ∈ site.history, r'.day = r.day → r' ∈ site.logs) →
          r ∈ site.filed r.day) :
    SecureAt site today (.done today') r c := by
  rcases hSecure with hFiled | hAhead | hIn | hLate
  · exact .inl hFiled
  · right
    left
    rintro (hTaken | hNever)
    · exact hAhead (.inl hTaken)
    · cases hNever
  · rw [hHand] at hIn
    cases hIn
  · rcases hLate with ⟨hCommit, hOpen, hDue⟩
    have hRecorded : site.recorded r.day = true := by
      rcases hOpen with hRecorded | hOpen
      · exact hRecorded
      · rw [hOpens] at hOpen
        cases hOpen
    rcases hDue with hToday | ⟨hRecounts, hStill⟩
    · exact .inr (.inr (.inr
        ⟨hCommit, .inl hRecorded, .inl hToday⟩))
    · exact .inl (hAll hRecorded hRecounts hStill)

omit [DecidableEq H] in
/- What is late is read, to be exported. -/
theorem SecureAt.late
    {today' : Day}
    {seq : Nat}
    {ids : List Nat}
    {rows : List AuditRow}
    (hSecure : SecureAt site today (.late today' seq ids) r c)
    (hSeq : seq ≠ 0)
    (hRow : today' - 2 = r.day →
      (∀ r' ∈ site.history, r'.day = r.day → r' ∈ site.logs) →
        r ∈ site.filed r.day ∨ r ∈ rows) :
    SecureAt site today (.head today' (today' - 2) seq rows)
      r c := by
  rcases hSecure with hFiled | hAhead | hHand | hLate
  · exact .inl hFiled
  · right
    left
    rintro (hTaken | hPassed)
    · exact hAhead (.inl hTaken)
    · simp only [ExportJob.passed, hSeq, decide_false,
        Bool.false_and] at hPassed
      cases hPassed
  · cases hHand
  · rcases hLate with ⟨hCommit, hOpen, hDue⟩
    rcases hOpen with hRecorded | hOpens
    · rcases hDue with hToday | ⟨hRecounts, hStill⟩
      · exact .inr (.inr (.inr
          ⟨hCommit, .inl hRecorded, .inl hToday⟩))
      · rcases hRow (decide_eq_true_eq.mp hRecounts) hStill with
          hFiled | hIn
        · exact .inl hFiled
        · exact .inr (.inr (.inl hIn))
    · cases hOpens

omit [DecidableEq H] in
/- What was in hand is filed. -/
theorem SecureAt.record
    {w : Writing H}
    {stage : Stage H}
    {e : Export H}
    (hSecure : SecureAt site today (.write w stage) r c)
    (hDay : e.day = w.day)
    (hExports : site'.exports = site.exports ++ [e])
    (hFiled : ∀ r', r' ∈ site.filed r.day →
      r' ∈ site'.filed r.day)
    (hNew : r ∈ w.rows → r ∈ site'.filed r.day)
    (hLogs : site'.logs = site.logs)
    (hHistory : site'.history = site.history)
    (hAgain : w.seq ≠ 0 → site.recorded w.day = true) :
    SecureAt site' today w.after r c := by
  have hRecorded : ∀ d, site.recorded d = true ∨ e.day = d →
      site'.recorded d = true := by
    intro d hAny
    rw [Site.recorded_iff, hExports]
    rcases hAny with hOld | hIs
    · rcases Site.recorded_iff.mp hOld with ⟨e', hMem, hIs⟩
      exact ⟨e', List.mem_append_left _ hMem, hIs⟩
    · exact ⟨e, List.mem_append_right _
        (List.mem_singleton.mpr rfl), hIs⟩
  rcases hSecure with hOld | hAhead | hHand | hLate
  · exact .inl (hFiled r hOld)
  · right
    left
    have hExportsAhead :
        ¬ ∃ e' ∈ site'.exports, r.day ≤ e'.day := by
      rintro ⟨e', hMem, hLe⟩
      rw [hExports] at hMem
      rcases List.mem_append.mp hMem with hOld | hLast
      · exact hAhead (.inl ⟨e', hOld, hLe⟩)
      · rw [List.mem_singleton] at hLast
        rw [hLast, hDay] at hLe
        by_cases hFirst : w.seq = 0
        · apply hAhead
          right
          simp only [ExportJob.passed, hFirst, decide_true,
            Bool.true_and, decide_eq_true_eq]
          exact hLe
        · rcases Site.recorded_iff.mp (hAgain hFirst) with
            ⟨e'', hMem'', hIs⟩
          rw [← hIs] at hLe
          exact hAhead (.inl ⟨e'', hMem'', hLe⟩)
    rintro (hTaken | hPassed)
    · exact hExportsAhead hTaken
    · by_cases hFirst : w.seq = 0
      · simp only [Writing.after, if_pos hFirst,
          ExportJob.passed, Bool.and_eq_true,
          decide_eq_true_eq] at hPassed
        apply hAhead
        right
        simp only [ExportJob.passed, hFirst, decide_true,
          Bool.true_and, decide_eq_true_eq]
        exact Int.le_of_lt_add_one hPassed.2
      · simp only [Writing.after, if_neg hFirst,
          ExportJob.passed] at hPassed
        cases hPassed
  · exact .inl (hNew hHand)
  · rcases hLate with ⟨hCommit, hOpen, hDue⟩
    refine .inr (.inr (.inr ⟨hCommit, .inl ?_, ?_⟩))
    · apply hRecorded
      rcases hOpen with hOld | hOpens
      · exact .inl hOld
      · right
        simp only [ExportJob.opens, Bool.and_eq_true,
          decide_eq_true_eq] at hOpens
        rw [hDay]
        exact hOpens.2
    · rcases hDue with hToday | ⟨hRecounts, hStill⟩
      · exact .inl hToday
      · right
        rw [hLogs, hHistory]
        refine ⟨?_, hStill⟩
        simp only [ExportJob.recounts, Bool.and_eq_true,
          decide_eq_true_eq] at hRecounts
        simp only [Writing.after, if_pos hRecounts.1,
          ExportJob.recounts, decide_eq_true_eq]
        exact hRecounts.2

end

end Daily

end AuditLog

end TrueNorth

--------
-- Each Step of a Run
--------

namespace TrueNorth

namespace AuditLog

open Checks

variable {H : Type} [DecidableEq H]

namespace Daily

variable {sha : Blob H → H}
variable {key : Nat}
variable {s : Daily H}

omit [DecidableEq H] in
theorem filed_known
    (hSite : s.site.Sound)
    (hShelved : Shelved sha key s.site)
    (day : Day) :
    s.site.Known day (s.site.filed day) := by
  intro r hMem
  rcases Site.mem_filed.mp hMem with ⟨e, hExport, hDay, hRow⟩
  rcases hShelved.records e hExport with
    ⟨m, rows, hFiling, hRecords⟩
  rcases hSite.files _ _ _ hFiling.file with
    ⟨rows', hRows, hKnown⟩
  cases hRows
  rw [Site.rowsOf_of_filing hFiling.file hRecords] at hRow
  rw [← hDay]
  exact hKnown r hRow

omit [DecidableEq H] in
/-
  As many rows are filed as there are, and none is gone: all
  of them are filed.
-/
theorem all_filed
    (hSite : s.site.Sound)
    (hShelved : Shelved sha key s.site)
    {day : Day}
    (hCount :
      s.site.dayCount day ≤
        ((s.site.exportsFor day).map Export.rowCount).sum)
    (hStill : ∀ r ∈ s.site.history, r.day = day →
      r ∈ s.site.logs)
    {r : AuditRow}
    (hMem : r ∈ s.site.history)
    (hDay : r.day = day) :
    r ∈ s.site.filed day := by
  rw [hShelved.rowCounts] at hCount
  have hSub : s.site.filed day ⊆ s.site.ofDay day := by
    intro r' hFiled
    rcases filed_known hSite hShelved day r' hFiled with
      ⟨hHistory, hDay'⟩
    exact Site.mem_ofDay.mpr
      ⟨hStill r' hHistory hDay', hDay'⟩
  have hPerm : (s.site.filed day).Perm (s.site.ofDay day) := by
    apply (List.subperm_of_subset (hShelved.nodup day) hSub)
      |>.perm_of_length_le
    exact hCount
  apply hPerm.mem_iff.mpr
  exact Site.mem_ofDay.mpr ⟨hStill r hMem hDay, hDay⟩

/- A write puts a file and goes on, unless it raises. -/
theorem writeNext_place
    (now : Int)
    (site : Site H)
    (w : Writing H)
    (stage : Stage H)
    (hStage : ∀ m, stage ≠ .record m) :
    (∃ e, (ExportJob.writeNext sha key now site w stage).2 =
      .raised e) ∨
      ∃ a stage',
        WriteOnce.Grows site.archive a ∧
        ExportJob.writeNext sha key now site w stage =
          ({ site with archive := a }, .write w stage') := by
  have hPutting : ∀ name data stage',
      (∃ e, (ExportJob.putting site name data
          (.write w stage')).2 = .raised e) ∨
        ∃ a stage'',
          WriteOnce.Grows site.archive a ∧
          ExportJob.putting site name data (.write w stage') =
            ({ site with archive := a }, .write w stage'') := by
    intro name data stage'
    rcases ExportJob.putting_cases site name data
        (.write w stage') with
      ⟨e, hEq⟩ | ⟨a, hPut, hEq⟩
    · rw [hEq]
      exact .inl ⟨e, rfl⟩
    · exact .inr ⟨a, stage', WriteOnce.put_grows hPut, hEq⟩
  have hReading : ∀ (x : Except AuditError (Manifest H))
      (next : Manifest H → Stage H),
      (∃ e, (ExportJob.reading site x
          (fun m => .write w (next m))).2 = .raised e) ∨
        ∃ a stage'',
          WriteOnce.Grows site.archive a ∧
          ExportJob.reading site x (fun m => .write w (next m)) =
            ({ site with archive := a }, .write w stage'') := by
    intro x next
    rcases ExportJob.reading_cases site x
        (fun m => .write w (next m)) with
      ⟨e, _, hEq⟩ | ⟨m, _, hEq⟩
    · rw [hEq]
      exact .inl ⟨e, rfl⟩
    · exact .inr ⟨site.archive, next m, .refl _, hEq⟩
  cases stage with
  | putKey => exact hPutting _ _ _
  | look =>
      simp only [ExportJob.writeNext]
      by_cases hThere : site.archive.stores w.manifestName = true
      · rw [if_pos hThere]
        exact hReading _ _
      · rw [if_neg hThere]
        exact .inr ⟨site.archive, .putFile, .refl _, rfl⟩
  | putFile => exact hPutting _ _ _
  | putManifest m => exact hPutting _ _ _
  | putSig m => exact hPutting _ _ _
  | verify m => exact hReading _ (fun _ => .record m)
  | record m => exact absurd rfl (hStage m)

/- A write keeps each row within reach. -/
theorem write_secure
    (hIdeal : Function.Injective sha)
    (hSound : s.Sound sha key)
    (now : Int)
    {w : Writing H}
    {stage : Stage H}
    (hJob : ExportJob.Sound s.site (.write w stage))
    (hPhase : s.Phase sha key (.write w stage))
    (hLeft : stage = .look → Adoptable sha s.site w = true)
    {r : AuditRow}
    {c : Day}
    (hSecure : SecureAt s.site s.today (.write w stage) r c) :
    let next := ExportJob.writeNext sha key now s.site w stage
    SecureAt next.1 s.today next.2 r c := by
  intro next
  have hGoes :=
    writeNext_goes hIdeal hSound.shelved now hPhase hLeft
  by_cases hStage : ∃ m, stage = .record m
  · rcases hStage with ⟨m, rfl⟩
    rcases hPhase with ⟨hWritable, hHead, hFiling⟩
    have hNext : next = _ :=
      (record_goes hIdeal hSound.shelved now hWritable hHead
        hFiling).2
    rw [hNext]
    have hRows := Site.rowsOf_of_filing
      (e := w.export' sha key now m) hFiling.file
      (⟨rfl, rfl, rfl⟩ : Records sha _ m w.rows)
    apply hSecure.record rfl rfl
    · intro r' hFiled
      rw [Site.filed_append]
      exact List.mem_append_left _ hFiled
    · intro hRow
      have hDay : (w.export' sha key now m).day = r.day :=
        (hJob.1 r hRow).2.symm
      rw [Site.filed_append, if_pos hDay, hRows]
      exact List.mem_append_right _ hRow
    · rfl
    · rfl
    · intro hSeq
      exact (hWritable.again hSeq).2.1.recorded
  · rcases writeNext_place now s.site w stage
        (fun m hEq => hStage ⟨m, hEq⟩) with
      ⟨e, hRaised⟩ | ⟨a, stage', hGrows, hEq⟩
    · have hNever := hGoes.2
      rw [hRaised] at hNever
      cases hNever
    · have hNext : next = _ := hEq
      rw [hNext]
      apply hSecure.same
      case hFiled => exact hSound.shelved.filed_grows hGrows _
      all_goals rfl

/- Each step of a run keeps each row within reach. -/
theorem next_secure
    (hIdeal : Function.Injective sha)
    (hSound : s.Sound sha key)
    (now : Int)
    {job : ExportJob H}
    (hJob : job.Sound s.site)
    (hPhase : s.Phase sha key job)
    (hLeft : ∀ w, job = .write w .look →
      Adoptable sha s.site w = true)
    {r : AuditRow}
    {c : Day}
    (hMem : r ∈ s.site.history)
    (hSecure : SecureAt s.site s.today job r c) :
    let next := job.next sha key now s.site
    SecureAt next.1 s.today next.2 r c := by
  intro next
  have hKept := hSound.kept r hMem
  cases job with
  | start today =>
      cases hLast : s.site.lastExportDay with
      | some last =>
          have hNext : next = (s.site, .days today (last + 1)) := by
            simp only [next, ExportJob.next, hLast]
          rw [hNext]
          apply hSecure.start hKept
          intro hAhead _
          rcases (Site.lastExportDay_some hLast).1 with
            ⟨e, hExport, hDay⟩
          apply Int.add_one_le_of_lt
          apply lt_of_not_ge
          intro hLe
          exact hAhead e hExport (le_of_le_of_eq hLe hDay.symm)
      | none =>
          cases hFirst : s.site.firstRowDay with
          | some day =>
              have hNext : next = (s.site, .days today day) := by
                simp only [next, ExportJob.next, hLast, hFirst]
              rw [hNext]
              apply hSecure.start hKept
              intro _ hLogs
              exact Site.firstRowDay_some hFirst r hLogs
          | none =>
              have hNext : next = (s.site, .recount today) := by
                simp only [next, ExportJob.next, hLast, hFirst]
              rw [hNext]
              exact hSecure.same rfl rfl rfl rfl rfl rfl rfl rfl
  | days today day =>
      by_cases hLt : day < today
      · have hNext :
            next =
              (s.site,
                .head today day 0 (s.site.dayRows day)) := by
          simp only [next, ExportJob.next, if_pos hLt]
        rw [hNext]
        exact hSecure.days hKept hLt
      · have hNext : next = (s.site, .recount today) := by
          simp only [next, ExportJob.next, if_neg hLt]
        rw [hNext]
        apply hSecure.same
        case hPassed =>
          simp only [ExportJob.passed, decide_eq_false hLt,
            Bool.false_and]
        all_goals rfl
  | head today day seq rows =>
      rcases head_goes hSound now hPhase with ⟨prev, hEq, _⟩
      have hNext : next = _ := hEq
      rw [hNext]
      exact hSecure.same rfl rfl rfl rfl rfl rfl rfl rfl
  | write w stage =>
      apply write_secure hIdeal hSound now hJob hPhase _ hSecure
      intro hLook
      rw [hLook] at hLeft
      exact hLeft w rfl
  | recount today =>
      by_cases hNone :
          (s.site.exportsFor (today - 2)).isEmpty = true
      · have hNext : next = (s.site, .done today) := by
          simp only [next, ExportJob.next, if_pos hNone]
        rw [hNext]
        apply hSecure.counted rfl rfl
        intro hRecorded hRecounts _
        have hDay : today - 2 = r.day :=
          decide_eq_true_eq.mp hRecounts
        rw [List.isEmpty_iff, Site.exportsFor_nil, hDay,
          hRecorded] at hNone
        cases hNone
      · have hNext :
            next =
              (s.site, .count today
                (s.site.exportsFor (today - 2))) := by
          simp only [next, ExportJob.next, if_neg hNone]
        rw [hNext]
        exact hSecure.same rfl rfl rfl rfl rfl rfl rfl rfl
  | count today exports =>
      rcases hPhase with ⟨_, _, rfl, _⟩
      by_cases hAll :
          s.site.dayCount (today - 2) ≤
            ((s.site.exportsFor (today - 2)).map
              Export.rowCount).sum
      · have hNext : next = (s.site, .done today) := by
          simp only [next, ExportJob.next, if_pos hAll]
        rw [hNext]
        apply hSecure.counted rfl rfl
        intro _ hRecounts hStill
        have hDay : today - 2 = r.day :=
          decide_eq_true_eq.mp hRecounts
        rw [hDay] at hAll
        exact all_filed hSound.site hSound.shelved hAll hStill
          hMem rfl
      · have hNext :
            ∃ seq, next = (s.site, .collect today seq) := by
          simp only [next, ExportJob.next, if_neg hAll]
          exact ⟨_, rfl⟩
        rcases hNext with ⟨seq, hNext⟩
        rw [hNext]
        exact hSecure.same rfl rfl rfl rfl rfl rfl rfl rfl
  | collect today seq =>
      rcases collect_goes hSound now hPhase with ⟨ids, hEq, _⟩
      have hNext : next = _ := hEq
      rw [hNext]
      exact hSecure.same rfl rfl rfl rfl rfl rfl rfl rfl
  | late today seq ids =>
      rcases hPhase with ⟨_, _, hFree, hIds⟩
      apply hSecure.late hFree.some
      intro hDay hStill
      rw [hDay] at hIds
      by_cases hFiled : r.id ∈ ids
      · left
        rcases (hIds r.id).mp hFiled with ⟨r', hRow, hSame⟩
        have hKnown :=
          filed_known hSound.site hSound.shelved _ r' hRow
        rw [hSound.site.eq_of_id hKnown.1 hMem hSame] at hRow
        exact hRow
      · right
        exact mem_lateRows.mpr
          ⟨⟨hStill r hMem rfl, hDay.symm⟩, hFiled⟩
  | done today => exact hSecure
  | raised e => cases hPhase

end Daily

end AuditLog

end TrueNorth

--------
-- Runs, Day After Day
--------

namespace TrueNorth

namespace AuditLog

open Checks

variable {H : Type} [DecidableEq H]

namespace Daily

variable {sha : Blob H → H}
variable {key : Nat}
variable {s s' : Daily H}

/- What comes beside a run, all rows within reach. -/
theorem Sound.beside
    (hSound : s.Sound sha key)
    (hBeside : Beside s s')
    (hLater : s.site.Later s'.site)
    (hSite : s'.site.Sound)
    (hJob : ∀ job, s'.job = some job →
      s.job = some job ∨ job = .start s'.today)
    (hKnown : ∀ p ∈ s'.commits,
      p.1 ∈ s'.site.history ∧ p.1.day ≤ p.2)
    (hKept : ∀ r ∈ s'.site.history,
      r ∈ s'.site.logs ∨ r ∈ s'.site.filed r.day)
    (hSecure : s'.AllSecure) :
    s'.Sound sha key := by
  constructor
  case site => exact hSite
  case shelved => exact hBeside.same.shelved hSound.shelved
  case job =>
    intro job hSome
    rcases hJob job hSome with hSame | hNew
    · rcases hSound.job job hSame with ⟨hRows, hPhase⟩
      exact ⟨hRows.later hLater, hPhase.beside hBeside⟩
    · rw [hNew]
      exact ⟨trivial, le_refl s'.today⟩
  case known => exact hKnown
  case kept => exact hKept
  case secure => exact hSecure

variable {cfg : Config H}

theorem Sound.insert
    (hSound : s.Sound sha key)
    {r : AuditRow}
    (hSecure : (s.step cfg (.insert r)).AllSecure) :
    (s.step cfg (.insert r)).Sound sha key := by
  simp only [Daily.step] at hSecure ⊢
  by_cases hRefused :
      (decide (s.today < r.day) ||
        (s.site.history.map AuditRow.id).contains r.id) = true
  · rw [if_pos hRefused]
    exact hSound
  · rw [if_neg hRefused] at hSecure ⊢
    rw [Bool.or_eq_true, not_or, decide_eq_true_eq,
      not_lt] at hRefused
    rcases hRefused with ⟨hDay, hFresh⟩
    have hSite :
        s.site.insert r =
          { s.site with
            logs := s.site.logs ++ [r]
            history := s.site.history ++ [r] } := by
      unfold Site.insert
      rw [if_neg hFresh]
    have hSame : s.site.SameExports (s.site.insert r) := by
      rw [hSite]
      exact ⟨rfl, rfl⟩
    apply hSound.beside
    case hBeside =>
      refine ⟨hSame, le_refl _, ?_⟩
      intro p hMem
      rcases List.mem_append.mp hMem with hOld | hNew
      · exact .inl hOld
      · rw [List.mem_singleton] at hNew
        right
        rw [hNew]
    case hLater => exact Site.insert_later _ r
    case hSite => exact hSound.site.insert r
    case hJob => exact fun job hSome => .inl hSome
    case hKnown =>
      intro p hMem
      rcases List.mem_append.mp hMem with hOld | hNew
      · rcases hSound.known p hOld with ⟨hHistory, hLe⟩
        exact ⟨(Site.insert_later _ r).history _ hHistory, hLe⟩
      · rw [List.mem_singleton] at hNew
        rw [hNew]
        refine ⟨?_, hDay⟩
        change r ∈ (s.site.insert r).history
        rw [hSite]
        exact List.mem_append_right _ (List.mem_singleton.mpr rfl)
    case hKept =>
      intro r' hMem
      have hFiled := hSame.filed r'.day
      change r' ∈ (s.site.insert r).logs ∨
        r' ∈ (s.site.insert r).filed r'.day
      rw [hFiled]
      change r' ∈ (s.site.insert r).history at hMem
      rw [hSite] at hMem ⊢
      rcases List.mem_append.mp hMem with hOld | hNew
      · rcases hSound.kept r' hOld with hLogs | hIn
        · exact .inl (List.mem_append_left _ hLogs)
        · exact .inr hIn
      · exact .inl (List.mem_append_right _ hNew)
    case hSecure => exact hSecure

theorem Sound.newDay
    (hSound : s.Sound sha key)
    (hSecure : (s.step cfg .newDay).AllSecure) :
    (s.step cfg .newDay).Sound sha key := by
  apply hSound.beside
  case hBeside =>
    exact ⟨⟨rfl, rfl⟩, Int.le_of_lt (Int.lt_succ s.today),
      fun p hMem => .inl hMem⟩
  case hLater => exact .refl _
  case hSite => exact hSound.site
  case hJob => exact fun job hSome => .inl hSome
  case hKnown => exact hSound.known
  case hKept => exact hSound.kept
  case hSecure => exact hSecure

theorem Sound.crash
    (hSound : s.Sound sha key)
    (hSecure : (s.step cfg .crash).AllSecure) :
    (s.step cfg .crash).Sound sha key := by
  apply hSound.beside
  case hBeside =>
    exact ⟨⟨rfl, rfl⟩, le_refl _, fun p hMem => .inl hMem⟩
  case hLater => exact .refl _
  case hSite => exact hSound.site
  case hJob =>
    intro job hNone
    cases hNone
  case hKnown => exact hSound.known
  case hKept => exact hSound.kept
  case hSecure => exact hSecure

/- A run is begun where none is; it keeps what was late. -/
theorem Sound.start
    (hSound : s.Sound sha key) :
    (s.step cfg .start).Sound sha key := by
  simp only [Daily.step]
  by_cases hRunning : s.job.any ExportJob.running = true
  · rw [if_pos hRunning]
    exact hSound
  · rw [if_neg hRunning]
    have hIdle : ∀ job, s.job = some job →
        job.inHand = [] ∧ ∀ d, job.opens d = false ∧
          job.recounts d = false := by
      intro job hJob
      rw [hJob, Option.any_some] at hRunning
      cases job with
      | done today => exact ⟨rfl, fun d => ⟨rfl, rfl⟩⟩
      | raised e => exact ⟨rfl, fun d => ⟨rfl, rfl⟩⟩
      | _ => exact absurd rfl hRunning
    have hNone : ∀ f : ExportJob H → Bool,
        (∀ job, s.job = some job → f job = false) →
          s.job.any f = true → False := by
      intro f hFalse hAny
      cases hJob : s.job with
      | none =>
          rw [hJob] at hAny
          cases hAny
      | some job =>
          rw [hJob, Option.any_some, hFalse job hJob] at hAny
          cases hAny
    apply hSound.beside
    case hBeside =>
      exact ⟨⟨rfl, rfl⟩, le_refl _, fun p hMem => .inl hMem⟩
    case hLater => exact .refl _
    case hSite => exact hSound.site
    case hJob =>
      intro job hSome
      right
      exact (Option.some.inj hSome).symm
    case hKnown => exact hSound.known
    case hKept => exact hSound.kept
    case hSecure =>
      intro p hMem
      rcases hSound.secure p hMem with
        hFiled | hAhead | hHand | ⟨hCommit, hOpen, hDue⟩
      · exact .inl hFiled
      · right
        left
        rintro (hTaken | hPassed)
        · exact hAhead (.inl hTaken)
        · cases hPassed
      · refine (hNone _ ?_ hHand).elim
        intro job hJob
        rw [(hIdle job hJob).1]
        rfl
      · refine .inr (.inr (.inr ⟨hCommit, ?_, ?_⟩))
        · rcases hOpen with hRecorded | hOpens
          · exact .inl hRecorded
          · refine (hNone _ ?_ hOpens).elim
            exact fun job hJob => ((hIdle job hJob).2 _).1
        · rcases hDue with hToday | ⟨hRecounts, _⟩
          · exact .inl hToday
          · refine (hNone _ ?_ hRecounts).elim
            exact fun job hJob => ((hIdle job hJob).2 _).2

/- What retention deletes is filed. -/
theorem Sound.purge
    (hSound : s.Sound sha key)
    (day : Day)
    (now : Int) :
    (s.step cfg (.purge day now)).Sound sha key := by
  simp only [Daily.step]
  cases cfg.hotDays with
  | none => exact hSound
  | some days =>
      by_cases hSafe :
          (decide (day < s.today - days) &&
            (s.site.ofDay day).all (fun r =>
              (s.site.filed day).contains r)) = true
      · simp only [if_pos hSafe]
        rw [Bool.and_eq_true, List.all_eq_true] at hSafe
        have hAll : ∀ r ∈ s.site.logs, r.day = day →
            r ∈ s.site.filed r.day := by
          intro r hLogs hDay
          rw [hDay]
          exact List.contains_iff_mem.mp
            (hSafe.2 r (Site.mem_ofDay.mpr ⟨hLogs, hDay⟩))
        have hSame : s.site.SameExports
            (s.site.withoutDay now day
              ((s.site.filed day).map AuditRow.id)
              (s.site.exportsFor day)) := ⟨rfl, rfl⟩
        apply hSound.beside
        case hBeside =>
          exact ⟨hSame, le_refl _, fun p hMem => .inl hMem⟩
        case hLater => exact Site.withoutDay_later
        case hSite => exact Site.Sound.withoutDay hSound.site
        case hJob => exact fun job hSome => .inl hSome
        case hKnown => exact hSound.known
        case hKept =>
          intro r hMem
          rcases hSound.kept r hMem with hLogs | hFiled
          · by_cases hDay : r.day = day
            · exact .inr (hAll r hLogs hDay)
            · exact .inl
                (Site.mem_withoutDay.mpr ⟨hLogs, hDay⟩)
          · exact .inr hFiled
        case hSecure =>
          intro p hMem
          rcases hSound.secure p hMem with
            hFiled | hAhead | hHand | ⟨hCommit, hOpen, hDue⟩
          · exact .inl hFiled
          · exact .inr (.inl hAhead)
          · exact .inr (.inr (.inl hHand))
          · rcases hDue with hToday | ⟨hRecounts, hStill⟩
            · exact .inr (.inr (.inr
                ⟨hCommit, hOpen, .inl hToday⟩))
            · by_cases hDay : p.1.day = day
              · left
                exact hAll p.1
                  (hStill _ (hSound.known p hMem).1 rfl) hDay
              · refine .inr (.inr (.inr
                  ⟨hCommit, hOpen, .inr ⟨hRecounts, ?_⟩⟩))
                intro r hHistory hSameDay
                apply Site.mem_withoutDay.mpr
                refine ⟨hStill r hHistory hSameDay, ?_⟩
                rw [hSameDay]
                exact hDay
      · simp only [if_neg hSafe]
        exact hSound

/- What is filed stays so, whatever a run writes. -/
theorem filed_of_wrote
    (hSound : s.Sound sha key)
    {job : ExportJob H}
    {site : Site H}
    (hWrote : ExportJob.Wrote key s.site job site)
    {r : AuditRow}
    (hFiled : r ∈ s.site.filed r.day) :
    r ∈ site.filed r.day := by
  cases hWrote with
  | nothing => exact hFiled
  | put hPut _ =>
      rw [hSound.shelved.filed_grows (WriteOnce.put_grows hPut)]
      exact hFiled
  | recorded =>
      rw [Site.filed_append]
      exact List.mem_append_left _ hFiled

/- A step of the run there is. -/
theorem Sound.next
    (hIdeal : Function.Injective sha)
    (hSound : s.Sound sha key)
    (now : Int)
    {job : ExportJob H}
    (hSome : s.job = some job)
    (hLeft : ∀ w, job = .write w .look →
      Adoptable sha s.site w = true) :
    Sound sha key
      { s with
        site := (job.next sha key now s.site).1
        job := some (job.next sha key now s.site).2 } := by
  rcases hSound.job job hSome with ⟨hJob, hPhase⟩
  have hWrote : ExportJob.Wrote key s.site job
      (job.next sha key now s.site).1 :=
    ExportJob.next_wrote now s.site job
  have hGoes := next_goes hIdeal hSound now hPhase hLeft
  have hLater := hWrote.later
  rcases hWrote.rows with ⟨hLogs, hHistory⟩
  constructor
  case site => exact hWrote.sound hSound.site hJob
  case shelved => exact hGoes.1
  case job =>
    intro job' hNew
    cases hNew
    refine ⟨(ExportJob.next_sound now hSound.site hJob).later
      hLater, hGoes.2.beside ?_⟩
    exact ⟨⟨rfl, rfl⟩, le_refl _, fun p hMem => .inl hMem⟩
  case known =>
    intro p hMem
    rcases hSound.known p hMem with ⟨hOld, hDay⟩
    exact ⟨hLater.history _ hOld, hDay⟩
  case kept =>
    intro r hMem
    change r ∈ (job.next sha key now s.site).1.history at hMem
    rw [hHistory] at hMem
    change r ∈ (job.next sha key now s.site).1.logs ∨ _
    rw [hLogs]
    rcases hSound.kept r hMem with hIn | hFiled
    · exact .inl hIn
    · exact .inr (filed_of_wrote hSound hWrote hFiled)
  case secure =>
    intro p hMem
    have hBefore := hSound.secure p hMem
    rw [secure_iff hSome] at hBefore
    rw [secure_iff rfl]
    exact next_secure hIdeal hSound now hJob hPhase hLeft
      (hSound.known p hMem).1 hBefore

/- Nothing has happened yet. -/
theorem Sound.fresh
    (cfg : Config H)
    (today : Day) :
    (fresh today : Daily H).Sound cfg.sha cfg.key := by
  have hFresh : Workers.Sound cfg (Workers.fresh : Workers H) :=
    Workers.Sound.fresh
  constructor
  case site => exact hFresh.site
  case shelved =>
    constructor
    case pem =>
      intro b hGet
      cases hGet
    case manifest =>
      intro d q m hGet
      cases hGet
    case sig =>
      intro d q b hGet
      cases hGet
    case records =>
      intro e hMem
      cases hMem
    case nodup => exact fun _ => List.nodup_nil
    case chained => exact .nil
  case job =>
    intro job hSome
    cases hSome
  case known =>
    intro p hMem
    cases hMem
  case kept =>
    intro r hMem
    cases hMem
  case secure =>
    intro p hMem
    cases hMem

/- Every step that can be recovered from keeps a site sound. -/
theorem Sound.step
    (hIdeal : Function.Injective cfg.sha)
    (hSound : s.Sound cfg.sha cfg.key)
    {a : DailyAct}
    (hRecoverable : Recoverable cfg s a) :
    (s.step cfg a).Sound cfg.sha cfg.key := by
  cases a with
  | insert r => exact hSound.insert hRecoverable
  | newDay => exact hSound.newDay hRecoverable
  | purge day now => exact hSound.purge day now
  | start => exact hSound.start
  | crash => exact hSound.crash hRecoverable
  | step now =>
      cases hSome : s.job with
      | none =>
          simp only [Daily.step, hSome]
          exact hSound
      | some job =>
          simp only [Daily.step, hSome]
          apply hSound.next hIdeal now hSome
          rintro w rfl
          simpa only [Recoverable, hSome] using hRecoverable

/- A sound site has recovered. -/
theorem Sound.recovered
    (hSound : s.Sound cfg.sha cfg.key) :
    Recovered cfg s := by
  constructor
  case quiet =>
    intro e hRaised
    exact (hSound.job _ hRaised).2
  case ends =>
    intro job hSome hRunning now
    apply ExportJob.next_sooner now s.site hRunning
    rintro today seq ids rfl
    exact (hSound.job _ hSome).2.2.2.1.some
  case chain =>
    exact ⟨hSound.shelved.chained.linked,
      hSound.shelved.chained.nodup⟩
  case exported =>
    intro today hDone p hMem hEarly
    rcases hSound.job _ hDone with ⟨_, hToday, hCaught⟩
    have hDay := (hSound.known p hMem).2
    have hSecure := hSound.secure p hMem
    rw [secure_iff hDone] at hSecure
    have hTaken : ∀ d c t l : Int, d ≤ c → c + 2 ≤ t →
        t - 1 ≤ l → d ≤ l := by
      omega
    have hBefore : ∀ c t : Int, c + 2 ≤ t → ¬ t ≤ c := by
      omega
    have hPast : ∀ d c t n : Int, d < c → c + 2 ≤ t → t ≤ n →
        ¬ n ≤ d + 2 := by
      omega
    rcases hSecure with hFiled | hAhead | hHand |
      ⟨hLate, _, hDue⟩
    · exact hSound.shelved.exported hFiled
    · -- its day was taken by an export of the run
      rcases hCaught with ⟨e, hExport, hLast⟩ | hNone
      · exact absurd (.inl ⟨e, hExport,
          hTaken _ _ _ _ hDay hEarly hLast⟩) hAhead
      · exact absurd (hNone p hMem) (hBefore _ _ hEarly)
    · cases hHand
    · rcases hDue with hSoon | ⟨hRecounts, _⟩
      · exact absurd hSoon
          (hPast _ _ _ _ hLate hEarly hToday)
      · cases hRecounts

/-
  In every run whose steps can be recovered from, no run of
  the export raises or goes on for ever, the exports form one
  chain and no row is missed.
-/
theorem recovers_and_misses_no_row
    (cfg : Config H)
    (hIdeal : Function.Injective cfg.sha)
    (today : Day)
    (actions : List DailyAct)
    (hRecoverable :
      Runs.Meets (Daily.step cfg) (Recoverable cfg)
        (fresh today) actions) :
    Recovered cfg
      (Runs.run (Daily.step cfg) (fresh today) actions) := by
  apply Sound.recovered
  exact hRecoverable.invariant
    (fun s => s.Sound cfg.sha cfg.key)
    (fun s a hStep hSound => hSound.step hIdeal hStep)
    (Sound.fresh cfg today)

open Workers (ideal row)

/- A run is lost once it has put the file of day 0. -/
def lostRun : List DailyAct :=
  [.insert (row 1 0), .newDay, .start] ++
    List.replicate 6 (.step 0) ++ [.crash, .start] ++
    List.replicate 14 (.step 0)

theorem recovers_and_misses_no_row_lost :
    Recovered ideal (Runs.run (Daily.step ideal) (fresh 0)
      lostRun) :=
  recovers_and_misses_no_row ideal Digest.ofBlob_injective 0
    lostRun (by decide +kernel)

/-
  A run is lost once it has put the empty file of day 1, and
  a row of that day commits: no later run can put its file.
-/
def blockedDay : List DailyAct :=
  [.insert (row 1 0), .newDay, .newDay, .start] ++
    List.replicate 15 (.step 0) ++
    [.crash, .insert (row 2 (AuditRow.microsPerDay + 5)),
      .start] ++
    List.replicate 6 (.step 0)

theorem lost_run_blocks_the_day :
    ¬ ∀ cfg : Config Digest, Function.Injective cfg.sha →
      ∀ today actions,
        Recovered cfg
          (Runs.run (Daily.step cfg) (fresh today) actions) := by
  intro hAlways
  have hRecovered := hAlways ideal Digest.ofBlob_injective 0
    blockedDay
  have hEnded : (Runs.run (Daily.step ideal) (fresh 0)
      blockedDay).job.all (fun job =>
        match job with
        | .raised _ => false
        | _ => true) = false := by
    decide +kernel
  rw [Option.all_eq_false] at hEnded
  rcases hEnded with ⟨job, hJob, hIs⟩
  cases job with
  | raised e => exact hRecovered.quiet e hJob
  | _ => cases hIs

end Daily

end AuditLog

end TrueNorth
