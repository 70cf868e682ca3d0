import TrueNorth.AuditLog.Writes

/-
  A whole run of the export: it goes on from each of its
  statements, and each time it has less left to do.

  Main theorems:
    * `Daily.next_goes`
    * `ExportJob.next_sooner`
-/

--------
-- What the Tables Say
--------

namespace TrueNorth

namespace AuditLog

variable {H : Type}

namespace Site

variable {s : Site H}

theorem lastExportDay_some
    {last : Day}
    (hLast : s.lastExportDay = some last) :
    (∃ e ∈ s.exports, e.day = last) ∧
      ∀ e ∈ s.exports, e.day ≤ last := by
  unfold lastExportDay at hLast
  rcases List.max?_eq_some_iff.mp hLast with ⟨hMem, hMax⟩
  rcases List.mem_map.mp hMem with ⟨e, hExport, hDay⟩
  exact ⟨⟨e, hExport, hDay⟩,
    fun e' hMem' => hMax _ (List.mem_map_of_mem hMem')⟩

theorem lastExportDay_none
    (hNone : s.lastExportDay = none) :
    s.exports = [] := by
  unfold lastExportDay at hNone
  rw [List.max?_eq_none_iff, List.map_eq_nil_iff] at hNone
  exact hNone

theorem firstRowDay_some
    {day : Day}
    (hFirst : s.firstRowDay = some day) :
    ∀ r ∈ s.logs, day ≤ r.day := by
  unfold firstRowDay at hFirst
  rcases Option.map_eq_some_iff.mp hFirst with ⟨t, hMin, hDay⟩
  rcases List.min?_eq_some_iff.mp hMin with ⟨_, hLeast⟩
  intro r hMem
  have hLe : t ≤ r.timestamp :=
    hLeast _ (List.mem_map_of_mem hMem)
  rw [← hDay]
  exact Int.ediv_le_ediv (by decide) hLe

theorem firstRowDay_none
    (hNone : s.firstRowDay = none) :
    s.logs = [] := by
  unfold firstRowDay at hNone
  rw [Option.map_eq_none_iff, List.min?_eq_none_iff,
    List.map_eq_nil_iff] at hNone
  exact hNone

theorem dayRows_nodup
    (hSound : s.Sound)
    (day : Day) :
    (s.dayRows day).Nodup := by
  unfold dayRows
  exact (List.mergeSort_perm _ _).nodup_iff.mpr
    (hSound.ofDay_nodup day)

theorem exportsFor_nil
    {day : Day} :
    s.exportsFor day = [] ↔ s.recorded day = false := by
  rw [List.eq_nil_iff_forall_not_mem, ← Bool.not_eq_true,
    recorded_iff]
  constructor
  · rintro hNone ⟨e, hMem, hDay⟩
    exact hNone e (mem_exportsFor.mpr ⟨hMem, hDay⟩)
  · intro hNone e hMem
    rcases mem_exportsFor.mp hMem with ⟨hExport, hDay⟩
    exact hNone ⟨e, hExport, hDay⟩

/- The last of a day's exports has the highest number. -/
theorem nextSeq_of_last
    {day : Day}
    (hSome : s.exportsFor day ≠ []) :
    s.NextSeq day
      (((s.exportsFor day).getLast?.map Export.seq).getD 0
        + 1) := by
  rw [List.getLast?_eq_some_getLast hSome]
  constructor
  case recorded =>
    rw [← Bool.not_eq_false]
    intro hNone
    exact hSome (exportsFor_nil.mpr hNone)
  case some => exact Nat.succ_ne_zero _
  case last =>
    intro e hMem hDay
    have hSorted :
        (s.exportsFor day).Pairwise (fun e e' => e.seq ≤ e'.seq) := by
      unfold exportsFor
      have hPairwise := @List.pairwise_mergeSort _
        (fun e e' : Export H => decide (e.seq ≤ e'.seq))
        (fun a b c hab hbc => by
          rw [decide_eq_true_eq] at hab hbc ⊢
          exact le_trans hab hbc)
        (fun a b => by
          rw [Bool.or_eq_true, decide_eq_true_eq,
            decide_eq_true_eq]
          exact le_total _ _)
        (s.exports.filter (fun e => e.day = day))
      exact hPairwise.imp (fun h => decide_eq_true_eq.mp h)
    have hRefl :
        Std.Refl (fun e e' : Export H => e.seq ≤ e'.seq) :=
      ⟨fun e => le_refl e.seq⟩
    exact Nat.lt_succ_of_le
      (hSorted.rel_getLast (mem_exportsFor.mpr ⟨hMem, hDay⟩))

end Site

end AuditLog

end TrueNorth

--------
-- The Other Steps
--------

namespace TrueNorth

namespace AuditLog

open Checks

variable {H : Type} [DecidableEq H]

namespace Daily

variable {sha : Blob H → H}
variable {key : Nat}
variable {s : Daily H}

/- With nothing exported, what was committed is in the table. -/
theorem Sound.logs_of_no_exports
    (hSound : s.Sound sha key)
    (hNone : s.site.exports = [])
    {p : AuditRow × Day}
    (hMem : p ∈ s.commits) :
    p.1 ∈ s.site.logs := by
  rcases hSound.kept p.1 (hSound.known p hMem).1 with
    hLogs | hFiled
  · exact hLogs
  · rcases Site.mem_filed.mp hFiled with ⟨e, hExport, _⟩
    rw [hNone] at hExport
    cases hExport

theorem start_goes
    (hSound : s.Sound sha key)
    (now : Int)
    {today : Day}
    (hToday : today ≤ s.today) :
    Goes sha key s
      ((ExportJob.start today).next sha key now s.site) := by
  simp only [ExportJob.next]
  cases hLast : s.site.lastExportDay with
  | some last =>
      rcases Site.lastExportDay_some hLast with
        ⟨⟨e, hMem, hDay⟩, hAll⟩
      refine ⟨hSound.shelved, hToday, ?_, ?_⟩
      · intro e' hMem'
        exact Int.lt_add_one_of_le (hAll e' hMem')
      · intro hReached
        left
        refine ⟨e, hMem, ?_⟩
        rw [hDay]
        exact Int.sub_right_le_of_le_add hReached
  | none =>
      have hNone := Site.lastExportDay_none hLast
      cases hFirst : s.site.firstRowDay with
      | some day =>
          refine ⟨hSound.shelved, hToday, ?_, ?_⟩
          · intro e hMem
            have hMem' : e ∈ s.site.exports := hMem
            rw [hNone] at hMem'
            cases hMem'
          · intro hReached
            right
            intro p hMem
            have hLogs := hSound.logs_of_no_exports hNone hMem
            exact le_trans hReached
              (le_trans (Site.firstRowDay_some hFirst _ hLogs)
                (hSound.known p hMem).2)
      | none =>
          refine ⟨hSound.shelved, hToday, ?_⟩
          right
          intro p hMem
          have hLogs := hSound.logs_of_no_exports hNone hMem
          rw [Site.firstRowDay_none hFirst] at hLogs
          cases hLogs

theorem days_goes
    (hSound : s.Sound sha key)
    (now : Int)
    {today day : Day}
    (hPhase : s.Phase sha key (.days today day)) :
    Goes sha key s
      ((ExportJob.days today day).next sha key now s.site) := by
  rcases hPhase with ⟨hToday, hBefore, hCaught⟩
  simp only [ExportJob.next]
  by_cases hLt : day < today
  · rw [if_pos hLt]
    refine ⟨hSound.shelved, ?_⟩
    constructor
    case begun => exact hToday
    case before => exact hLt
    case nodup => exact Site.dayRows_nodup hSound.site day
    case apart =>
      intro r _ hFiled
      have hNone : s.site.filed day = [] :=
        Site.filed_of_not_recorded
          (fun e hMem => ne_of_lt (hBefore e hMem))
      have hFiled' : r ∈ s.site.filed day := hFiled
      rw [hNone] at hFiled'
      cases hFiled'
    case first => exact fun _ => hBefore
    case again => exact fun hSeq => absurd rfl hSeq
  · rw [if_neg hLt]
    exact ⟨hSound.shelved, hToday, hCaught (not_lt.mp hLt)⟩

theorem head_goes
    (hSound : s.Sound sha key)
    (now : Int)
    {today day : Day}
    {seq : Nat}
    {rows : List AuditRow}
    (hPhase : s.Phase sha key (.head today day seq rows)) :
    ∃ prev,
      (ExportJob.head today day seq rows).next sha key now
          s.site =
        (s.site, .write ⟨today, day, seq, rows, prev⟩ .putKey) ∧
      s.Phase sha key
        (.write ⟨today, day, seq, rows, prev⟩ .putKey) := by
  rcases Site.chainHead_of_chained hSound.shelved.chained with
    ⟨prev, hHead⟩
  refine ⟨prev, ?_, hPhase, hHead, trivial⟩
  simp only [ExportJob.next]
  rw [hHead]
  rfl

theorem recount_goes
    (hSound : s.Sound sha key)
    (now : Int)
    {today : Day}
    (hPhase : s.Phase sha key (.recount today)) :
    Goes sha key s
      ((ExportJob.recount today).next sha key now s.site) := by
  simp only [ExportJob.next]
  by_cases hNone :
      (s.site.exportsFor (today - 2)).isEmpty = true
  · simp only [if_pos hNone]
    exact ⟨hSound.shelved, hPhase⟩
  · simp only [if_neg hNone]
    rw [List.isEmpty_iff] at hNone
    exact ⟨hSound.shelved, hPhase.1, hPhase.2, rfl, hNone⟩

theorem count_goes
    (hSound : s.Sound sha key)
    (now : Int)
    {today : Day}
    {exports : List (Export H)}
    (hPhase : s.Phase sha key (.count today exports)) :
    Goes sha key s
      ((ExportJob.count today exports).next sha key now
        s.site) := by
  rcases hPhase with ⟨hToday, hCaught, hExports, hSome⟩
  simp only [ExportJob.next]
  by_cases hAll :
      s.site.dayCount (today - 2) ≤
        (exports.map Export.rowCount).sum
  · simp only [if_pos hAll]
    exact ⟨hSound.shelved, hToday, hCaught⟩
  · simp only [if_neg hAll]
    refine ⟨hSound.shelved, hToday, hCaught, ?_⟩
    rw [hExports] at hSome ⊢
    exact Site.nextSeq_of_last hSome

theorem collect_goes
    (hSound : s.Sound sha key)
    (now : Int)
    {today : Day}
    {seq : Nat}
    (hPhase : s.Phase sha key (.collect today seq)) :
    ∃ ids,
      (ExportJob.collect today seq).next sha key now s.site =
        (s.site, .late today seq ids) ∧
      s.Phase sha key (.late today seq ids) := by
  rcases hPhase with ⟨hToday, hCaught, hNext⟩
  rcases hSound.shelved.exportedIds (today - 2) with
    ⟨ids, hIds, hMem⟩
  refine ⟨ids, ?_, hToday, hCaught, hNext, hMem⟩
  simp only [ExportJob.next]
  rw [hIds]
  rfl

omit [DecidableEq H] in
/- The rows of the day that no file of it has. -/
theorem mem_lateRows
    {day : Day}
    {ids : List Nat}
    {r : AuditRow} :
    r ∈ (s.site.dayRows day).filter (fun r =>
        !ids.contains r.id) ↔
      (r ∈ s.site.logs ∧ r.day = day) ∧ r.id ∉ ids := by
  rw [List.mem_filter, Site.mem_dayRows, Bool.not_eq_true',
    ← Bool.not_eq_true, List.contains_iff_mem]

theorem late_goes
    (hSound : s.Sound sha key)
    (now : Int)
    {today : Day}
    {seq : Nat}
    {ids : List Nat}
    (hPhase : s.Phase sha key (.late today seq ids)) :
    Goes sha key s
      ((ExportJob.late today seq ids).next sha key now
        s.site) := by
  rcases hPhase with ⟨hToday, hCaught, hNext, hIds⟩
  refine ⟨hSound.shelved, ?_⟩
  constructor
  case begun => exact hToday
  case before => exact Int.sub_lt_self today (by decide)
  case nodup =>
    exact (Site.dayRows_nodup hSound.site _).filter _
  case apart =>
    intro r hRow hFiled
    exact (mem_lateRows.mp hRow).2
      ((hIds r.id).mpr ⟨r, hFiled, rfl⟩)
  case first => exact fun hSeq => absurd hSeq hNext.some
  case again => exact fun _ => ⟨rfl, hNext, hCaught⟩

/- A run goes on, wherever it is. -/
theorem next_goes
    (hIdeal : Function.Injective sha)
    (hSound : s.Sound sha key)
    (now : Int)
    {job : ExportJob H}
    (hPhase : s.Phase sha key job)
    (hLeft : ∀ w, job = .write w .look →
      Adoptable sha s.site w = true) :
    Goes sha key s (job.next sha key now s.site) := by
  cases job with
  | start today => exact start_goes hSound now hPhase
  | days today day => exact days_goes hSound now hPhase
  | head today day seq rows =>
      rcases head_goes hSound now hPhase with
        ⟨prev, hEq, hPhase'⟩
      rw [hEq]
      exact ⟨hSound.shelved, hPhase'⟩
  | write w stage =>
      apply writeNext_goes hIdeal hSound.shelved now hPhase
      intro hLook
      rw [hLook] at hLeft
      exact hLeft w rfl
  | recount today => exact recount_goes hSound now hPhase
  | count today exports => exact count_goes hSound now hPhase
  | collect today seq =>
      rcases collect_goes hSound now hPhase with
        ⟨ids, hEq, hPhase'⟩
      rw [hEq]
      exact ⟨hSound.shelved, hPhase'⟩
  | late today seq ids => exact late_goes hSound now hPhase
  | done today => exact ⟨hSound.shelved, hPhase⟩
  | raised e => cases hPhase

end Daily

end AuditLog

end TrueNorth

--------
-- How Long a Run Is
--------

namespace TrueNorth

namespace AuditLog

open Checks

variable {H : Type} [DecidableEq H]

namespace ExportJob

variable {sha : Blob H → H}
variable {key : Nat}

omit [DecidableEq H] in
theorem sooner_of_lt
    {job job' : ExportJob H}
    {n n' : Nat}
    (hLeft : job.left = (0, n))
    (hLeft' : job'.left = (0, n'))
    (hLt : n' < n) :
    Sooner job' job := by
  unfold Sooner
  rw [hLeft, hLeft']
  exact .right 0 hLt

omit [DecidableEq H] in
theorem sooner_start
    {today : Day}
    {job' : ExportJob H}
    {n' : Nat}
    (hLeft' : job'.left = (0, n')) :
    Sooner job' (.start today) := by
  unfold Sooner
  rw [hLeft']
  exact .left n' 0 Nat.zero_lt_one

omit [DecidableEq H] in
theorem sooner_raised
    {job : ExportJob H}
    (hRunning : job.running = true)
    (e : AuditError) :
    Sooner (.raised e) job := by
  have hLeft : (ExportJob.raised e : ExportJob H).left = (0, 0) :=
    rfl
  cases job with
  | start today => exact sooner_start hLeft
  | days today day =>
      exact sooner_of_lt rfl hLeft (by omega)
  | head today day seq rows =>
      exact sooner_of_lt rfl hLeft (by omega)
  | write w stage =>
      have hStage : 0 < stage.left := by
        cases stage with
        | _ => exact Nat.succ_pos _
      exact sooner_of_lt rfl hLeft (by omega)
  | recount today => exact sooner_of_lt rfl hLeft (by decide)
  | count today exports =>
      exact sooner_of_lt rfl hLeft (by decide)
  | collect today seq =>
      exact sooner_of_lt rfl hLeft (by decide)
  | late today seq ids =>
      exact sooner_of_lt rfl hLeft (by decide)
  | done today => cases hRunning
  | raised e => cases hRunning

/- The next stage of a write, or the end of the run. -/
theorem putting_sooner
    (s : Site H)
    (name : Name)
    (data : Blob H)
    {w : Writing H}
    {stage stage' : Stage H}
    (hLt : stage'.left < stage.left) :
    Sooner (putting s name data (.write w stage')).2
      (.write w stage) := by
  rcases putting_cases s name data (.write w stage') with
    ⟨e, hEq⟩ | ⟨a, _, hEq⟩
  · rw [hEq]
    exact sooner_raised rfl e
  · rw [hEq]
    exact sooner_of_lt rfl rfl (Nat.add_lt_add_left hLt _)

omit [DecidableEq H] in
theorem reading_sooner
    {A : Type}
    (s : Site H)
    (x : Except AuditError A)
    {next : A → ExportJob H}
    {job : ExportJob H}
    (hRunning : job.running = true)
    (hNext : ∀ a, Sooner (next a) job) :
    Sooner (reading s x next).2 job := by
  rcases reading_cases s x next with
    ⟨e, _, hEq⟩ | ⟨a, _, hEq⟩
  · rw [hEq]
    exact sooner_raised hRunning e
  · rw [hEq]
    exact hNext a

omit [DecidableEq H] in
theorem after_sooner
    (w : Writing H)
    (m : Manifest H) :
    Sooner w.after (.write w (.record m)) := by
  unfold Writing.after
  by_cases hFirst : w.seq = 0
  · rw [if_pos hFirst]
    apply sooner_of_lt rfl rfl
    unfold rest
    rw [if_pos hFirst]
    exact Nat.lt_succ_self _
  · rw [if_neg hFirst]
    apply sooner_of_lt rfl rfl
    exact Nat.succ_pos _

theorem writeNext_sooner
    (now : Int)
    (s : Site H)
    (w : Writing H)
    (stage : Stage H) :
    Sooner (writeNext sha key now s w stage).2
      (.write w stage) := by
  cases stage with
  | putKey =>
      exact putting_sooner s _ _ (by simp [Stage.left])
  | look =>
      simp only [writeNext]
      by_cases hThere : s.archive.stores w.manifestName = true
      · rw [if_pos hThere]
        apply reading_sooner s _ rfl
        intro m
        exact sooner_of_lt rfl rfl
          (Nat.add_lt_add_left (by simp [Stage.left]) _)
      · rw [if_neg hThere]
        exact sooner_of_lt rfl rfl
          (Nat.add_lt_add_left (by simp [Stage.left]) _)
  | putFile =>
      exact putting_sooner s _ _ (by simp [Stage.left])
  | putManifest m =>
      exact putting_sooner s _ _ (by simp [Stage.left])
  | putSig m =>
      exact putting_sooner s _ _ (by simp [Stage.left])
  | verify m =>
      apply reading_sooner s _ rfl
      intro _
      exact sooner_of_lt rfl rfl
        (Nat.add_lt_add_left (by simp [Stage.left]) _)
  | record m =>
      simp only [writeNext]
      by_cases hThere :
          s.exports.any (fun e =>
            e.day = w.day && e.seq = w.seq) = true
      · rw [if_pos hThere]
        exact sooner_raised rfl _
      · rw [if_neg hThere]
        exact after_sooner w m

/- Each step of a run has less left to do than the last. -/
theorem next_sooner
    (now : Int)
    (s : Site H)
    {job : ExportJob H}
    (hRunning : job.running = true)
    (hLate : ∀ today seq ids, job = .late today seq ids →
      seq ≠ 0) :
    Sooner (job.next sha key now s).2 job := by
  cases job with
  | start today =>
      simp only [ExportJob.next]
      cases s.lastExportDay with
      | some last => exact sooner_start rfl
      | none =>
          cases s.firstRowDay with
          | some day => exact sooner_start rfl
          | none => exact sooner_start rfl
  | days today day =>
      simp only [ExportJob.next]
      by_cases hLt : day < today
      · rw [if_pos hLt]
        apply sooner_of_lt rfl rfl
        have hDays : ∀ d t : Int, d < t →
            (t - d).toNat = (t - (d + 1)).toNat + 1 := by
          intro d t hlt
          omega
        unfold rest
        rw [if_pos rfl, hDays day today hLt]
        omega
      · rw [if_neg hLt]
        apply sooner_of_lt rfl rfl
        omega
  | head today day seq rows =>
      apply reading_sooner s _ rfl
      intro prev
      exact sooner_of_lt rfl rfl
        (Nat.add_lt_add_left (by simp [Stage.left]) _)
  | write w stage => exact writeNext_sooner now s w stage
  | recount today =>
      simp only [ExportJob.next]
      by_cases hNone : (s.exportsFor (today - 2)).isEmpty = true
      · simp only [if_pos hNone]
        exact sooner_of_lt rfl rfl (by decide)
      · simp only [if_neg hNone]
        exact sooner_of_lt rfl rfl (by decide)
  | count today exports =>
      simp only [ExportJob.next]
      by_cases hAll :
          s.dayCount (today - 2) ≤
            (exports.map Export.rowCount).sum
      · simp only [if_pos hAll]
        exact sooner_of_lt rfl rfl (by decide)
      · simp only [if_neg hAll]
        exact sooner_of_lt rfl rfl (by decide)
  | collect today seq =>
      apply reading_sooner s _ rfl
      intro ids
      exact sooner_of_lt rfl rfl (by decide)
  | late today seq ids =>
      apply sooner_of_lt rfl rfl
      unfold rest
      rw [if_neg (hLate today seq ids rfl)]
      decide
  | done today => cases hRunning
  | raised e => cases hRunning

end ExportJob

end AuditLog

end TrueNorth
