import Mathlib.Data.List.Perm.Subperm
import TrueNorth.Lib.Runs
import TrueNorth.AuditLog.Filed
import TrueNorth.AuditLog.IdealHash

/-
  What retention deletes had been exported, for as long as no
  other run purges a day between a run's count of it and its
  DELETE and as many late rows take the place of those that
  went.

  Between the two, any transaction may commit.  A run keeps
  the number of rows it counted, and deletes whatever has
  that number: what matters is that the rows it counted are
  still there.

  Key definitions include:
    * `PurgesSafe`
    * `Intact`

  Main theorem:
    * `Workers.purges_only_what_is_exported`
-/

--------
-- Runs of Retention
--------

namespace TrueNorth

namespace AuditLog

open Checks

variable {H : Type} [DecidableEq H]

/- The rows a run has counted. -/
structure Counted
    (s : Site H)
    (day : Day)
    (counted : List AuditRow) : Prop where
  some : counted ≠ []
  nodup : counted.Nodup
  known : s.Known day counted

/- The counted rows, against the ids in the day's files. -/
structure Compared
    (s : Site H)
    (day : Day)
    (counted : List AuditRow)
    (ids : List Nat) : Prop where
  filed : ∀ r ∈ counted, r ∈ s.logs → r.id ∈ ids
  -- the ids' rows are there, unless the day was purged
  there :
    (∀ i ∈ ids, ∃ r ∈ s.logs, r.day = day ∧ r.id = i) ∨
      ∀ r ∈ counted, r ∉ s.logs

namespace RetentionJob

variable {sha : Blob H → H}
variable {key : Nat}
variable {s s' : Site H}

def Sound
    (sha : Blob H → H)
    (key : Nat)
    (s : Site H) :
    RetentionJob H → Prop
| .tally _ day counted => Counted s day counted
| .verify _ day counted _ => Counted s day counted
| .collect _ day counted => Counted s day counted
| .compare _ day counted ids =>
    Counted s day counted ∧ ∀ i ∈ ids, Filed sha key s day i
| .checks _ day counted ids =>
    Counted s day counted ∧
      (∀ i ∈ ids, Filed sha key s day i) ∧
        Compared s day counted ids
| .purge _ day counted ids _ =>
    Counted s day counted ∧
      (∀ i ∈ ids, Filed sha key s day i) ∧
        Compared s day counted ids
| _ => True

omit [DecidableEq H] in
theorem counted_later
    (hLater : s.Later s')
    {day : Day}
    {counted : List AuditRow}
    (hCounted : Counted s day counted) :
    Counted s' day counted :=
  ⟨hCounted.some, hCounted.nodup, hLater.known hCounted.known⟩

omit [DecidableEq H] in
/- A purge of the day takes all its rows, and for good. -/
theorem compared_later
    (hLater : s.Later s')
    {day : Day}
    {counted : List AuditRow}
    {ids : List Nat}
    (hCounted : Counted s day counted)
    (hCompared : Compared s day counted ids) :
    Compared s' day counted ids := by
  constructor
  case filed =>
    intro r hMem hLogs
    exact hCompared.filed r hMem
      (hLater.back r (hCounted.known r hMem).1 hLogs)
  case there =>
    rcases hLater.whole day with hStay | hGone
    · rcases hCompared.there with hThere | hNone
      · left
        intro i hId
        rcases hThere i hId with ⟨r, hLogs, hDay, hSame⟩
        exact ⟨r, hStay r hLogs hDay, hDay, hSame⟩
      · right
        intro r hMem hLogs
        exact hNone r hMem
          (hLater.back r (hCounted.known r hMem).1 hLogs)
    · right
      intro r hMem
      rcases hCounted.known r hMem with ⟨hHistory, hDay⟩
      exact hGone r hHistory hDay

theorem Sound.later
    {job : RetentionJob H}
    (hJob : job.Sound sha key s)
    (hLater : s.Later s') :
    job.Sound sha key s' := by
  cases job with
  | start cutoff => trivial
  | days cutoff day => trivial
  | tally cutoff day counted => exact counted_later hLater hJob
  | verify cutoff day counted exports =>
      exact counted_later hLater hJob
  | collect cutoff day counted =>
      exact counted_later hLater hJob
  | compare cutoff day counted ids =>
      exact ⟨counted_later hLater hJob.1,
        fun i hId => (hJob.2 i hId).later hLater⟩
  | checks cutoff day counted ids =>
      exact ⟨counted_later hLater hJob.1,
        fun i hId => (hJob.2.1 i hId).later hLater,
        compared_later hLater hJob.1 hJob.2.2⟩
  | purge cutoff day counted ids exports =>
      exact ⟨counted_later hLater hJob.1,
        fun i hId => (hJob.2.1 i hId).later hLater,
        compared_later hLater hJob.1 hJob.2.2⟩
  | stopped => trivial
  | raised e => trivial

theorem mem_of_sameIds
    {ids ids' : List Nat}
    (hSame : sameIds ids ids' = true) :
    ∀ i, i ∈ ids ↔ i ∈ ids' := by
  unfold sameIds at hSame
  rw [Bool.and_eq_true, List.all_eq_true, List.all_eq_true]
    at hSame
  intro i
  constructor
  · intro hMem
    exact List.contains_iff_mem.mp (hSame.1 i hMem)
  · intro hMem
    exact List.contains_iff_mem.mp (hSame.2 i hMem)

theorem sameIds_of_mem
    {ids ids' : List Nat}
    (hSame : ∀ i, i ∈ ids ↔ i ∈ ids') :
    sameIds ids ids' = true := by
  unfold sameIds
  rw [Bool.and_eq_true, List.all_eq_true, List.all_eq_true]
  constructor
  · intro i hMem
    exact List.contains_iff_mem.mpr ((hSame i).mp hMem)
  · intro i hMem
    exact List.contains_iff_mem.mpr ((hSame i).mpr hMem)

omit [DecidableEq H] in
theorem checking_cases
    {A : Type}
    (s : Site H)
    (x : Except AuditError A)
    (next : A → RetentionJob H) :
    (checking s x next = (s, .stopped)) ∨
      ∃ a, x = .ok a ∧ checking s x next = (s, next a) := by
  cases x with
  | error e => exact .inl rfl
  | ok a => exact .inr ⟨a, rfl, rfl⟩

omit [DecidableEq H] in
/- What the count of a day read. -/
theorem counted_ofDay
    (hSound : s.Sound)
    {day : Day}
    (hLive : s.dayCount day ≠ 0) :
    Counted s day (s.ofDay day) := by
  constructor
  case some =>
    intro hNone
    apply hLive
    unfold Site.dayCount
    rw [hNone]
    rfl
  case nodup => exact hSound.ofDay_nodup day
  case known => exact hSound.ofDay_known day

omit [DecidableEq H] in
/- The comparison that passed. -/
theorem compared_of_same
    {day : Day}
    {counted : List AuditRow}
    {ids : List Nat}
    (hCounted : Counted s day counted)
    (hSame :
      sameIds ids ((s.dayRows day).map AuditRow.id) = true) :
    Compared s day counted ids := by
  have hIds := mem_of_sameIds hSame
  constructor
  case filed =>
    intro r hMem hLogs
    apply (hIds r.id).mpr
    exact List.mem_map_of_mem
      (Site.mem_dayRows.mpr ⟨hLogs, (hCounted.known r hMem).2⟩)
  case there =>
    left
    intro i hId
    rcases List.mem_map.mp ((hIds i).mp hId) with
      ⟨r, hRow, hEq⟩
    rcases Site.mem_dayRows.mp hRow with ⟨hLogs, hDay⟩
    exact ⟨r, hLogs, hDay, hEq⟩

end RetentionJob

end AuditLog

end TrueNorth

--------
-- Purges
--------

namespace TrueNorth

namespace AuditLog

open Checks

variable {H : Type} [DecidableEq H]

/-
  What was deleted had been exported, and each purge deleted
  exactly the rows its check had verified.
-/
structure PurgesSafe
    (sha : Blob H → H)
    (key : Nat)
    (s : Site H) : Prop where
  recorded : ∀ r ∈ s.history, r ∉ s.logs →
    ∃ p ∈ s.purges, r ∈ p.deleted
  exported : ∀ p ∈ s.purges, ∀ r ∈ p.deleted,
    r.day = p.day ∧ Exported sha key s r
  exact : ∀ p ∈ s.purges,
    sameIds (p.deleted.map AuditRow.id) p.verified = true ∧
      ∀ i ∈ p.verified, Filed sha key s p.day i

namespace PurgesSafe

variable {sha : Blob H → H}
variable {key : Nat}
variable {s s' : Site H}

/- A step that purges nothing keeps purges safe. -/
theorem later
    (hSafe : PurgesSafe sha key s)
    (hLater : s.Later s')
    (hPurges : s'.purges = s.purges)
    (hLogs : ∀ r ∈ s'.history, r ∉ s'.logs →
      r ∈ s.history ∧ r ∉ s.logs) :
    PurgesSafe sha key s' := by
  constructor
  case recorded =>
    intro r hMem hGone
    rw [hPurges]
    rcases hLogs r hMem hGone with ⟨hMem', hGone'⟩
    exact hSafe.recorded r hMem' hGone'
  case exported =>
    rw [hPurges]
    intro p hPurge r hRow
    rcases hSafe.exported p hPurge r hRow with
      ⟨hDay, hExported⟩
    exact ⟨hDay, hExported.later hLater⟩
  case exact =>
    rw [hPurges]
    intro p hPurge
    rcases hSafe.exact p hPurge with ⟨hSame, hFiled⟩
    exact ⟨hSame, fun i hId => (hFiled i hId).later hLater⟩

theorem insert
    (hSafe : PurgesSafe sha key s)
    (r : AuditRow) :
    PurgesSafe sha key (s.insert r) := by
  apply hSafe.later (Site.insert_later s r)
  · rcases Site.insert_cases s r with hSame | ⟨_, hNew⟩
    · rw [hSame]
    · rw [hNew]
  · intro r' hMem hGone
    rcases Site.insert_cases s r with hSame | ⟨_, hNew⟩
    · rw [hSame] at hMem hGone
      exact ⟨hMem, hGone⟩
    · rw [hNew] at hMem hGone
      rw [List.mem_append, not_or] at hGone
      rcases List.mem_append.mp hMem with hMem | hLast
      · exact ⟨hMem, hGone.1⟩
      · exact absurd hLast hGone.2

end PurgesSafe

namespace Site

variable {s : Site H}

omit [DecidableEq H] in
/- The site of a purge, its audit row aside. -/
def withoutDay
    (s : Site H)
    (now : Int)
    (day : Day)
    (ids : List Nat)
    (exports : List (Export H)) : Site H :=
  { s with
    logs := s.logs.filter (fun r => r.day ≠ day)
    checks := s.checks ++ exports.map (checkOf now)
    purges := s.purges ++ [⟨day, s.ofDay day, ids⟩] }

variable {now : Int}
variable {day : Day}
variable {ids : List Nat}
variable {exports : List (Export H)}

omit [DecidableEq H] in
theorem mem_withoutDay
    {r : AuditRow} :
    r ∈ (s.withoutDay now day ids exports).logs ↔
      r ∈ s.logs ∧ r.day ≠ day := by
  unfold withoutDay
  rw [List.mem_filter, decide_eq_true_eq]

omit [DecidableEq H] in
theorem withoutDay_later :
    s.Later (s.withoutDay now day ids exports) := by
  constructor
  case archive => exact .refl _
  case exports => exact fun _ hMem => hMem
  case history => exact fun _ hMem => hMem
  case back =>
    intro r _ hLogs
    exact (mem_withoutDay.mp hLogs).1
  case whole =>
    intro d
    by_cases hd : d = day
    · right
      intro r _ hDay hLogs
      exact (mem_withoutDay.mp hLogs).2 (hDay.trans hd)
    · left
      intro r hLogs hDay
      apply mem_withoutDay.mpr
      refine ⟨hLogs, ?_⟩
      rw [hDay]
      exact hd

omit [DecidableEq H] in
theorem Sound.withoutDay
    (hSound : s.Sound) :
    (s.withoutDay now day ids exports).Sound where
  ids := hSound.ids
  logs := List.Sublist.trans List.filter_sublist hSound.logs
  files := hSound.files
  manifests := hSound.manifests

end Site

section

variable {sha : Blob H → H}
variable {key : Nat}
variable {s : Site H}

omit [DecidableEq H] in
/-
  As many rows as were counted, and all the counted among
  them: they are the rows that were counted.
-/
theorem ofDay_eq_counted
    {day : Day}
    {counted : List AuditRow}
    (hCounted : Counted s day counted)
    (hCount : s.dayCount day = counted.length)
    (hThere : ∀ r ∈ counted, r ∈ s.logs) :
    ∀ r, r ∈ s.ofDay day ↔ r ∈ counted := by
  have hSub : counted ⊆ s.ofDay day := by
    intro r hMem
    exact Site.mem_ofDay.mpr
      ⟨hThere r hMem, (hCounted.known r hMem).2⟩
  have hPerm : counted.Perm (s.ofDay day) := by
    apply (List.subperm_of_subset hCounted.nodup hSub)
      |>.perm_of_length_le
    exact le_of_eq hCount
  intro r
  exact hPerm.mem_iff.symm

/- A purge of what was counted is safe. -/
theorem PurgesSafe.purge
    (hSafe : PurgesSafe sha key s)
    (hSound : s.Sound)
    {now : Int}
    {day : Day}
    {counted : List AuditRow}
    {ids : List Nat}
    {exports : List (Export H)}
    (hCounted : Counted s day counted)
    (hFiled : ∀ i ∈ ids, Filed sha key s day i)
    (hCompared : Compared s day counted ids)
    (hCount : s.dayCount day = counted.length)
    (hThere : ∀ r ∈ counted, r ∈ s.logs) :
    PurgesSafe sha key
      (s.withoutDay now day ids exports) := by
  have hLater :
      s.Later (s.withoutDay now day ids exports) :=
    Site.withoutDay_later
  have hRows := ofDay_eq_counted hCounted hCount hThere
  have hIds :
      ∀ i, i ∈ (s.ofDay day).map AuditRow.id ↔ i ∈ ids := by
    intro i
    constructor
    · intro hMem
      rcases List.mem_map.mp hMem with ⟨r, hRow, rfl⟩
      have hIn := (hRows r).mp hRow
      exact hCompared.filed r hIn (hThere r hIn)
    · intro hMem
      rcases hCompared.there with hAll | hNone
      · rcases hAll i hMem with ⟨r, hLogs, hDay, rfl⟩
        exact List.mem_map_of_mem
          (Site.mem_ofDay.mpr ⟨hLogs, hDay⟩)
      · rcases List.exists_mem_of_ne_nil _ hCounted.some with
          ⟨r, hIn⟩
        exact absurd (hThere r hIn) (hNone r hIn)
  constructor
  case recorded =>
    intro r hMem hGone
    by_cases hWas : r ∈ s.logs
    · by_cases hDay : r.day = day
      · exact ⟨_, List.mem_append_right _
          (List.mem_singleton.mpr rfl),
          Site.mem_ofDay.mpr ⟨hWas, hDay⟩⟩
      · exact absurd (Site.mem_withoutDay.mpr ⟨hWas, hDay⟩)
          hGone
    · rcases hSafe.recorded r hMem hWas with
        ⟨p, hPurge, hRow⟩
      exact ⟨p, List.mem_append_left _ hPurge, hRow⟩
  case exported =>
    intro p hPurge r hRow
    rcases List.mem_append.mp hPurge with hOld | hNew
    · rcases hSafe.exported p hOld r hRow with
        ⟨hDay, hExported⟩
      exact ⟨hDay, hExported.later hLater⟩
    · rw [List.mem_singleton] at hNew
      rw [hNew] at hRow ⊢
      rcases Site.mem_ofDay.mp hRow with ⟨hLogs, hDay⟩
      refine ⟨hDay, Exported.later hLater ?_⟩
      apply Site.exported_of_id hSound
        (hSound.logs.subset hLogs)
      rw [hDay]
      exact hFiled _ ((hIds _).mp (List.mem_map_of_mem hRow))
  case exact =>
    intro p hPurge
    rcases List.mem_append.mp hPurge with hOld | hNew
    · rcases hSafe.exact p hOld with ⟨hSame, hAll⟩
      exact ⟨hSame, fun i hId => (hAll i hId).later hLater⟩
    · rw [List.mem_singleton] at hNew
      rw [hNew]
      exact ⟨RetentionJob.sameIds_of_mem hIds,
        fun i hId => (hFiled i hId).later hLater⟩

end

--------
-- Steps of Retention
--------

open Checks

variable {H : Type} [DecidableEq H]

namespace Site

omit [DecidableEq H] in
/- A purge is what it leaves, and its audit row. -/
theorem purged_eq
    (dump : Nat → List H → String)
    (s : Site H)
    (now : Int)
    (id : Nat)
    (day : Day)
    (ids : List Nat)
    (exports : List (Export H)) :
    s.purged dump now id day ids exports =
      (s.withoutDay now day ids exports).insert
        (purgeRow dump now id day (s.dayCount day)
          (exports.map Export.manifestSha)) := rfl

end Site

namespace RetentionJob

variable {sha : Blob H → H}
variable {key : Nat}
variable {s : Site H}

/- A step deletes nothing, or is a purge that goes through. -/
theorem next_cases
    (dump : Nat → List H → String)
    (now : Int)
    (id : Nat)
    (hSound : s.Sound)
    {job : RetentionJob H}
    (hJob : job.Sound sha key s) :
    (∃ job', job.next sha dump key now id s = (s, job') ∧
      job'.Sound sha key s) ∨
      ∃ cutoff day counted ids exports,
        job = .purge cutoff day counted ids exports ∧
        s.dayCount day = counted.length ∧
        job.next sha dump key now id s =
          (s.purged dump now id day ids exports,
            .days cutoff (day + 1)) := by
  cases job with
  | start cutoff =>
      left
      simp only [RetentionJob.next]
      cases s.firstRowDay with
      | none => exact ⟨_, rfl, trivial⟩
      | some day => exact ⟨_, rfl, trivial⟩
  | days cutoff day =>
      left
      simp only [RetentionJob.next]
      by_cases hOld : day < cutoff
      · by_cases hNone : s.dayCount day = 0
        · rw [if_pos hOld, if_pos hNone]
          exact ⟨_, rfl, trivial⟩
        · rw [if_pos hOld, if_neg hNone]
          exact ⟨_, rfl, counted_ofDay hSound hNone⟩
      · rw [if_neg hOld]
        exact ⟨_, rfl, trivial⟩
  | tally cutoff day counted =>
      left
      simp only [RetentionJob.next]
      by_cases hNone : (s.exportsFor day).isEmpty = true
      · rw [if_pos hNone]
        exact ⟨_, rfl, trivial⟩
      · rw [if_neg hNone]
        by_cases hOff :
            ((s.exportsFor day).map Export.rowCount).sum ≠
              counted.length
        · rw [if_pos hOff]
          exact ⟨_, rfl, trivial⟩
        · rw [if_neg hOff]
          exact ⟨_, rfl, hJob⟩
  | verify cutoff day counted exports =>
      left
      simp only [RetentionJob.next]
      rcases checking_cases s
          (exports.mapM (s.verifyExport sha key))
          (fun _ => .collect cutoff day counted) with
        hEq | ⟨_, _, hEq⟩
      · exact ⟨_, hEq, trivial⟩
      · exact ⟨_, hEq, hJob⟩
  | collect cutoff day counted =>
      left
      simp only [RetentionJob.next]
      rcases checking_cases s (s.exportedIds sha key day)
          (fun ids => .compare cutoff day counted ids) with
        hEq | ⟨ids, hIds, hEq⟩
      · exact ⟨_, hEq, trivial⟩
      · exact ⟨_, hEq, hJob, Site.filed_of_exportedIds hIds⟩
  | compare cutoff day counted ids =>
      left
      simp only [RetentionJob.next]
      by_cases hSame :
          sameIds ids ((s.dayRows day).map AuditRow.id) = true
      · rw [if_pos hSame]
        exact ⟨_, rfl, hJob.1, hJob.2,
          compared_of_same hJob.1 hSame⟩
      · rw [if_neg hSame]
        exact ⟨_, rfl, trivial⟩
  | checks cutoff day counted ids =>
      left
      exact ⟨_, rfl, hJob⟩
  | purge cutoff day counted ids exports =>
      simp only [RetentionJob.next]
      by_cases hOff : s.dayCount day ≠ counted.length
      · left
        rw [if_pos hOff]
        exact ⟨_, rfl, trivial⟩
      · right
        rw [if_neg hOff]
        exact ⟨cutoff, day, counted, ids, exports, rfl,
          not_not.mp hOff, rfl⟩
  | stopped =>
      left
      exact ⟨_, rfl, trivial⟩
  | raised e =>
      left
      exact ⟨_, rfl, trivial⟩

end RetentionJob

end AuditLog

end TrueNorth

--------
-- Runs
--------

namespace TrueNorth

namespace AuditLog

open Checks

variable {H : Type} [DecidableEq H]

/-
  A purge about to delete as many rows of its day as were
  counted: the counted rows are all still there.
-/
def Intact
    (ws : Workers H) :
    Act → Prop
| .step worker _ _ =>
    match ws.jobs worker with
    | .retaining (.purge _ day counted _ _) =>
        ws.site.dayCount day = counted.length →
          ∀ r ∈ counted, r ∈ ws.site.logs
    | _ => True
| _ => True

instance
    (ws : Workers H)
    (a : Act) :
    Decidable (Intact ws a) := by
  unfold Intact
  repeat' split
  all_goals infer_instance

/- What a worker is running is sound. -/
def Job.Sound
    (sha : Blob H → H)
    (key : Nat)
    (s : Site H) :
    Job H → Prop
| .idle => True
| .exporting job => job.Sound s
| .retaining job => job.Sound sha key s

theorem Job.Sound.later
    {sha : Blob H → H}
    {key : Nat}
    {s s' : Site H}
    {job : Job H}
    (hJob : job.Sound sha key s)
    (hLater : s.Later s') :
    job.Sound sha key s' := by
  cases job with
  | idle => trivial
  | exporting job => exact ExportJob.Sound.later hJob hLater
  | retaining job => exact RetentionJob.Sound.later hJob hLater

namespace Workers

variable {cfg : Config H}
variable {ws : Workers H}

structure Sound
    (cfg : Config H)
    (ws : Workers H) : Prop where
  site : ws.site.Sound
  jobs : ∀ worker, (ws.jobs worker).Sound cfg.sha cfg.key ws.site
  safe : PurgesSafe cfg.sha cfg.key ws.site

theorem Sound.fresh :
    Sound cfg (Workers.fresh : Workers H) := by
  constructor
  case site =>
    constructor
    case ids => exact List.nodup_nil
    case logs => exact .slnil
    case files =>
      intro d q b hGet
      cases hGet
    case manifests =>
      intro d q b hGet
      cases hGet
  case jobs =>
    intro worker
    trivial
  case safe =>
    constructor
    case recorded =>
      intro r hMem
      cases hMem
    case exported =>
      intro p hMem
      cases hMem
    case exact =>
      intro p hMem
      cases hMem

/- A site that went on, and one worker's new job. -/
theorem Sound.went
    (hWorkers : Sound cfg ws)
    {site : Site H}
    (hLater : ws.site.Later site)
    (hSite : site.Sound)
    (hSafe : PurgesSafe cfg.sha cfg.key site)
    (worker : Nat)
    {job : Job H}
    (hJob : job.Sound cfg.sha cfg.key site) :
    Sound cfg { ws.setJob worker job with site := site } := by
  refine ⟨hSite, ?_, hSafe⟩
  intro w
  by_cases hw : w = worker
  · have hNew :
        Function.update ws.jobs worker job w = job := by
      rw [hw, Function.update_self]
    change (Function.update ws.jobs worker job w).Sound
      cfg.sha cfg.key site
    rw [hNew]
    exact hJob
  · have hOld :
        Function.update ws.jobs worker job w = ws.jobs w :=
      Function.update_of_ne hw _ _
    change (Function.update ws.jobs worker job w).Sound
      cfg.sha cfg.key site
    rw [hOld]
    exact (hWorkers.jobs w).later hLater

/- A task begun, or lost. -/
theorem Sound.setJob
    (hWorkers : Sound cfg ws)
    (worker : Nat)
    {job : Job H}
    (hJob : job.Sound cfg.sha cfg.key ws.site) :
    Sound cfg (ws.setJob worker job) :=
  hWorkers.went (.refl _) hWorkers.site hWorkers.safe worker
    hJob

theorem Sound.insert
    (hWorkers : Sound cfg ws)
    (r : AuditRow) :
    Sound cfg { ws with site := ws.site.insert r } where
  site := hWorkers.site.insert r
  jobs := fun worker =>
    (hWorkers.jobs worker).later (Site.insert_later _ r)
  safe := hWorkers.safe.insert r

theorem Sound.export
    (hWorkers : Sound cfg ws)
    {worker : Nat}
    (now : Int)
    {job : ExportJob H}
    (hJob : job.Sound ws.site) :
    let next := job.next cfg.sha cfg.key now ws.site
    Sound cfg
      { ws.setJob worker (.exporting next.2) with
        site := next.1 } := by
  intro next
  have hWrote :
      ExportJob.Wrote cfg.key ws.site job next.1 :=
    ExportJob.next_wrote now ws.site job
  have hLater := hWrote.later
  apply hWorkers.went hLater
    (hWrote.sound hWorkers.site hJob)
  · apply hWorkers.safe.later hLater hWrote.purges
    intro r hMem hGone
    rw [hWrote.rows.2] at hMem
    rw [hWrote.rows.1] at hGone
    exact ⟨hMem, hGone⟩
  · exact ExportJob.Sound.later
      (ExportJob.next_sound now hWorkers.site hJob) hLater

theorem Sound.retain
    (hWorkers : Sound cfg ws)
    {worker : Nat}
    {now : Int}
    {id : Nat}
    {job : RetentionJob H}
    (hWorker : ws.jobs worker = .retaining job)
    (hIntact : Intact ws (.step worker now id)) :
    let next :=
      job.next cfg.sha cfg.dump cfg.key now id ws.site
    Sound cfg
      { ws.setJob worker (.retaining next.2) with
        site := next.1 } := by
  intro next
  have hJob : job.Sound cfg.sha cfg.key ws.site := by
    have hAny := hWorkers.jobs worker
    rw [hWorker] at hAny
    exact hAny
  rcases RetentionJob.next_cases cfg.dump now id
      hWorkers.site hJob with
    ⟨job', hNext, hJob'⟩ |
    ⟨cutoff, day, counted, ids, exports, hPurge, hCount, hNext⟩
  · have hSame : next = (ws.site, job') := hNext
    rw [hSame]
    exact hWorkers.setJob worker hJob'
  · have hSame :
        next =
          (ws.site.purged cfg.dump now id day ids exports,
            .days cutoff (day + 1)) := hNext
    rw [hSame, Site.purged_eq]
    rw [hPurge] at hJob
    have hThere : ∀ r ∈ counted, r ∈ ws.site.logs := by
      simp only [Intact, hWorker, hPurge] at hIntact
      exact hIntact hCount
    have hSafe :
        PurgesSafe cfg.sha cfg.key
          (ws.site.withoutDay now day ids exports) :=
      hWorkers.safe.purge hWorkers.site hJob.1 hJob.2.1
        hJob.2.2 hCount hThere
    apply hWorkers.went
    · exact Site.Later.trans Site.withoutDay_later
        (Site.insert_later _ _)
    · exact (Site.Sound.withoutDay hWorkers.site).insert _
    · exact hSafe.insert _
    · trivial

theorem Sound.step
    (hWorkers : Sound cfg ws)
    {a : Act}
    (hIntact : Intact ws a) :
    Sound cfg (ws.step cfg a) := by
  cases a with
  | insert r => exact hWorkers.insert r
  | runExport worker today =>
      exact hWorkers.setJob worker trivial
  | runRetention worker today =>
      simp only [Workers.step]
      cases cfg.hotDays with
      | none => exact hWorkers
      | some days => exact hWorkers.setJob worker trivial
  | step worker now id =>
      simp only [Workers.step, Workers.next]
      cases hWorker : ws.jobs worker with
      | idle => exact hWorkers
      | exporting job =>
          have hJob := hWorkers.jobs worker
          rw [hWorker] at hJob
          exact hWorkers.export now hJob
      | retaining job => exact hWorkers.retain hWorker hIntact
  | crash worker => exact hWorkers.setJob worker trivial

/-
  Whatever the workers do, and whoever inserts what between
  their statements: for as long as a purge that finds the
  number of rows it counted finds the rows it counted.
-/
theorem purges_only_what_is_exported
    (cfg : Config H)
    (actions : List Act)
    (hMeets :
      Runs.Meets (Workers.step cfg) Intact .fresh actions) :
    PurgesSafe cfg.sha cfg.key
      (Runs.run (Workers.step cfg) .fresh actions).site :=
  (hMeets.invariant (Sound cfg)
    (fun _ _ hIntact hWorkers => hWorkers.step hIntact)
    Sound.fresh).safe

/- Worker 0 exports, the others purge after forty days. -/
def ideal : Config Digest where
  sha := Digest.ofBlob
  dump := fun n _ => toString n
  key := 7
  hotDays := some 30

def row
    (id : Nat)
    (timestamp : Int) : AuditRow where
  id := id
  timestamp := timestamp
  userId := none
  tenantId := none
  action := "user.login"
  resourceType := "users"
  resourceId := none
  detail := none

def fortyDays : Int := 40 * AuditRow.microsPerDay

/- Day 0 exported, its one row with it. -/
def oneExported : List Act :=
  .insert (row 1 0) :: .runExport 0 1 ::
    List.replicate 12 (.step 0 AuditRow.microsPerDay 0)

theorem purges_only_what_is_exported_one :
    PurgesSafe ideal.sha ideal.key
      (Runs.run (Workers.step ideal) .fresh
        (oneExported ++ .runRetention 1 40 ::
          List.replicate 8 (.step 1 fortyDays 100))).site :=
  purges_only_what_is_exported ideal _ (by decide +kernel)

/-
  Two runs check the day; the first purges it, a row of the
  day commits late, and the second deletes that instead.
-/
theorem second_run_purges_a_late_row :
    ¬ ∀ cfg : Config Digest, Function.Injective cfg.sha →
      ∀ actions : List Act,
        PurgesSafe cfg.sha cfg.key
          (Runs.run (Workers.step cfg) .fresh actions).site := by
  intro hAlways
  have hSafe := hAlways ideal Digest.ofBlob_injective
    (oneExported ++
      [.runRetention 1 40, .runRetention 2 40] ++
      List.replicate 7 (.step 1 fortyDays 100) ++
      List.replicate 7 (.step 2 fortyDays 101) ++
      [.step 1 fortyDays 100, .insert (row 2 5),
        .step 2 fortyDays 101])
  have hExact := (hSafe.exact ⟨0, [row 2 5], [1]⟩
    (by decide +kernel)).1
  have hOther : sameIds ([row 2 5].map AuditRow.id) [1] = false :=
    rfl
  rw [hOther] at hExact
  cases hExact

end Workers

end AuditLog

end TrueNorth
