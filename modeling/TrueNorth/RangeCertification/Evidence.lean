import Mathlib.Data.Finset.Basic
import TrueNorth.Lib.Runs
import TrueNorth.RangeIsolation.Soundness
import TrueNorth.RangeOps.States

/-
  The isolation evidence as the API grades it
  (range_certification/evidence.py), from the rows the worker
  stored and never from the worker's verdict; and what a
  re-probe does to the grade (worker/db_ops.py
  `store_isolation`).

  Key definitions include:
    * `grade`
    * `isolation`
    * `Output.store`
    * `Produced`

  Main theorem:
    * `graded_as_measured`
-/

--------
-- Grades
--------

namespace TrueNorth

namespace RangeCertification

open RangeIsolation

inductive SectionStatus where
| pass
| fail
| incomplete
deriving DecidableEq

def SectionStatus.text : SectionStatus → String
| .pass => "pass"
| .fail => "fail"
| .incomplete => "incomplete"

/- `_RANK`. -/
def SectionStatus.rank : SectionStatus → Nat
| .fail => 0
| .incomplete => 1
| .pass => 2

/- A check that falls short, as `_zone_gap` tests it. -/
def falls (r : Row) : Bool :=
  (r.expect = .mustFail && r.result ≠ .proven) ||
    (r.expect = .mustConnect && r.result ≠ .reachable)

/- `_zone_gap`: why a zone is still not proven isolated. -/
def zoneGap (z : ZoneRow) : Option String :=
  if z.status ≠ .probed then
    let why := String.intercalate "; " z.reasons
    some ("zone " ++ z.zone.zone ++ ": " ++ z.status.text ++
      (if why ≠ "" then " (" ++ why ++ ")" else ""))
  else
    let weak :=
      (z.checks.filter falls).map (fun r =>
        r.named ++ " " ++ r.result.text)
    if weak ≠ [] || z.checks = [] then
      some ("zone " ++ z.zone.zone ++ ": " ++
        (if weak ≠ [] then String.intercalate ", " weak
        else "no checks recorded"))
    else
      none

/- What got out of a zone. -/
def zoneLeaks (z : ZoneRow) : List String :=
  (z.checks.filter Row.leaks).map Row.named

/- `_trusted`: every zone was measured by a trusted probe. -/
def trusted (rows : List ZoneRow) : Bool :=
  rows ≠ [] && rows.all (fun z => z.probe.any ProbeVm.trusted)

/- The status and summary of a section, and its zones. -/
structure Grade where
  status : SectionStatus
  summary : String
  zones : List ZoneRow
deriving DecidableEq

/- The zones that leak, each with what got out. -/
def leaksOf (rows : List ZoneRow) : List String :=
  (rows.filter (fun z => zoneLeaks z ≠ [])).map (fun z =>
    "zone " ++ z.zone.zone ++ ": " ++
      String.intercalate ", " (zoneLeaks z))

/- What a run that leaked nothing falls short of. -/
def gapsIn (rec : Record) : List String :=
  rec.zones.filterMap zoneGap ++
  (if rec.zones = [] then ["no range networks recorded"]
  else []) ++
  (match rec.settings with
  | none =>
      ["the probes did not run" ++
        (if rec.notes ≠ [] then
          ": " ++ String.intercalate "; " rec.notes
        else "")]
  | some settings =>
      if settings.targets = [] then
        ["no site probe targets configured " ++
          "(tn_range_isolation_probe_targets)"]
      else [])

/- `_grade`: one probe run, graded from its rows. -/
def grade (rec : Record) : Grade :=
  let rows := rec.zones
  let tail :=
    parenthesised
      [measuredFrom rows,
        String.intercalate "; "
          (rec.excluded.map ("not probed: " ++ ·))]
  let mode := " (" ++ rec.mode.text ++ " mode)"
  let leaks := leaksOf rows
  let gaps := gapsIn rec
  let count := toString rows.length
  if leaks ≠ [] then
    { status := .fail
      summary :=
        "not isolated" ++ mode ++
          ": reachable outside its exceptions: " ++
          String.intercalate "; " leaks ++ tail
      zones := rows }
  else if gaps ≠ [] then
    { status := .incomplete
      summary :=
        "isolation not proven" ++ mode ++ ", " ++
          toString
            ((rows.filter (fun z => z.status = .probed)).length) ++
          " of " ++ count ++ " zone(s) probed: " ++
          String.intercalate "; " gaps ++ tail
      zones := rows }
  else
    { status := .pass
      summary :=
        "isolated" ++ mode ++ ": " ++ count ++
          " zone(s) probed, every check that must fail proven " ++
          "unreachable, permitted exceptions connected" ++ tail
      zones := rows }

/- No probes were recorded for the build. -/
def unrecorded : Grade where
  status := .incomplete
  summary :=
    "no isolation probes recorded for this build (S4 probes " ++
      "every zone once it is ready)"
  zones := []

/- The build's own run, and the newest re-probe. -/
def buildGrade (build : Option Record) : Grade :=
  match build with
  | none => unrecorded
  | some rec => grade rec

/- `isolation`: the section of a range's certification. -/
def isolation (build again : Option Record) : Grade :=
  let graded := buildGrade build
  match again with
  | none => graded
  | some rec =>
      let regraded := grade rec
      if trusted regraded.zones ||
          regraded.status.rank ≤ graded.status.rank then
        { regraded with
          summary :=
            "re-probe " ++ rec.ranAt ++ ": " ++ regraded.summary }
      else
        { graded with
          summary :=
            graded.summary ++ "; a later re-probe from VMs " ++
              "Students may control (" ++ regraded.status.text ++
              ") cannot raise this" }

--------
-- Re-Probes
--------

open RangeIsolation

/- What a range's row says of its state, VMs and evidence. -/
structure Output where
  state : RangeOps.RangeState
  vmIds : Finset String
  build : Option Record
  reprobe : Option Record

namespace Output

/-
  `store_isolation`: a re-probe's evidence is stored if the
  range is still ready with the VMs that were probed, and no
  re-probe that started later has stored its own.
-/
def store
    (out : Output)
    (rec : Record)
    (vmIds : Finset String) : Output :=
  if out.state ≠ .ready then out
  else if out.vmIds ≠ vmIds then out
  else if
      out.reprobe.any (fun old => rec.startedAt < old.startedAt)
  then out
  else { out with reprobe := some rec }

/- The section, as the certification record reads it. -/
def graded (out : Output) : Grade :=
  isolation out.build out.reprobe

end Output

end RangeCertification

end TrueNorth

--------
-- Agreement
--------

namespace TrueNorth

namespace RangeCertification

open RangeIsolation

/- The grade that a verdict of the worker's comes to. -/
def statusOf : Verdict → SectionStatus
| .isolated => .pass
| .notIsolated => .fail
| .incomplete => .incomplete

/-
  The records a worker stores: of a run with its settings,
  its zones probed or not, or of no run, where the settings
  could not be used or the range was not ready.
-/
inductive Produced (ip : String → Option Address) :
    Record → Prop where
| ran
    (cfg : Settings)
    (runs : List ZoneRun)
    (rows : List ZoneRow)
    (hRows :
      List.Forall₂ (fun run zoneRow =>
        run.row ip cfg = some zoneRow) runs rows)
    (mode : Mode)
    (notes : List String)
    (startedAt ranAt : String)
    (source : Source)
    (skipped : List String) :
    Produced ip
      (record rows (some cfg) mode notes startedAt ranAt source
        skipped)
| notRun
    (zones : List (Zone × Unprobed × String))
    (mode : Mode)
    (notes : List String)
    (startedAt ranAt : String)
    (source : Source)
    (skipped : List String) :
    Produced ip
      (record
        (zones.map (fun z => unprobed z.1 z.2.1 z.2.2)) none
        mode notes startedAt ranAt source skipped)

section

variable {ip : String → Option Address}
variable {cfg : Settings}

/- Without a self-test no external name is proven silent. -/
theorem dnsExternal_weak
    {planned : List Check}
    {codes : List (Option Nat)}
    (hMem : dnsExternalCheck cfg ∈ planned)
    (hSelf : selftestOk planned codes = false) :
    ∃ r ∈ zoneRows planned codes ip cfg, r.weak = true := by
  rcases @row_mem _ codes ip cfg _ hMem nofun with
    ⟨r, hRow, hExpect, hResult⟩
  refine ⟨r, hRow, ?_⟩
  unfold Row.weak
  rw [hExpect]
  rcases hResult with hResult | hNone
  · rw [hResult]
    unfold classIn classify
    rw [hSelf]
    generalize codeOf planned codes (dnsExternalCheck cfg) = code
    rcases code with _ | _ | _ | _ | code
    · rfl
    · rfl
    · rfl
    · rfl
    · rfl
  · rcases hNone.1 with h | h
    · cases h
    · cases h

theorem falls_eq (r : Row) :
    falls r = (r.weak || r.missing) := rfl

theorem zoneGap_probed
    {z : ZoneRow}
    (hStatus : z.status = .probed) :
    zoneGap z = none ↔
      (∀ r ∈ z.checks, r.weak = false) ∧
        (∀ r ∈ z.checks, r.missing = false) ∧
        z.checks ≠ [] := by
  unfold zoneGap
  rw [if_neg (not_not.mpr hStatus)]
  dsimp only
  have hFalls :
      (z.checks.filter falls).map (fun r =>
          r.named ++ " " ++ r.result.text) = [] ↔
        (∀ r ∈ z.checks, r.weak = false) ∧
          ∀ r ∈ z.checks, r.missing = false := by
    rw [named_eq_nil, ← forall₂_and]
    apply forall₂_congr
    intro r _
    rw [falls_eq, Bool.or_eq_false_iff]
  rw [← and_assoc, ← hFalls]
  by_cases hWeak :
      (z.checks.filter falls).map (fun r =>
        r.named ++ " " ++ r.result.text) = []
  · by_cases hChecks : z.checks = []
    · simp [hChecks]
    · simp [hWeak, hChecks]
  · simp [hWeak]

/- A zone of the worker's, as the API reads it. -/
theorem zone_agrees
    {run : ZoneRun}
    {z : ZoneRow}
    (hRow : run.row ip cfg = some z) :
    (z.verdict = .notIsolated ↔ zoneLeaks z ≠ []) ∧
      (z.verdict = .isolated ↔
        zoneLeaks z = [] ∧ zoneGap z = none) := by
  cases run with
  | unprobed zone why reason =>
      cases hRow
      constructor
      · constructor
        · nofun
        · intro hLeaks
          exact absurd rfl hLeaks
      · constructor
        · nofun
        · rintro ⟨_, hGap⟩
          cases hGap
  | probed zone probe vms dns codes vm =>
      rcases Option.map_eq_some_iff.mp hRow with
        ⟨graded, hGrade, rfl⟩
      rcases gradeZone_some hGrade with
        ⟨_, _, hChecks, hVerdict⟩
      have hLeaks :
          zoneLeaks (probed zone graded vm) = [] ↔
            ∀ r ∈ graded.checks, r.leaks = false :=
        named_eq_nil
      constructor
      · change graded.verdict = .notIsolated ↔ _
        rw [hVerdict, verdictOfChecks_notIsolated, ← hChecks,
          ne_eq, hLeaks]
        push Not
        simp
      · change graded.verdict = .isolated ↔ _
        rw [hVerdict, verdictOfChecks_isolated, shortOf_eq_nil,
          ← hChecks, hLeaks, zoneGap_probed rfl]
        apply and_congr_right
        intro _
        change _ ↔
          (∀ r ∈ graded.checks, r.weak = false) ∧
            (∀ r ∈ graded.checks, r.missing = false) ∧
            graded.checks ≠ []
        have hDns :=
          @dnsExternal_mem ip cfg zone probe vms dns
        constructor
        · rintro ⟨_, _, hWeak, hMissing⟩
          refine ⟨hWeak, hMissing, ?_⟩
          rcases @row_mem _ codes ip cfg _ hDns nofun with
            ⟨r, hMem, _⟩
          rw [hChecks]
          exact List.ne_nil_of_mem hMem
        · rintro ⟨hWeak, hMissing, _⟩
          have hSelf :
              selftestOk (planChecks ip zone probe vms cfg dns)
                codes = true := by
            by_contra hNot
            rw [Bool.not_eq_true] at hNot
            rcases @dnsExternal_weak ip cfg _ codes hDns hNot
              with ⟨r, hMem, hSome⟩
            rw [← hChecks] at hMem
            rw [hWeak r hMem] at hSome
            cases hSome
          refine ⟨?_, hSelf, hWeak, hMissing⟩
          unfold selftestOk at hSelf
          split at hSelf
          · cases hSelf
          · rename_i c hFind
            rw [hFind]
            rfl

end

--------
-- Records
--------

open RangeIsolation

section

variable {ip : String → Option Address}

theorem leaksOf_eq_nil
    {rows : List ZoneRow} :
    leaksOf rows = [] ↔ ∀ z ∈ rows, zoneLeaks z = [] := by
  unfold leaksOf
  rw [List.map_eq_nil_iff, List.filter_eq_nil_iff]
  apply forall₂_congr
  intro z _
  simp

theorem gapsIn_eq_nil
    {rec : Record} :
    gapsIn rec = [] ↔
      (∀ z ∈ rec.zones, zoneGap z = none) ∧ rec.zones ≠ [] ∧
        ∃ settings, rec.settings = some settings ∧
          settings.targets ≠ [] := by
  unfold gapsIn
  rw [List.append_eq_nil_iff, List.append_eq_nil_iff,
    List.filterMap_eq_nil_iff, noted_eq_nil, and_assoc]
  apply and_congr_right
  intro _
  apply and_congr_right
  intro _
  cases rec.settings with
  | none => simp
  | some settings =>
      dsimp only
      rw [noted_eq_nil]
      simp

theorem grade_fail
    {rec : Record} :
    (grade rec).status = .fail ↔
      ∃ z ∈ rec.zones, zoneLeaks z ≠ [] := by
  unfold grade
  dsimp only
  by_cases hLeaks : leaksOf rec.zones = []
  · rw [if_neg (not_not.mpr hLeaks)]
    rw [leaksOf_eq_nil] at hLeaks
    constructor
    · intro hStatus
      by_cases hGaps : gapsIn rec = []
      · rw [if_neg (not_not.mpr hGaps)] at hStatus
        cases hStatus
      · rw [if_pos hGaps] at hStatus
        cases hStatus
    · rintro ⟨z, hMem, hSome⟩
      exact absurd (hLeaks z hMem) hSome
  · rw [if_pos hLeaks]
    rw [leaksOf_eq_nil] at hLeaks
    push Not at hLeaks
    exact ⟨fun _ => hLeaks, fun _ => rfl⟩

theorem grade_pass
    {rec : Record} :
    (grade rec).status = .pass ↔
      (∀ z ∈ rec.zones, zoneLeaks z = []) ∧
        gapsIn rec = [] := by
  unfold grade
  dsimp only
  rw [← leaksOf_eq_nil]
  by_cases hLeaks : leaksOf rec.zones = []
  · rw [if_neg (not_not.mpr hLeaks)]
    by_cases hGaps : gapsIn rec = []
    · rw [if_neg (not_not.mpr hGaps)]
      exact ⟨fun _ => ⟨hLeaks, hGaps⟩, fun _ => rfl⟩
    · rw [if_pos hGaps]
      constructor
      · intro hStatus
        cases hStatus
      · intro hBoth
        exact absurd hBoth.2 hGaps
  · rw [if_pos hLeaks]
    constructor
    · intro hStatus
      cases hStatus
    · intro hBoth
      exact absurd hBoth.1 hLeaks

theorem statusOf_eq
    {status : SectionStatus}
    {verdict : Verdict}
    (hFail : status = .fail ↔ verdict = .notIsolated)
    (hPass : status = .pass ↔ verdict = .isolated) :
    status = statusOf verdict := by
  cases verdict with
  | isolated => exact hPass.mpr rfl
  | notIsolated => exact hFail.mpr rfl
  | incomplete =>
      cases status with
      | pass => cases hPass.mp rfl
      | fail => cases hFail.mp rfl
      | incomplete => rfl

/- Every row is a zone's. -/
theorem row_of_mem
    {cfg : Settings}
    {runs : List ZoneRun}
    {rows : List ZoneRow}
    (hRows :
      List.Forall₂ (fun run zoneRow =>
        run.row ip cfg = some zoneRow) runs rows)
    {z : ZoneRow}
    (hMem : z ∈ rows) :
    ∃ run : ZoneRun, run.row ip cfg = some z := by
  induction hRows with
  | nil => cases hMem
  | cons hRow _ ih =>
      rcases List.mem_cons.mp hMem with rfl | hRest
      · exact ⟨_, hRow⟩
      · exact ih hRest

/- The API's grade is the worker's verdict. -/
theorem grade_produced
    {rec : Record}
    (hProduced : Produced ip rec) :
    (grade rec).status = statusOf rec.verdict := by
  cases hProduced with
  | ran cfg runs rows hRows mode notes startedAt ranAt source
      skipped =>
      apply statusOf_eq
      · rw [grade_fail]
        change (∃ z ∈ rows, zoneLeaks z ≠ []) ↔
          (aggregate rows (some cfg) notes skipped).verdict =
            .notIsolated
        rw [aggregate_notIsolated]
        apply exists_congr
        intro z
        apply and_congr_right
        intro hMem
        rcases row_of_mem hRows hMem with ⟨run, hRow⟩
        exact (zone_agrees hRow).1.symm
      · rw [grade_pass, gapsIn_eq_nil]
        change
          (∀ z ∈ rows, zoneLeaks z = []) ∧
              (∀ z ∈ rows, zoneGap z = none) ∧ rows ≠ [] ∧
                (∃ settings, some cfg = some settings ∧
                  settings.targets ≠ []) ↔
            (aggregate rows (some cfg) notes skipped).verdict =
              .isolated
        rw [aggregate_isolated, ← and_assoc, ← forall₂_and]
        apply and_congr
        · apply forall₂_congr
          intro z hMem
          rcases row_of_mem hRows hMem with ⟨run, hRow⟩
          exact (zone_agrees hRow).2.symm
        · simp
  | notRun zones mode notes startedAt ranAt source skipped =>
      apply statusOf_eq
      · rw [grade_fail]
        change (∃ z ∈ zones.map _, zoneLeaks z ≠ []) ↔
          (aggregate _ none notes skipped).verdict = _
        rw [aggregate_notIsolated]
        constructor
        · rintro ⟨z, hMem, hLeaks⟩
          rcases List.mem_map.mp hMem with ⟨_, _, rfl⟩
          exact absurd rfl hLeaks
        · rintro ⟨z, hMem, hVerdict⟩
          rcases List.mem_map.mp hMem with ⟨_, _, rfl⟩
          cases hVerdict
      · rw [grade_pass, gapsIn_eq_nil]
        change
          _ ∧ _ ∧ _ ∧
              (∃ settings, none = some settings ∧ _) ↔
            (aggregate _ none notes skipped).verdict = _
        rw [aggregate_isolated]
        constructor
        · rintro ⟨_, _, _, settings, hNone, _⟩
          cases hNone
        · rintro ⟨hAll, hSome, _⟩
          rcases List.exists_mem_of_ne_nil _ hSome with
            ⟨z, hMem⟩
          have hVerdict := hAll z hMem
          rcases List.mem_map.mp hMem with ⟨_, _, rfl⟩
          cases hVerdict

end

--------
-- The Deciding Run
--------

open RangeIsolation

theorem trusted_zones
    {rows : List ZoneRow}
    (hTrusted : trusted rows = true) :
    rows ≠ [] ∧
      ∀ z ∈ rows, ∃ vm, z.probe = some vm ∧ vm.trusted = true := by
  unfold trusted at hTrusted
  rw [Bool.and_eq_true, decide_eq_true_eq, List.all_eq_true]
    at hTrusted
  refine ⟨hTrusted.1, ?_⟩
  intro z hMem
  rw [← Option.any_eq_true]
  exact hTrusted.2 z hMem

theorem grade_zones (rec : Record) :
    (grade rec).zones = rec.zones := by
  unfold grade
  dsimp only
  split
  · rfl
  · split
    · rfl
    · rfl

/- Only a trusted re-probe is graded above the build. -/
theorem isolation_raised
    {build again : Option Record}
    (hRaised :
      (buildGrade build).status.rank <
        (isolation build again).status.rank) :
    ∃ rec, again = some rec ∧ trusted rec.zones = true := by
  unfold isolation at hRaised
  cases again with
  | none => exact absurd hRaised (lt_irrefl _)
  | some rec =>
      refine ⟨rec, rfl, ?_⟩
      by_contra hNot
      rw [Bool.not_eq_true] at hNot
      dsimp only at hRaised
      rw [grade_zones, hNot, Bool.false_or] at hRaised
      by_cases hRank :
          (grade rec).status.rank ≤ (buildGrade build).status.rank
      · rw [if_pos (decide_eq_true hRank)] at hRaised
        exact absurd hRank (not_le.mpr hRaised)
      · rw [if_neg (by simpa using hRank)] at hRaised
        exact absurd hRaised (lt_irrefl _)

/- A worse re-probe decides. -/
theorem isolation_lowered
    {build : Option Record}
    {rec : Record}
    (hWorse :
      (grade rec).status.rank <
        (buildGrade build).status.rank) :
    (isolation build (some rec)).status =
      (grade rec).status := by
  unfold isolation
  dsimp only
  rw [if_pos]
  rw [Bool.or_eq_true, decide_eq_true_eq]
  exact .inr (le_of_lt hWorse)

theorem store_build
    (out : Output)
    (rec : Record)
    (vmIds : Finset String) :
    (out.store rec vmIds).build = out.build := by
  unfold Output.store
  split
  · rfl
  · split
    · rfl
    · split
      · rfl
      · rfl

end RangeCertification

end TrueNorth
