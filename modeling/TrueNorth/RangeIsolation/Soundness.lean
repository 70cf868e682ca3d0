import TrueNorth.RangeIsolation.Grading

/-
  A verdict says what the probes showed: a leak is never
  passed over, and an isolated range was proven so by each
  probe's own code.

  The codes of a zone are kept by check, so of equal checks
  only the last one's code is read.  What is said here is
  said of zones in which equal checks got equal codes.

  Key definitions include:
    * `ZoneRun`
    * `ZoneRun.Leaks`, `ZoneRun.Proven`

  Main theorems:
    * `gradeZone_isolated`
    * `verdict_of_own_codes`
-/

--------
-- Verdicts
--------

namespace TrueNorth

namespace RangeIsolation

theorem named_eq_nil
    {rows : List Row}
    {p : Row → Bool}
    {f : Row → String} :
    (rows.filter p).map f = [] ↔ ∀ r ∈ rows, p r = false := by
  rw [List.map_eq_nil_iff, List.filter_eq_nil_iff]
  apply forall₂_congr
  intro r _
  rw [Bool.not_eq_true]

theorem noted_eq_nil
    {c : Prop}
    [Decidable c]
    {text : String} :
    (if c then [text] else []) = [] ↔ ¬c := by
  by_cases hc : c
  · rw [if_pos hc]
    exact ⟨nofun, fun hNot => absurd hc hNot⟩
  · rw [if_neg hc]
    exact ⟨fun _ => hc, fun _ => rfl⟩

theorem shortOf_eq_nil
    {rows : List Row}
    {selftestOk hasSelftest : Bool} :
    shortOf rows selftestOk hasSelftest = [] ↔
      hasSelftest = true ∧ selftestOk = true ∧
        (∀ r ∈ rows, r.weak = false) ∧
        ∀ r ∈ rows, r.missing = false := by
  unfold shortOf
  dsimp only
  rw [List.append_eq_nil_iff, List.append_eq_nil_iff,
    noted_eq_nil, noted_eq_nil, not_not, not_not, named_eq_nil,
    named_eq_nil, and_assoc]
  cases hasSelftest with
  | false => simp
  | true =>
      cases selftestOk with
      | false => simp
      | true => simp

theorem verdictOfChecks_notIsolated
    {rows : List Row}
    {selftestOk hasSelftest : Bool} :
    (verdictOfChecks rows selftestOk hasSelftest).1 =
        .notIsolated ↔
      ∃ r ∈ rows, r.leaks = true := by
  unfold verdictOfChecks
  dsimp only
  by_cases hLeaks : (rows.filter Row.leaks).map Row.named = []
  · rw [if_neg (not_not.mpr hLeaks)]
    have hNone := named_eq_nil.mp hLeaks
    constructor
    · intro hVerdict
      by_cases hShort : shortOf rows selftestOk hasSelftest = []
      · rw [if_neg (not_not.mpr hShort)] at hVerdict
        cases hVerdict
      · rw [if_pos hShort] at hVerdict
        cases hVerdict
    · rintro ⟨r, hMem, hLeak⟩
      rw [hNone r hMem] at hLeak
      cases hLeak
  · rw [if_pos hLeaks]
    rw [named_eq_nil] at hLeaks
    push Not at hLeaks
    rcases hLeaks with ⟨r, hMem, hLeak⟩
    constructor
    · intro _
      exact ⟨r, hMem, by simpa using hLeak⟩
    · intro _
      rfl

theorem verdictOfChecks_isolated
    {rows : List Row}
    {selftestOk hasSelftest : Bool} :
    (verdictOfChecks rows selftestOk hasSelftest).1 =
        .isolated ↔
      (∀ r ∈ rows, r.leaks = false) ∧
        shortOf rows selftestOk hasSelftest = [] := by
  unfold verdictOfChecks
  dsimp only
  rw [← @named_eq_nil rows Row.leaks Row.named]
  by_cases hLeaks : (rows.filter Row.leaks).map Row.named = []
  · rw [if_neg (not_not.mpr hLeaks)]
    by_cases hShort : shortOf rows selftestOk hasSelftest = []
    · rw [if_neg (not_not.mpr hShort)]
      exact ⟨fun _ => ⟨hLeaks, hShort⟩, fun _ => rfl⟩
    · rw [if_pos hShort]
      constructor
      · intro hVerdict
        cases hVerdict
      · intro hBoth
        exact absurd hBoth.2 hShort
  · rw [if_pos hLeaks]
    constructor
    · intro hVerdict
      cases hVerdict
    · intro hBoth
      exact absurd hBoth.1 hLeaks

/- What a graded zone says of its rows. -/
theorem gradeZone_some
    {planned : List Check}
    {codes : List (Option Nat)}
    {ip : String → Option Address}
    {cfg : Settings}
    {graded : Graded}
    (hGrade : gradeZone planned codes ip cfg = some graded) :
    planned.length = codes.length ∧
      graded.selftestPassed = selftestOk planned codes ∧
      graded.checks = zoneRows planned codes ip cfg ∧
      graded.verdict =
        (verdictOfChecks (zoneRows planned codes ip cfg)
          (selftestOk planned codes)
          (planned.find? (fun c =>
            c.check = .selftest)).isSome).1 := by
  unfold gradeZone at hGrade
  by_cases hLength : planned.length ≠ codes.length
  · rw [if_pos hLength] at hGrade
    cases hGrade
  · rw [if_neg hLength] at hGrade
    cases hGrade
    exact ⟨not_not.mp hLength, rfl, rfl, rfl⟩

theorem whyOf_eq_nil
    {rows : List ZoneRow}
    {verdict : Verdict} :
    whyOf rows verdict = [] ↔
      ∀ z ∈ rows, z.verdict ≠ verdict := by
  unfold whyOf
  rw [List.map_eq_nil_iff, List.filter_eq_nil_iff]
  apply forall₂_congr
  intro z _
  simp

theorem gapsOf_eq_nil
    {rows : List ZoneRow}
    {cfg : Option Settings} :
    gapsOf rows cfg = [] ↔
      (∀ z ∈ rows, z.verdict ≠ .incomplete) ∧ rows ≠ [] ∧
        ∀ settings, cfg = some settings →
          settings.targets ≠ [] := by
  unfold gapsOf
  rw [List.append_eq_nil_iff, List.append_eq_nil_iff,
    whyOf_eq_nil, noted_eq_nil, noted_eq_nil, and_assoc]
  apply and_congr_right
  intro _
  apply and_congr_right
  intro _
  rw [Option.any_eq_true]
  simp

theorem aggregate_notIsolated
    {rows : List ZoneRow}
    {cfg : Option Settings}
    {notes skipped : List String} :
    (aggregate rows cfg notes skipped).verdict =
        .notIsolated ↔
      ∃ z ∈ rows, z.verdict = .notIsolated := by
  unfold aggregate
  dsimp only
  by_cases hFailures : whyOf rows .notIsolated = []
  · rw [if_neg (not_not.mpr hFailures)]
    constructor
    · intro hVerdict
      by_cases hGaps : gapsOf rows cfg = []
      · rw [if_neg (not_not.mpr hGaps)] at hVerdict
        cases hVerdict
      · rw [if_pos hGaps] at hVerdict
        cases hVerdict
    · rintro ⟨z, hMem, hVerdict⟩
      exact absurd hVerdict (whyOf_eq_nil.mp hFailures z hMem)
  · rw [if_pos hFailures]
    rw [whyOf_eq_nil] at hFailures
    push Not at hFailures
    exact ⟨fun _ => hFailures, fun _ => rfl⟩

theorem aggregate_isolated
    {rows : List ZoneRow}
    {cfg : Option Settings}
    {notes skipped : List String} :
    (aggregate rows cfg notes skipped).verdict = .isolated ↔
      (∀ z ∈ rows, z.verdict = .isolated) ∧ rows ≠ [] ∧
        ∀ settings, cfg = some settings →
          settings.targets ≠ [] := by
  have hZones :
      (∀ z ∈ rows, z.verdict = .isolated) ↔
        whyOf rows .notIsolated = [] ∧
          ∀ z ∈ rows, z.verdict ≠ .incomplete := by
    rw [whyOf_eq_nil]
    constructor
    · intro hAll
      constructor
      · intro z hMem
        rw [hAll z hMem]
        nofun
      · intro z hMem
        rw [hAll z hMem]
        nofun
    · rintro ⟨hNot, hIncomplete⟩ z hMem
      cases hVerdict : z.verdict with
      | isolated => rfl
      | notIsolated => exact absurd hVerdict (hNot z hMem)
      | incomplete =>
          exact absurd hVerdict (hIncomplete z hMem)
  rw [hZones, and_assoc, ← gapsOf_eq_nil]
  unfold aggregate
  dsimp only
  by_cases hFailures : whyOf rows .notIsolated = []
  · rw [if_neg (not_not.mpr hFailures)]
    by_cases hGaps : gapsOf rows cfg = []
    · rw [if_neg (not_not.mpr hGaps)]
      exact ⟨fun _ => ⟨hFailures, hGaps⟩, fun _ => rfl⟩
    · rw [if_pos hGaps]
      constructor
      · intro hVerdict
        cases hVerdict
      · intro hBoth
        exact absurd hBoth.2 hGaps
  · rw [if_pos hFailures]
    constructor
    · intro hVerdict
      cases hVerdict
    · intro hBoth
      exact absurd hBoth.1 hFailures

--------
-- Own Codes
--------

/- Equal checks got equal codes. -/
def OneCode (pairs : List (Check × Option Nat)) : Prop :=
  ∀ c code code', (c, code) ∈ pairs → (c, code') ∈ pairs →
    code = code'

/- Where no two checks are equal, each has one code. -/
theorem oneCode_of_nodup
    {planned : List Check}
    {codes : List (Option Nat)}
    (hLength : planned.length = codes.length)
    (hNodup : planned.Nodup) :
    OneCode (planned.zip codes) := by
  have hKeys : ((planned.zip codes).map Prod.fst).Nodup := by
    rw [List.map_fst_zip (le_of_eq hLength)]
    exact hNodup
  intro c code code' hMem hMem'
  have hGet := (Dict.get?_ofPairs hKeys).mpr hMem
  rw [(Dict.get?_ofPairs hKeys).mpr hMem'] at hGet
  cases hGet
  rfl

section

variable {planned : List Check}
variable {codes : List (Option Nat)}

theorem codeOf_own
    (hOne : OneCode (planned.zip codes))
    {c : Check}
    {code : Option Nat}
    (hMem : (c, code) ∈ planned.zip codes) :
    codeOf planned codes c = code := by
  have hKey :
      c ∈ (Dict.ofPairs (planned.zip codes)).keys :=
    Dict.mem_keys_ofPairs.mpr (List.mem_map_of_mem hMem)
  rcases Dict.mem_keys.mp hKey with ⟨code', hGet⟩
  have hSame :=
    hOne c code' code (Dict.mem_of_get?_ofPairs hGet) hMem
  unfold codeOf codesBy
  rw [hGet, hSame]
  rfl

theorem mem_zip_codeOf
    (hLength : planned.length = codes.length)
    {c : Check}
    (hMem : c ∈ planned) :
    (c, codeOf planned codes c) ∈ planned.zip codes := by
  have hKeys :
      (planned.zip codes).map Prod.fst = planned :=
    List.map_fst_zip (le_of_eq hLength)
  have hKey :
      c ∈ (Dict.ofPairs (planned.zip codes)).keys := by
    rw [Dict.mem_keys_ofPairs, hKeys]
    exact hMem
  rcases Dict.mem_keys.mp hKey with ⟨code, hGet⟩
  unfold codeOf codesBy
  rw [hGet]
  exact Dict.mem_of_get?_ofPairs hGet

/- The result class of a check in its zone. -/
def classIn
    (planned : List Check)
    (codes : List (Option Nat))
    (pair : Check × Option Nat) : Result :=
  classify pair.1 pair.2 (selftestOk planned codes)
    (dnsOk planned codes)

/- A connect that failed, to IPv6, where there is no IPv6. -/
def NoIpv6
    (ip : String → Option Address)
    (planned : List Check)
    (codes : List (Option Nat))
    (pair : Check × Option Nat) : Prop :=
  (pair.1.check = .tcp ∨ pair.1.check = .icmp) ∧
    classIn planned codes pair = .connectFailed ∧
    isV6 ip pair.1.target = true ∧
    ipv6Absent planned codes = true

variable {ip : String → Option Address}
variable {cfg : Settings}

/- The row of a check that is graded. -/
theorem row_mem
    {c : Check}
    (hMem : c ∈ planned)
    (hFact : c.expect ≠ .fact) :
    let pair := (c, codeOf planned codes c)
    ∃ r ∈ zoneRows planned codes ip cfg,
      r.expect = c.expect ∧
        (r.result = classIn planned codes pair ∨
          NoIpv6 ip planned codes pair) := by
  intro pair
  have hChecks :
      rowOf c (codeOf planned codes c)
          (selftestOk planned codes) (dnsOk planned codes) ∈
        (planned.filter (fun c => c.expect ≠ .fact)).map
          (fun c =>
            rowOf c (codeOf planned codes c)
              (selftestOk planned codes)
              (dnsOk planned codes)) := by
    refine List.mem_map.mpr ⟨c, ?_, rfl⟩
    exact List.mem_filter.mpr ⟨hMem, decide_eq_true hFact⟩
  unfold zoneRows
  dsimp only
  by_cases hAbsent : ipv6Absent planned codes = true
  · rw [if_pos hAbsent]
    refine ⟨_, List.mem_append_left _
      (List.mem_map_of_mem hChecks), ?_⟩
    unfold upgraded
    by_cases hUp :
        upgradable ip
          (rowOf c (codeOf planned codes c)
            (selftestOk planned codes)
            (dnsOk planned codes)) = true
    · rw [if_pos hUp]
      refine ⟨rfl, .inr ?_⟩
      unfold upgradable at hUp
      simp only [Bool.and_eq_true, Bool.or_eq_true,
        decide_eq_true_eq] at hUp
      exact ⟨hUp.1.1, hUp.1.2, hUp.2, hAbsent⟩
    · rw [if_neg hUp]
      exact ⟨rfl, .inl rfl⟩
  · rw [if_neg hAbsent]
    exact ⟨_, List.mem_append_left _ hChecks, rfl, .inl rfl⟩

theorem row_mem_own
    (hOne : OneCode (planned.zip codes))
    {pair : Check × Option Nat}
    (hMem : pair ∈ planned.zip codes)
    (hFact : pair.1.expect ≠ .fact) :
    ∃ r ∈ zoneRows planned codes ip cfg,
      r.expect = pair.1.expect ∧
        (r.result = classIn planned codes pair ∨
          NoIpv6 ip planned codes pair) := by
  have hRow :=
    @row_mem planned codes ip cfg _ (List.of_mem_zip hMem).1
      hFact
  rw [codeOf_own hOne hMem] at hRow
  exact hRow

/- A zone that a probe got out of is not isolated. -/
theorem gradeZone_leak
    {graded : Graded}
    (hGrade : gradeZone planned codes ip cfg = some graded)
    (hOne : OneCode (planned.zip codes))
    {pair : Check × Option Nat}
    (hMem : pair ∈ planned.zip codes)
    (hExpect : pair.1.expect = .mustFail ∨
      pair.1.expect = .advisory)
    (hClass : classIn planned codes pair = .reachable) :
    graded.verdict = .notIsolated := by
  rcases gradeZone_some hGrade with ⟨_, _, _, hVerdict⟩
  rw [hVerdict, verdictOfChecks_notIsolated]
  have hFact : pair.1.expect ≠ .fact := by
    rcases hExpect with h | h
    · rw [h]
      nofun
    · rw [h]
      nofun
  rcases @row_mem_own _ _ ip cfg hOne _ hMem hFact with
    ⟨r, hRow, hSame, hResult⟩
  refine ⟨r, hRow, ?_⟩
  unfold Row.leaks
  rw [hSame]
  rcases hResult with hResult | ⟨_, hFailed, _⟩
  · rw [hResult, hClass]
    rcases hExpect with h | h
    · simp [h]
    · simp [h]
  · rw [hClass] at hFailed
    cases hFailed

/- What an isolated zone's own codes showed. -/
theorem gradeZone_isolated
    {graded : Graded}
    (hGrade : gradeZone planned codes ip cfg = some graded)
    (hOne : OneCode (planned.zip codes))
    (hVerdict : graded.verdict = .isolated) :
    (∃ pair ∈ planned.zip codes,
        pair.1.check = .selftest ∧
          classify pair.1 pair.2 true none = .reachable) ∧
      (∀ pair ∈ planned.zip codes,
        pair.1.expect = .mustFail →
          classIn planned codes pair = .proven ∨
            NoIpv6 ip planned codes pair) ∧
      ∀ pair ∈ planned.zip codes,
        pair.1.expect = .mustConnect →
          classIn planned codes pair = .reachable ∨
            NoIpv6 ip planned codes pair := by
  rcases gradeZone_some hGrade with ⟨hLength, _, _, hSame⟩
  rw [hSame, verdictOfChecks_isolated, shortOf_eq_nil]
    at hVerdict
  rcases hVerdict with ⟨_, _, hSelf, hWeak, hMissing⟩
  refine ⟨?_, ?_, ?_⟩
  · unfold selftestOk at hSelf
    cases hFind :
        planned.find? (fun c => c.check = .selftest) with
    | none =>
        rw [hFind] at hSelf
        cases hSelf
    | some c =>
        rw [hFind] at hSelf
        refine ⟨_, mem_zip_codeOf hLength
          (List.mem_of_find?_eq_some hFind), ?_, ?_⟩
        · simpa using List.find?_some hFind
        · exact of_decide_eq_true hSelf
  · intro pair hMem hExpect
    rcases @row_mem_own _ _ ip cfg hOne _ hMem
        (by rw [hExpect]; nofun) with
      ⟨r, hRow, hRowExpect, hResult⟩
    have hProven := hWeak r hRow
    unfold Row.weak at hProven
    rw [hRowExpect, hExpect] at hProven
    apply hResult.imp_left
    intro hClass
    rw [← hClass]
    simpa using hProven
  · intro pair hMem hExpect
    rcases @row_mem_own _ _ ip cfg hOne _ hMem
        (by rw [hExpect]; nofun) with
      ⟨r, hRow, hRowExpect, hResult⟩
    have hConnected := hMissing r hRow
    unfold Row.missing at hConnected
    rw [hRowExpect, hExpect] at hConnected
    apply hResult.imp_left
    intro hClass
    rw [← hClass]
    simpa using hConnected

end

--------
-- Plans
--------

section

variable {ip : String → Option Address}
variable {cfg : Settings}

theorem icmpOnce_expect
    {seen : List String}
    {host : String}
    {c : Check}
    (hMem : c ∈ icmpOnce seen host) :
    c.expect = .mustFail := by
  unfold icmpOnce at hMem
  by_cases hSeen : seen.contains host = true
  · rw [if_pos hSeen] at hMem
    cases hMem
  · rw [if_neg hSeen, List.mem_singleton] at hMem
    rw [hMem]

theorem targetChecks_expect
    {seen : List String}
    {targets : List Target}
    {c : Check}
    (hMem : c ∈ targetChecks ip seen targets) :
    c.expect = .mustFail := by
  induction targets generalizing seen with
  | nil => cases hMem
  | cons t ts ih =>
      simp only [targetChecks, List.mem_append] at hMem
      rcases hMem with (hTcp | hIcmp) | hRest
      · by_cases hPort : t.hasPort = true
        · rw [if_pos hPort, List.mem_singleton] at hTcp
          rw [hTcp]
        · rw [if_neg hPort] at hTcp
          cases hTcp
      · exact icmpOnce_expect hIcmp
      · exact ih hRest

theorem hostChecks_expect
    {seen : List String}
    {host : String}
    {c : Check}
    (hMem : c ∈ hostChecks ip cfg seen host) :
    c.expect = .mustFail := by
  unfold hostChecks at hMem
  rcases List.mem_append.mp hMem with hClosed | hIcmp
  · rcases List.mem_map.mp hClosed with ⟨port, _, rfl⟩
    rfl
  · exact icmpOnce_expect hIcmp

theorem routeChecks_expect
    {c : Check}
    (hMem : c ∈ routeChecks ip cfg) :
    c.expect = .mustFail ∨ c.expect = .advisory := by
  unfold routeChecks at hMem
  split at hMem
  · cases hMem
  · split at hMem
    · cases hMem
    · split at hMem
      · rw [List.mem_singleton.mp hMem]
        exact .inr rfl
      · rw [List.mem_singleton.mp hMem]
        exact .inl rfl

/- Only a permitted exception is to connect. -/
theorem planChecks_mustConnect
    {z : Zone}
    {probe : Nat}
    {vms : List Vm}
    {dns : Option (String × String)}
    {c : Check}
    (hMem : c ∈ planChecks ip z probe vms cfg dns)
    (hExpect : c.expect = .mustConnect) :
    c.check = .exception := by
  simp only [planChecks, List.mem_append] at hMem
  rcases hMem with
    ((((((hSelf | hTargets) | hExceptions) | hHosts) | hDns) |
      hExternal) | hRoute) | hFacts
  · split at hSelf
    · cases hSelf
    · rw [List.mem_singleton.mp hSelf] at hExpect
      cases hExpect
  · rw [targetChecks_expect hTargets] at hExpect
    cases hExpect
  · rcases List.mem_map.mp hExceptions with ⟨t, _, rfl⟩
    rfl
  · rcases List.mem_flatMap.mp hHosts with ⟨host, _, hHost⟩
    rw [hostChecks_expect hHost] at hExpect
    cases hExpect
  · split at hDns
    · cases hDns
    · rw [List.mem_singleton.mp hDns] at hExpect
      cases hExpect
  · rw [List.mem_singleton.mp hExternal] at hExpect
    cases hExpect
  · rcases routeChecks_expect hRoute with h | h
    · rw [h] at hExpect
      cases hExpect
    · rw [h] at hExpect
      cases hExpect
  · simp only [List.mem_cons, List.not_mem_nil, or_false]
      at hFacts
    rcases hFacts with rfl | rfl
    · cases hExpect
    · cases hExpect

/- An external name is always looked up. -/
theorem dnsExternal_mem
    (z : Zone)
    (probe : Nat)
    (vms : List Vm)
    (dns : Option (String × String)) :
    dnsExternalCheck cfg ∈ planChecks ip z probe vms cfg dns := by
  simp [planChecks]

end

--------
-- Zones of a Range
--------

/-
  What became of a zone: the codes of its plan's probes, from
  one of its VMs, or why it was not probed.
-/
inductive ZoneRun where
| probed
    (z : Zone)
    (probe : Nat)
    (vms : List Vm)
    (dns : Option (String × String))
    (codes : List (Option Nat))
    (vm : ProbeVm)
| unprobed
    (z : Zone)
    (why : Unprobed)
    (reason : String)

namespace ZoneRun

section

variable (ip : String → Option Address)
variable (cfg : Settings)

/- The checks that were planned. -/
def plan : ZoneRun → List Check
| probed z probe vms dns _ _ => planChecks ip z probe vms cfg dns
| unprobed .. => []

def codes : ZoneRun → List (Option Nat)
| probed _ _ _ _ codes _ => codes
| unprobed .. => []

/- Each check with its own code. -/
def pairs (run : ZoneRun) : List (Check × Option Nat) :=
  (run.plan ip cfg).zip run.codes

/- The zone's row: none where the codes are not the plan's. -/
def row : ZoneRun → Option ZoneRow
| probed z probe vms dns codes vm =>
    (gradeZone (planChecks ip z probe vms cfg dns) codes ip
      cfg).map (fun graded => RangeIsolation.probed z graded vm)
| unprobed z why reason =>
    some (RangeIsolation.unprobed z why reason)

def result
    (run : ZoneRun)
    (pair : Check × Option Nat) : Result :=
  classIn (run.plan ip cfg) run.codes pair

/- A probe that had to fail got out, or an advisory one did. -/
def Leaks (run : ZoneRun) : Prop :=
  ∃ pair ∈ run.pairs ip cfg,
    (pair.1.expect = .mustFail ∨ pair.1.expect = .advisory) ∧
      run.result ip cfg pair = .reachable

/- What the codes of an isolated zone's own probes showed. -/
structure Proven (run : ZoneRun) : Prop where
  selftest : ∃ pair ∈ run.pairs ip cfg,
    pair.1.check = .selftest ∧
      classify pair.1 pair.2 true none = .reachable
  mustFail : ∀ pair ∈ run.pairs ip cfg,
    pair.1.expect = .mustFail →
      run.result ip cfg pair = .proven ∨
        NoIpv6 ip (run.plan ip cfg) run.codes pair
  mustConnect : ∀ pair ∈ run.pairs ip cfg,
    pair.1.expect = .mustConnect →
      run.result ip cfg pair = .reachable

variable {ip cfg}
variable {run : ZoneRun}
variable {zoneRow : ZoneRow}

theorem leak_notIsolated
    (hRow : run.row ip cfg = some zoneRow)
    (hOne : OneCode (run.pairs ip cfg))
    (hLeaks : run.Leaks ip cfg) :
    zoneRow.verdict = .notIsolated := by
  rcases hLeaks with ⟨pair, hMem, hExpect, hClass⟩
  cases run with
  | unprobed z why reason => cases hMem
  | probed z probe vms dns codes vm =>
      rcases Option.map_eq_some_iff.mp hRow with
        ⟨graded, hGrade, rfl⟩
      exact gradeZone_leak hGrade hOne hMem hExpect hClass

theorem isolated_proven
    (hRow : run.row ip cfg = some zoneRow)
    (hOne : OneCode (run.pairs ip cfg))
    (hVerdict : zoneRow.verdict = .isolated) :
    zoneRow.status = .probed ∧ zoneRow.selftestPassed = true ∧
      run.Proven ip cfg := by
  cases run with
  | unprobed z why reason =>
      cases hRow
      cases hVerdict
  | probed z probe vms dns codes vm =>
      rcases Option.map_eq_some_iff.mp hRow with
        ⟨graded, hGrade, rfl⟩
      rcases gradeZone_isolated hGrade hOne hVerdict with
        ⟨hSelf, hFail, hConnect⟩
      refine ⟨rfl, ?_, hSelf, hFail, ?_⟩
      · rcases gradeZone_some hGrade with
          ⟨_, hPassed, _, hSame⟩
        change graded.verdict = .isolated at hVerdict
        rw [hSame, verdictOfChecks_isolated, shortOf_eq_nil]
          at hVerdict
        exact hPassed.trans hVerdict.2.2.1
      · intro pair hMem hExpect
        apply (hConnect pair hMem hExpect).resolve_right
        intro hNone
        have hCheck := planChecks_mustConnect
          (List.of_mem_zip hMem).1 hExpect
        rcases hNone.1 with h | h
        · rw [hCheck] at h
          cases h
        · rw [hCheck] at h
          cases h

end

end ZoneRun

/-
  The verdicts of a range, its zones being probed or not.  A
  probe that got out fails its zone and the range.  An
  isolated range has targets to probe and zones, and each of
  them was proven isolated by its own probes' codes.
-/
theorem verdict_of_own_codes
    (ip : String → Option Address)
    (cfg : Settings)
    (runs : List ZoneRun)
    (rows : List ZoneRow)
    (hRows :
      List.Forall₂ (fun run zoneRow =>
        run.row ip cfg = some zoneRow) runs rows)
    (hOne : ∀ run ∈ runs, OneCode (run.pairs ip cfg))
    (notes skipped : List String) :
    (∀ run zoneRow, (run, zoneRow) ∈ runs.zip rows →
        run.Leaks ip cfg →
          zoneRow.verdict = .notIsolated ∧
            (aggregate rows (some cfg) notes skipped).verdict =
              .notIsolated) ∧
      ((aggregate rows (some cfg) notes skipped).verdict =
          .isolated →
        cfg.targets ≠ [] ∧ runs ≠ [] ∧
          ∀ run zoneRow, (run, zoneRow) ∈ runs.zip rows →
            zoneRow.status = .probed ∧
              zoneRow.selftestPassed = true ∧
              run.Proven ip cfg) := by
  have hZip : ∀ run zoneRow, (run, zoneRow) ∈ runs.zip rows →
      run.row ip cfg = some zoneRow :=
    fun _ _ hMem => (List.forall₂_iff_zip.mp hRows).2 hMem
  constructor
  · intro run zoneRow hMem hLeaks
    have hBoth := List.of_mem_zip hMem
    have hVerdict :=
      ZoneRun.leak_notIsolated (hZip run zoneRow hMem)
        (hOne run hBoth.1) hLeaks
    exact ⟨hVerdict,
      aggregate_notIsolated.mpr ⟨zoneRow, hBoth.2, hVerdict⟩⟩
  · intro hVerdict
    rcases aggregate_isolated.mp hVerdict with
      ⟨hAll, hSome, hTargets⟩
    refine ⟨hTargets cfg rfl, ?_, ?_⟩
    · rintro rfl
      cases hRows
      exact hSome rfl
    · intro run zoneRow hMem
      have hBoth := List.of_mem_zip hMem
      exact ZoneRun.isolated_proven (hZip run zoneRow hMem)
        (hOne run hBoth.1) (hAll zoneRow hBoth.2)

end RangeIsolation

end TrueNorth

--------
-- One Zone
--------

namespace TrueNorth

namespace RangeIsolation

namespace Lan

/- The addresses of a range of one network, and a site's. -/
def ip (text : String) : Option Address :=
  if text = "2001:db8::1" then some ⟨text, true⟩
  else if ["10.0.0.1", "10.0.0.5", "192.0.2.9"].contains text
  then some ⟨text, false⟩
  else none

def zone : Zone where
  zone := "lan"
  key := "lan"
  cidr := "10.0.0.0/24"
  gateway := "10.0.0.1"

def vms : List Vm :=
  [⟨"edge", "linux", [⟨"lan", "10.0.0.1"⟩]⟩,
    ⟨"desk", "linux", [⟨"lan", "10.0.0.5"⟩]⟩]

/- A site with one target, and no permitted exception. -/
def site (host : String) : Settings where
  mode := .warn
  targets := [⟨host, some 443⟩]
  exceptions := []
  closedPorts := [22, 80, 443, 8080]
  externalName := "example.com"

def run (codes : List (Option Nat)) : ZoneRun :=
  .probed zone 1 vms none codes ⟨"desk", .staff, true⟩

def rows
    (cfg : Settings)
    (codes : List (Option Nat)) : List ZoneRow :=
  [((run codes).row ip cfg).getD (unprobed zone .notRun "")]

/- Silence all round: the self-test, TCP, ICMP, DNS, facts. -/
def silence : List (Option Nat) :=
  [some 0, some 3, some 1, some 1, some 0, some 1, some 1]

theorem verdict_of_own_codes_lan :
    (aggregate (rows (site "192.0.2.9") silence)
        (some (site "192.0.2.9")) [] []).verdict = .isolated ∧
      (run silence).Proven ip (site "192.0.2.9") := by
  have hIsolated :
      (aggregate (rows (site "192.0.2.9") silence)
        (some (site "192.0.2.9")) [] []).verdict =
          .isolated := by
    decide
  refine ⟨hIsolated, ?_⟩
  have hBoth :=
    verdict_of_own_codes ip (site "192.0.2.9") [run silence]
      (rows (site "192.0.2.9") silence)
      (.cons (by decide +kernel) .nil)
      (fun run hMem => by
        rw [List.mem_singleton.mp hMem]
        exact oneCode_of_nodup rfl (by decide))
      [] []
  exact ((hBoth.2 hIsolated).2.2 _ _ (.head _)).2.2

/- The site with its target written twice. -/
def twice (host : String) : Settings :=
  { site host with targets := [⟨host, some 443⟩, ⟨host, some 443⟩] }

/-
  A connect to an IPv6 target that failed, from a zone with
  no IPv6, counts as proof: its code alone is none.  And of a
  target written twice, a probe that got out is not seen when
  the later one did not.
-/
theorem verdicts_against_own_codes :
    ¬ ((aggregate
          (rows (site "2001:db8::1")
            [some 0, some 2, some 1, some 1, some 1, some 1])
          (some (site "2001:db8::1")) [] []).verdict =
            .isolated →
        ∀ pair ∈
            (run [some 0, some 2, some 1, some 1, some 1,
              some 1]).pairs ip (site "2001:db8::1"),
          pair.1.expect = .mustFail →
            classify pair.1 pair.2 true none = .proven) ∧
      ¬ ((∃ pair ∈
            (run [some 0, some 0, some 1, some 3, some 1, some 0,
              some 1, some 1]).pairs ip (twice "192.0.2.9"),
          pair.1.expect = .mustFail ∧
            classify pair.1 pair.2 true none = .reachable) →
        (aggregate
          (rows (twice "192.0.2.9")
            [some 0, some 0, some 1, some 3, some 1, some 0,
              some 1, some 1])
          (some (twice "192.0.2.9")) [] []).verdict =
            .notIsolated) := by
  decide

end Lan

end RangeIsolation

end TrueNorth
