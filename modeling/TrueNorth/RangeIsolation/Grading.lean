import TrueNorth.RangeIsolation.Checks

/-
  From probe codes to a verdict (worker/range_isolation.py):
  each check's result class, each zone's verdict, and the
  range's.

  Key definitions include:
    * `classify`
    * `gradeZone`
    * `verdictOfChecks`
    * `aggregate`
    * `record`
-/

--------
-- Classification
--------

namespace TrueNorth

namespace RangeIsolation

inductive Result where
| proven
| reachable
| inconclusive
| connectFailed
deriving DecidableEq

def Result.text : Result → String
| .proven => "proven_unreachable"
| .reachable => "reachable"
| .inconclusive => "inconclusive"
| .connectFailed => "connect_failed_only"

/- Silence is proof only with a passing self-test. -/
def silent (selftestOk : Bool) : Result :=
  if selftestOk then .proven else .inconclusive

/-
  `classify`: a check's result class from its probe code.
  No code: the guest step failed, timed out or did not run.
-/
def classify
    (check : Check)
    (code : Option Nat)
    (selftestOk : Bool)
    (dnsOk : Option Bool) : Result :=
  match code with
  | none => .inconclusive
  | some code =>
      match check.probe.kind, code with
      | .tcp, 0 => .reachable
      | .tcp, 1 => .connectFailed
      | .tcp, 2 => .connectFailed
      | .tcp, 3 => silent selftestOk
      | .icmp, 0 => .reachable
      | .icmp, 1 => silent selftestOk
      | .icmp, 3 => .connectFailed
      | .icmp, 4 => .reachable
      | .selftest, 0 => .reachable
      | .dnsInt, 0 => .reachable
      | .dnsExt, 0 => .reachable
      | .dnsExt, 1 => silent (selftestOk && dnsOk ≠ some false)
      | .dnsExt, 2 => silent (selftestOk && dnsOk ≠ some false)
      | .route, 0 => silent selftestOk
      | .route, 1 => .reachable
      | .route, 2 => silent selftestOk
      | _, _ => .inconclusive

/- `passed`; a fact is not graded. -/
def passed
    (expect : Expect)
    (result : Result) : Option Bool :=
  match expect with
  | .mustFail => some (result = .proven)
  | .advisory => if result = .reachable then some false else none
  | .mustConnect => some (result = .reachable)
  | .precondition => some (result = .reachable)
  | .fact => none

--------
-- Rows
--------

structure Row where
  check : CheckName
  target : String
  expect : Expect
  result : Result
  code : Option Nat
  passed : Option Bool
  note : Option String
deriving DecidableEq

/- `NOT_MEASURABLE`. -/
def notMeasurable : Nat := 5

def routeAdvisory : String :=
  "route check advisory: no permitted exception " ++
  "(tn_range_isolation_exceptions) to prove the first hop " ++
  "alive through, so a silent first hop proves nothing; a " ++
  "path out still fails the range"

/- What a row says beside its result. -/
def noteOf
    (c : Check)
    (code : Option Nat) : Option String :=
  if code = some notMeasurable && c.probe.kind ≠ .selftest then
    some ("not measured from this zone: the probe VM's route " ++
      "leaves by another NIC")
  else if c.probe.kind = .icmp && code = some 4 then
    some ("an ICMP unreachable came from a router outside the " ++
      "range")
  else if c.probe.kind = .route && code = some 2 then
    some ("hop 1 stayed silent toward the target (it drops " ++
      "before forwarding) and is proven alive by a TTL-1 " ++
      "connect toward the permitted exception")
  else if c.probe.kind = .route && code = some 6 then
    some ("hop 1 stayed silent and could not be proven alive " ++
      "through the permitted exception")
  else
    none

def rowOf
    (c : Check)
    (code : Option Nat)
    (selftestOk : Bool)
    (dnsOk : Option Bool) : Row :=
  let result := classify c code selftestOk dnsOk
  let note := noteOf c code
  { check := c.check
    target := c.target
    expect := c.expect
    result := result
    code := code
    passed := passed c.expect result
    note :=
      if c.expect = .advisory then
        some (String.intercalate "; "
          (note.toList ++ [routeAdvisory]))
      else note }

inductive Fact where
| present
| absent
| unknown
deriving DecidableEq

/- `FACT_STATES`. -/
def factState : Option Nat → Fact
| some 0 => .present
| some 1 => .absent
| _ => .unknown

/- `_is_v6`, of a target as a row writes it. -/
def isV6
    (ip : String → Option Address)
    (target : String) : Bool :=
  let host :=
    match target.toList with
    | '[' :: rest => String.ofList (rest.takeWhile (· ≠ ']'))
    | _ => target
  match ip host with
  | none => false
  | some address => address.v6

/- A failed IPv6 connect where the zone has no IPv6. -/
def upgradable
    (ip : String → Option Address)
    (r : Row) : Bool :=
  (r.check = .tcp || r.check = .icmp) &&
    r.result = .connectFailed && isV6 ip r.target

def upgraded
    (ip : String → Option Address)
    (selftestOk : Bool)
    (r : Row) : Row :=
  if upgradable ip r then
    { r with
      result := silent selftestOk
      note := some "no IPv6 route and no IPv6 address"
      passed := passed r.expect (silent selftestOk) }
  else r

--------
-- Zones
--------

inductive Verdict where
| isolated
| notIsolated
| incomplete
deriving DecidableEq

def Verdict.text : Verdict → String
| .isolated => "isolated"
| .notIsolated => "not_isolated"
| .incomplete => "incomplete"

/- A check that must not get out, and got out. -/
def Row.leaks (r : Row) : Bool :=
  (r.expect = .mustFail || r.expect = .advisory) &&
    r.result = .reachable

def Row.weak (r : Row) : Bool :=
  r.expect = .mustFail && r.result ≠ .proven

/- A permitted exception that did not connect. -/
def Row.missing (r : Row) : Bool :=
  r.expect = .mustConnect && r.result ≠ .reachable

def Row.named (r : Row) : String :=
  r.check.text ++ " " ++ r.target

/- What a zone that leaks nothing falls short of. -/
def shortOf
    (rows : List Row)
    (selftestOk hasSelftest : Bool) : List String :=
  let weak :=
    (rows.filter Row.weak).map (fun r =>
      r.named ++ " (" ++ r.result.text ++ ")")
  let missing :=
    (rows.filter Row.missing).map (fun r =>
      r.target ++ " (" ++ r.result.text ++ ")")
  (if !hasSelftest then
    ["no gateway or peer to self-test against"]
  else if !selftestOk then
    ["self-test failed (no silence counts as proof)"]
  else []) ++
  (if weak ≠ [] then
    ["not proven unreachable: " ++ String.intercalate ", " weak]
  else []) ++
  (if missing ≠ [] then
    ["permitted exception did not connect: " ++
      String.intercalate ", " missing]
  else [])

/- `verdict_of_checks`: the verdict, and its reasons. -/
def verdictOfChecks
    (rows : List Row)
    (selftestOk hasSelftest : Bool) : Verdict × List String :=
  let leaks := (rows.filter Row.leaks).map Row.named
  let reasons := shortOf rows selftestOk hasSelftest
  if leaks ≠ [] then
    (.notIsolated,
      ["reachable outside its exceptions: " ++
        String.intercalate ", " leaks])
  else if reasons ≠ [] then
    (.incomplete, reasons)
  else
    (.isolated, [])

/- What was graded of a zone. -/
structure Graded where
  selftestPassed : Bool
  selftestTargets : String
  ipv6 : Dict CheckName Fact
  checks : List Row
  verdict : Verdict
  reasons : List String
deriving DecidableEq

section

variable (planned : List Check)
variable (codes : List (Option Nat))

/- `by`: the code of each check. -/
def codesBy : Dict Check (Option Nat) :=
  .ofPairs (planned.zip codes)

def codeOf (c : Check) : Option Nat :=
  ((codesBy planned codes).get? c).getD none

/- `selftest_ok`. -/
def selftestOk : Bool :=
  match planned.find? (fun c => c.check = .selftest) with
  | none => false
  | some c =>
      classify c (codeOf planned codes c) true none = .reachable

/- `dns_ok`. -/
def dnsOk : Option Bool :=
  (planned.find? (fun c => c.check = .dnsInternal)).map
    (fun c =>
      classify c (codeOf planned codes c)
        (selftestOk planned codes) none = .reachable)

def ipv6Facts : Dict CheckName Fact :=
  .ofPairs
    ((planned.filter (fun c => c.expect = .fact)).map (fun c =>
      (c.check, factState (codeOf planned codes c))))

/- No IPv6 route, and no address but link-local ones. -/
def ipv6Absent : Bool :=
  let facts := ipv6Facts planned codes
  facts.get? .ipv6Route = some .absent &&
    facts.get? .ipv6Address = some .absent

/- The row of IPv6 where the site has no IPv6 target. -/
def ipv6Row : Row :=
  let (result, note) :=
    if ipv6Absent planned codes then
      (silent (selftestOk planned codes),
        "no IPv6 route and no IPv6 address (not even ULA)")
    else if (ipv6Facts planned codes).entries.any (fun entry =>
        entry.2 = .unknown) then
      (.inconclusive,
        "the guest's IPv6 state could not be read")
    else
      (.inconclusive,
        "IPv6 is present (a route or an address, ULA " ++
        "included) but no site IPv6 targets are set to prove " ++
        "it contained (#238)")
  { check := .ipv6Egress
    target := "IPv6"
    expect := .mustFail
    result := result
    code := none
    passed := passed .mustFail result
    note := some note }

variable (ip : String → Option Address)
variable (cfg : Settings)

/- The rows of a zone: a fact has none. -/
def zoneRows : List Row :=
  let rows :=
    (planned.filter (fun c => c.expect ≠ .fact)).map (fun c =>
      rowOf c (codeOf planned codes c)
        (selftestOk planned codes) (dnsOk planned codes))
  (if ipv6Absent planned codes then
    rows.map (upgraded ip (selftestOk planned codes))
  else rows) ++
  (if cfg.targets.any (Target.v6 ip) then []
  else [ipv6Row planned codes])

/- `grade_zone`: `none` where the codes are not the plan's. -/
def gradeZone : Option Graded :=
  if planned.length ≠ codes.length then
    none
  else
    let selfRow :=
      planned.find? (fun c => c.check = .selftest)
    let rows := zoneRows planned codes ip cfg
    let (verdict, reasons) :=
      verdictOfChecks rows (selftestOk planned codes)
        selfRow.isSome
    some
      { selftestPassed := selftestOk planned codes
        selftestTargets :=
          (selfRow.map Check.target).getD ""
        ipv6 := ipv6Facts planned codes
        checks := rows
        verdict := verdict
        reasons := reasons }

end

--------
-- The Range
--------

inductive AccountClass where
| staff
| studentVisible
deriving DecidableEq

def AccountClass.text : AccountClass → String
| .staff => "staff"
| .studentVisible => "student-visible"

/- What is recorded of the VM a zone was probed from. -/
structure ProbeVm where
  vm : String
  accountClass : AccountClass
  trusted : Bool
deriving DecidableEq

/- `trusted_probe`, of the classes of the node's accounts. -/
def trustedProbe
    (nodeAccounts : List AccountClass)
    (flagged : Bool)
    (loginClass : AccountClass) : Bool :=
  flagged && loginClass = .staff &&
    nodeAccounts.all (· = .staff)

/- Why a zone has not been probed. -/
inductive Unprobed where
| noProbe
| notRun
| guestOpFailed
| budgetExhausted
deriving DecidableEq

def Unprobed.text : Unprobed → String
| .noProbe => "no_probe"
| .notRun => "not_run"
| .guestOpFailed => "guest_op_failed"
| .budgetExhausted => "budget_exhausted"

inductive Status where
| probed
| unprobed (why : Unprobed)
deriving DecidableEq

def Status.text : Status → String
| .probed => "probed"
| .unprobed why => why.text

/- A zone as it is recorded. -/
structure ZoneRow extends Graded where
  zone : Zone
  status : Status
  probe : Option ProbeVm
deriving DecidableEq

/- A zone that was probed (`_probe_zone`). -/
def probed
    (z : Zone)
    (graded : Graded)
    (probe : ProbeVm) : ZoneRow :=
  { graded with
    zone := z
    status := .probed
    probe := some probe }

/- `unprobed`. -/
def unprobed
    (z : Zone)
    (status : Unprobed)
    (reason : String) : ZoneRow where
  zone := z
  status := .unprobed status
  probe := none
  selftestPassed := false
  selftestTargets := ""
  ipv6 := .empty
  checks := []
  verdict := .incomplete
  reasons := [reason]

/- `measured_from`. -/
def measuredFrom (rows : List ZoneRow) : String :=
  let parts :=
    rows.filterMap (fun z =>
      z.probe.map (fun probe =>
        z.zone.zone ++ ": " ++ probe.vm ++ " using a " ++
          probe.accountClass.text ++ " account"))
  if parts = [] then ""
  else "as measured from " ++ String.intercalate "; " parts

def ZoneRow.why (z : ZoneRow) : String :=
  "zone " ++ z.zone.zone ++ ": " ++
    String.intercalate "; " z.reasons

structure Aggregate where
  verdict : Verdict
  summary : String
  failures : List String
  missing : List String
  notes : List String
  excluded : List String
deriving DecidableEq

/- Each part that is not empty, in parentheses. -/
def parenthesised (parts : List String) : String :=
  String.join
    ((parts.filter (· ≠ "")).map (fun part =>
      " (" ++ part ++ ")"))

/- The zones whose verdict it is, and why. -/
def whyOf
    (rows : List ZoneRow)
    (verdict : Verdict) : List String :=
  (rows.filter (fun z => z.verdict = verdict)).map ZoneRow.why

/- What a range that leaks nothing falls short of. -/
def gapsOf
    (rows : List ZoneRow)
    (cfg : Option Settings) : List String :=
  whyOf rows .incomplete ++
  (if rows = [] then ["no range networks recorded"] else []) ++
  (if cfg.any (fun cfg => cfg.targets = []) then
    ["no site probe targets configured " ++
      "(tn_range_isolation_probe_targets)"]
  else [])

/- `aggregate`: the range's verdict over its zones. -/
def aggregate
    (rows : List ZoneRow)
    (cfg : Option Settings)
    (notes skipped : List String) : Aggregate :=
  let failures := whyOf rows .notIsolated
  let gaps := gapsOf rows cfg
  let verdict :=
    if failures ≠ [] then .notIsolated
    else if gaps ≠ [] then .incomplete
    else .isolated
  let notProbed := skipped.map ("not probed: " ++ ·)
  let count := toString rows.length
  let summary :=
    (match verdict with
    | .isolated =>
        "isolated: " ++ count ++ " zone(s) probed, every " ++
          "check that must fail proven unreachable"
    | .notIsolated =>
        "not isolated: " ++ String.intercalate "; " failures
    | .incomplete =>
        "incomplete (" ++
          toString
            ((rows.filter (fun z => z.status = .probed)).length) ++
          " of " ++ count ++ " zone(s) probed): " ++
          String.intercalate "; " gaps) ++
    parenthesised
      [measuredFrom rows, String.intercalate "; " notProbed]
  { verdict := verdict
    summary := String.ofList (summary.toList.take 900)
    failures := failures
    missing := gaps
    notes := notes ++ notProbed
    excluded := skipped }

inductive Source where
| build
| reprobe
deriving DecidableEq

/- What is stored of a run of the probes. -/
structure Record extends Aggregate where
  mode : Mode
  startedAt : String
  ranAt : String
  settings : Option Settings
  source : Source
  zones : List ZoneRow
deriving DecidableEq

/- `record`. -/
def record
    (rows : List ZoneRow)
    (cfg : Option Settings)
    (mode : Mode)
    (notes : List String)
    (startedAt ranAt : String)
    (source : Source)
    (skipped : List String) : Record :=
  { aggregate rows cfg notes skipped with
    mode := mode
    startedAt := startedAt
    ranAt := ranAt
    settings := cfg
    source := source
    zones := rows }

end RangeIsolation

end TrueNorth
