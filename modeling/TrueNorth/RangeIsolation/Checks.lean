import Mathlib.Data.List.Sort
import TrueNorth.Lib.Dict

/-
  The isolation checks of one security zone, planned from the
  site's settings (worker/range_isolation.py).

  What the standard library's `ipaddress` makes of a text is
  an argument, `ip`: the address as it is written out, and
  whether it is an IPv6 one.

  Key definitions include:
    * `Target`
    * `Settings`
    * `Check`
    * `peers`
    * `planChecks`
-/

--------
-- Settings
--------

namespace TrueNorth

namespace RangeIsolation

/- `ipaddress.ip_address`, of a text that is an address. -/
structure Address where
  text : String
  v6 : Bool
deriving DecidableEq

/- `_ip`. -/
def ipText
    (ip : String → Option Address)
    (text : String) : String :=
  match ip text with
  | none => ""
  | some address => address.text

structure Target where
  host : String
  port : Option Nat
deriving DecidableEq

namespace Target

def v6
    (ip : String → Option Address)
    (t : Target) : Bool :=
  match ip t.host with
  | none => false
  | some address => address.v6

/- A port that Python takes for true. -/
def hasPort (t : Target) : Bool :=
  t.port.any (· ≠ 0)

/- `str(self.port)`. -/
def portText (t : Target) : String :=
  match t.port with
  | none => "None"
  | some port => toString port

/- `str(self)`. -/
def text
    (ip : String → Option Address)
    (t : Target) : String :=
  let host := if t.v6 ip then "[" ++ t.host ++ "]" else t.host
  if t.hasPort then host ++ ":" ++ t.portText else host

/- An IPv4 literal. -/
def v4
    (ip : String → Option Address)
    (t : Target) : Bool :=
  !t.v6 ip && ipText ip t.host ≠ ""

end Target

inductive Mode where
| warn
| enforce
deriving DecidableEq

def Mode.text : Mode → String
| .warn => "warn"
| .enforce => "enforce"

structure Settings where
  mode : Mode
  targets : List Target
  exceptions : List Target
  closedPorts : List Nat
  externalName : String
deriving DecidableEq

--------
-- Zones and Probe VMs
--------

/- `key` is the name VM NICs carry for the zone. -/
structure Zone where
  zone : String
  key : String
  cidr : String
  gateway : String
deriving DecidableEq

structure Nic where
  network : String
  ip : String
deriving DecidableEq

structure Vm where
  name : String
  family : String
  nics : List Nic
deriving DecidableEq

/- `_on`: the NICs of a VM on the zone. -/
def onZone
    (z : Zone)
    (vm : Vm) : List Nic :=
  vm.nics.filter (fun n => n.network = z.key || n.network = z.zone)

section

variable (ip : String → Option Address)

/- The first address a VM has on the zone, or "". -/
def zoneAddress
    (z : Zone)
    (vm : Vm) : String :=
  ((((onZone z vm).map (fun n => ipText ip n.ip)).find?
    (· ≠ "")).getD "")

/- Linux first: Windows drops ping by default. -/
def askedBefore (v v' : Vm) : Prop :=
  if decide (v.family = "windows") = decide (v'.family = "windows")
  then v.name ≤ v'.name
  else v.family ≠ "windows"

instance : DecidableRel askedBefore :=
  fun v v' => by unfold askedBefore; infer_instance

/- `_peers`, with the VM at index `probe` the prober. -/
def peers
    (vms : List Vm)
    (z : Zone)
    (probe : Nat) : List String :=
  let held := vms.flatMap (fun v =>
    (onZone z v).map (fun n => ipText ip n.ip))
  let first :=
    if z.gateway ≠ "" && held.contains z.gateway then [z.gateway]
    else []
  let others :=
    ((vms.zipIdx.filter (fun v =>
      v.2 ≠ probe && onZone z v.1 ≠ [])).map
        Prod.fst).insertionSort askedBefore
  (others.foldl
    (fun out v =>
      let address := zoneAddress ip z v
      if address ≠ "" && !out.contains address then
        out ++ [address]
      else out)
    first).take 3

end

--------
-- Checks
--------

/- The probes a guest can run (`isolation_scripts.KINDS`). -/
inductive ProbeKind where
| tcp
| icmp
| selftest
| dnsInt
| dnsExt
| route
| v6route
| v6addr
deriving DecidableEq

structure Probe where
  kind : ProbeKind
  args : List String
deriving DecidableEq

inductive CheckName where
| selftest
| tcp
| icmp
| exception
| closedPort
| dnsInternal
| dnsExternal
| route
| ipv6Route
| ipv6Address
| ipv6Egress
deriving DecidableEq

def CheckName.text : CheckName → String
| .selftest => "selftest"
| .tcp => "tcp"
| .icmp => "icmp"
| .exception => "exception"
| .closedPort => "closed_port"
| .dnsInternal => "dns_internal"
| .dnsExternal => "dns_external"
| .route => "route"
| .ipv6Route => "ipv6_route"
| .ipv6Address => "ipv6_address"
| .ipv6Egress => "ipv6_egress"

/-
  What a check expects: must fail, must connect, a
  precondition, a recorded fact; an advisory check can only
  lower the verdict.
-/
inductive Expect where
| mustFail
| mustConnect
| precondition
| fact
| advisory
deriving DecidableEq

structure Check where
  check : CheckName
  target : String
  expect : Expect
  probe : Probe
deriving DecidableEq

section

variable (ip : String → Option Address)

/- The ICMP check of a host that has none yet. -/
def icmpOnce
    (seen : List String)
    (host : String) : List Check :=
  if seen.contains host then []
  else [⟨.icmp, host, .mustFail, ⟨.icmp, [host]⟩⟩]

/- The checks of the site's targets, in their order. -/
def targetChecks
    (seen : List String) :
    List Target → List Check
| [] => []
| t :: ts =>
    (if t.hasPort then
      [⟨.tcp, t.text ip, .mustFail,
        ⟨.tcp, [t.host, t.portText]⟩⟩]
    else []) ++
      icmpOnce seen t.host ++
      targetChecks (t.host :: seen) ts

def exceptionCheck (t : Target) : Check :=
  ⟨.exception, t.text ip, .mustConnect,
    ⟨.tcp, [t.host, t.portText]⟩⟩

def closedPortCheck
    (host : String)
    (port : Nat) : Check :=
  let t : Target := ⟨host, some port⟩
  ⟨.closedPort, t.text ip, .mustFail, ⟨.tcp, [host, t.portText]⟩⟩

/- What else of the exceptions' hosts has to be closed. -/
def hostChecks
    (cfg : Settings)
    (seen : List String)
    (host : String) : List Check :=
  (cfg.closedPorts.filter (fun port =>
    !cfg.exceptions.contains ⟨host, some port⟩)).map
      (closedPortCheck ip host) ++
    icmpOnce seen host

/- The path out, hop 1 proven alive through an exception. -/
def routeChecks (cfg : Settings) : List Check :=
  match cfg.targets.find? (Target.v4 ip) with
  | none => []
  | some t =>
      if t.host = "" then []
      else
        match cfg.exceptions.find? (Target.v4 ip) with
        | none =>
            [⟨.route, t.host, .advisory, ⟨.route, [t.host]⟩⟩]
        | some live =>
            [⟨.route, t.host, .mustFail,
              ⟨.route, [t.host, live.host, live.portText]⟩⟩]

def dnsExternalCheck (cfg : Settings) : Check :=
  ⟨.dnsExternal, cfg.externalName, .mustFail,
    ⟨.dnsExt, [cfg.externalName]⟩⟩

/-
  `plan_checks`.  `dns` is the range's DNS server and its
  internal name, if it has one.
-/
def planChecks
    (z : Zone)
    (probe : Nat)
    (vms : List Vm)
    (cfg : Settings)
    (dns : Option (String × String)) : List Check :=
  let asked := peers ip vms z probe
  let hosts :=
    (cfg.exceptions.map Target.host).dedup.insertionSort (· ≤ ·)
  (if asked = [] then []
  else
    [⟨.selftest, String.intercalate "," asked, .precondition,
      ⟨.selftest, asked⟩⟩]) ++
  targetChecks ip [] cfg.targets ++
  cfg.exceptions.map (exceptionCheck ip) ++
  hosts.flatMap
    (hostChecks ip cfg (cfg.targets.map Target.host)) ++
  (match dns with
  | none => []
  | some (server, name) =>
      [⟨.dnsInternal, name ++ " @ " ++ server, .precondition,
        ⟨.dnsInt, [server, name]⟩⟩]) ++
  [dnsExternalCheck cfg] ++
  routeChecks ip cfg ++
  [⟨.ipv6Route, "route", .fact, ⟨.v6route, []⟩⟩,
    ⟨.ipv6Address, "address", .fact, ⟨.v6addr, []⟩⟩]

end

end RangeIsolation

end TrueNorth
