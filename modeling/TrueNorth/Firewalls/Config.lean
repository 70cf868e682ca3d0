import TrueNorth.Lib.Dict
import TrueNorth.Lib.FirstWins
import TrueNorth.Lib.IpNetwork
import TrueNorth.Lib.Texts

/-
  The configuration of a range's pfSense or OPNsense
  firewall, as the worker writes it (`pfsense_config.py`).
  It is kept as the elements of the `config.xml`, before
  they are written as text.

  Key definitions include:
    * `aliasName` (`_alias_name`)
    * `interfaces` (`_interfaces`)
    * `Rules.aliasFor`, `Rules.rule` (`_Rules`)
    * `TemplateRule.portTexts` (`_ports`)
    * `templateRule` (a turn of the loop over the rules)
    * `buildConfig` (`build_config`)
-/

--------
-- Texts
--------

namespace TrueNorth

namespace Firewalls

open Texts

/- `[A-Za-z0-9_]`. -/
def isAliasChar (c : Char) : Bool :=
  c.isAlphanum || c = '_'

/- `_ALIAS_RE.sub("_", text)`. -/
def aliasChar (c : Char) : Char :=
  if isAliasChar c then c else '_'

/- `text[:limit]`. -/
def clip
    (limit : Nat)
    (text : String) : String :=
  String.ofList (text.toList.take limit)

/- `text or default`. -/
def orElse (text default : String) : String :=
  if text = "" then default else text

/- `_alias_name`. -/
def aliasName
    (text : String)
    (limit : Nat) : String :=
  clip limit
    (orElse
      (String.ofList
        (trimmed (· = '_') (text.toList.map aliasChar)))
      "x")

/- The limit that an alias has by default. -/
def aliasLimit : Nat := 31

/-
  `str.lower`, of the characters that a word in ASCII can
  come from.  Any other is left: what it becomes is not in
  ASCII either.
-/
def lower (text : String) : String :=
  String.ofList (text.toList.map (fun c =>
    if c.toNat = 0x212a then 'k' else c.toLower))

/- `p.replace("-", ":")`. -/
def colons (text : String) : String :=
  String.ofList
    (text.toList.map (fun c => if c = '-' then ':' else c))

/- `text.rstrip(":")`. -/
def withoutColon (text : String) : String :=
  String.ofList
    (text.toList.reverse.dropWhile (· = ':')).reverse

--------
-- Errors And Notes
--------

/- Why there is no configuration. -/
inductive Error where
  | unknownProduct (product : String)
  | uplinkNotFirst
  | zoneWithoutAddress (vmName : String)
  /- no PfsenseConfigError: `ip_interface` refuses the text -/
  | badAddress (text : String)
  /- no PfsenseConfigError either: `next(zone_keys)` ends -/
  | noKeyLeft
deriving DecidableEq

/- A template rule that was skipped, and why. -/
inductive Note where
  | action (name word : String)
  | source (name src : String)
  | destination (name dst : String)
deriving DecidableEq

/- The text of a note; `repr` quotes a text. -/
def Note.text
    (repr : String → String) :
    Note → String
| .action name word =>
    "firewall rule " ++ repr name ++ ": action " ++ repr word ++
      " is not a pfSense filter rule (skipped)"
| .source name src =>
    "firewall rule " ++ repr name ++ ": unknown source zone " ++
      repr src ++ " (skipped)"
| .destination name dst =>
    "firewall rule " ++ repr name ++
      ": unknown destination zone " ++ repr dst ++ " (skipped)"

--------
-- Interfaces
--------

/- An empty text stands for an entry that is not there. -/
structure Nic where
  uplink : Bool
  network : String
  ip : String
  prefixLen : Option Int
  gateway : String
deriving DecidableEq

structure VmDef where
  name : String
  nodeId : String
  nics : List Nic
deriving DecidableEq

structure Interface where
  key : String
  ifname : String
  network : String
  ip : String
  prefixLen : Int
  cidr : String
deriving DecidableEq

/- `int(nic.get("prefix") or 24)`. -/
def Nic.prefixOr24 (nic : Nic) : Int :=
  match nic.prefixLen with
  | none => 24
  | some n => if n = 0 then 24 else n

/- The entries of `zone_keys`. -/
def zoneKey? (i : Nat) : Option String :=
  if i = 0 then some "lan"
  else if i < 64 then some ("opt" ++ toString i)
  else none

/- `bool(nics) and bool(nics[0].get("uplink"))`. -/
def hasUplink (nics : List Nic) : Bool :=
  match nics with
  | [] => false
  | nic :: _ => nic.uplink

/- The key of NIC `i`, and how many zone keys are used then. -/
def nicKey
    (uplinkFirst : Bool)
    (i used : Nat)
    (nic : Nic) : Except Error (String × Nat) :=
  if nic.uplink then
    if i = 0 then .ok ("wan", used) else .error .uplinkNotFirst
  else if !uplinkFirst && i = 0 then .ok ("wan", used)
  else
    match zoneKey? used with
    | some key => .ok (key, used + 1)
    | none => .error .noKeyLeft

/- `str(ip_interface(f"{ip}/{prefix}").network)`. -/
def Nic.cidr (nic : Nic) : Except Error String :=
  if nic.ip = "" then .ok ""
  else
    let text := nic.ip ++ "/" ++ toString nic.prefixOr24
    match IpNetwork.network? text with
    | some net => .ok net.text
    | none => .error (.badAddress text)

def interfacesFrom
    (uplinkFirst : Bool) :
    Nat → Nat → List Nic → Except Error (List Interface)
| _, _, [] => .ok []
| i, used, nic :: nics => do
    let (key, used') ← nicKey uplinkFirst i used nic
    let cidr ← nic.cidr
    let rest ← interfacesFrom uplinkFirst (i + 1) used' nics
    .ok
      ({ key := key
         ifname := "vmx" ++ toString i
         network := nic.network
         ip := nic.ip
         prefixLen := nic.prefixOr24
         cidr := cidr } :: rest)

/- `_interfaces`. -/
def interfaces
    (vm : VmDef) : Except Error (List Interface) :=
  interfacesFrom (hasUplink vm.nics) 0 0 vm.nics

--------
-- Rules And Aliases
--------

inductive Kind where
  | pass
  | block
  | reject
deriving DecidableEq

inductive Endpoint where
  | network (name : String)
  | address (text : String)
  | any
deriving DecidableEq

/- `_endpoint`, without the port. -/
def endpoint (network address : String) : Endpoint :=
  if network ≠ "" then .network network
  else if address ≠ "" then .address address
  else .any

/-
  What a `rule` element holds beside its tracker.  A floating
  rule is quick, and has a direction.
-/
structure RuleBody where
  type : Kind
  interface : String
  floating : Option String
  protocol : String
  source : Endpoint
  destination : Endpoint
  port : String
  log : Bool
  descr : String
deriving DecidableEq

/- `statetype` is written on the rules that pass. -/
def RuleBody.statetype (body : RuleBody) : Option String :=
  if body.type = .pass then some "keep state" else none

structure FilterRule where
  tracker : Nat
  body : RuleBody
deriving DecidableEq

structure Alias where
  name : String
  type : String
  address : String
  descr : String
  detail : String
deriving DecidableEq

/- `_Rules`: `alias_names` are the names of the aliases. -/
structure Rules where
  tracker : Nat
  filter : List FilterRule
  aliases : List Alias
deriving DecidableEq

namespace Rules

def empty : Rules where
  tracker := 1700000000
  filter := []
  aliases := []

/- The element for a name that is clean already. -/
def aliasElement
    (name type : String)
    (members : List String)
    (descr : String) : Alias where
  name := name
  type := type
  address := " ".intercalate members
  descr := descr
  detail := "||".intercalate (members.map (fun _ => ""))

/- `_Rules.alias`: the name that a rule then refers to. -/
def aliasFor
    (rs : Rules)
    (name type : String)
    (members : List String)
    (descr : String) : String × Rules :=
  let name := aliasName name aliasLimit
  let a := aliasElement name type members descr
  (name,
    { rs with aliases := FirstWins.add Alias.name rs.aliases a })

/- `_Rules.rule`. -/
def rule
    (rs : Rules)
    (body : RuleBody) : Rules where
  tracker := rs.tracker + 1
  filter :=
    rs.filter ++
      [⟨rs.tracker + 1, { body with descr := clip 200 body.descr }⟩]
  aliases := rs.aliases

end Rules

end Firewalls

end TrueNorth

--------
-- Template Rules
--------

namespace TrueNorth

namespace Firewalls

open Texts

/- A port as a template writes it. -/
inductive PortValue where
  | number (n : Int)
  | text (t : String)
deriving DecidableEq

def PortValue.str :
    PortValue → String
| .number n => toString n
| .text t => t

inductive Ports where
  | none
  | one (p : PortValue)
  | many (ps : List PortValue)
deriving DecidableEq

/- `rule.get("ports") or []`, as a list. -/
def Ports.values :
    Ports → List PortValue
| .none => []
| .one (.number n) => if n = 0 then [] else [.number n]
| .one (.text t) => if t = "" then [] else [.text t]
| .many ps => ps

/-
  A text stands for `str` of what the template has, an empty
  one for what is false there or missing.
-/
structure TemplateRule where
  name : String
  action : String
  src : String
  dst : String
  ports : Ports
  note : String
  description : String
deriving DecidableEq

namespace TemplateRule

/- `_ports`. -/
def portTexts (t : TemplateRule) : List String :=
  (t.ports.values.map (fun p => strip p.str)).filter (· ≠ "")

/- The name of the rule in place `n`. -/
def nameAt
    (t : TemplateRule)
    (n : Nat) : String :=
  orElse t.name ("rule" ++ toString (n + 1))

def actionOr (t : TemplateRule) : String :=
  lower (orElse t.action "allow")

def srcOr (t : TemplateRule) : String :=
  orElse t.src "*"

def dstOr (t : TemplateRule) : String :=
  orElse t.dst "*"

def descr
    (t : TemplateRule)
    (n : Nat) : String :=
  withoutColon
    (strip (t.nameAt n ++ ": " ++ orElse t.note t.description))

end TemplateRule

/- `name in ("*", "any")`. -/
def isStar (name : String) : Bool :=
  name = "*" || name = "any"

/- The rule type of an action, if it is one of a filter rule. -/
def filterKind? (action : String) : Option Kind :=
  if action = "allow" ∨ action = "pass" then some .pass
  else if action = "deny" ∨ action = "block" then some .block
  else if action = "reject" then some .reject
  else none

structure NetworkDef where
  name : String
  cidr : String
deriving DecidableEq

/- What the loop over the rules reads. -/
structure Scope where
  zones : List Interface
  networks : List NetworkDef

namespace Scope

/- `by_zone`. -/
def byZone (scope : Scope) : Dict String Interface :=
  Dict.ofPairs (scope.zones.map (fun z => (z.network, z)))

/- `cidr_by_name`. -/
def cidrByName (scope : Scope) : Dict String String :=
  Dict.ofPairs
    ((scope.networks.filter (·.name ≠ "")).map
      (fun n => (n.name, n.cidr)))

/- `range_cidrs`. -/
def rangeCidrs (scope : Scope) : List String :=
  FirstWins.addAll id
    (FirstWins.addAll id []
      ((scope.networks.map NetworkDef.cidr).filter (· ≠ "")))
    (scope.zones.map Interface.cidr)

/- `srcs`. -/
def sources
    (scope : Scope)
    (src : String) : List Interface :=
  if isStar src then scope.zones
  else (scope.byZone.get? src).toList

/- `dst_kw`, as the endpoint it makes. -/
def destination?
    (scope : Scope)
    (dst : String) : Option Endpoint :=
  if isStar dst then some (endpoint "" "TN_ZONES")
  else
    match scope.byZone.get? dst with
    | some z => some (endpoint z.key "")
    | none =>
        match scope.cidrByName.get? dst with
        | none => none
        | some cidr =>
            if cidr = "" then none else some (endpoint "" cidr)

end Scope

/- The protocol and the port of a rule, and its alias if any. -/
def portField
    (t : TemplateRule)
    (n : Nat)
    (rs : Rules) : String × String × Rules :=
  match t.portTexts with
  | [] => ("", "", rs)
  | [p] => ("tcp/udp", p, rs)
  | ps =>
      let (name, rs) :=
        rs.aliasFor ("TN_P_" ++ t.nameAt n) "port"
          (ps.map colons) (t.nameAt n)
      ("tcp/udp", name, rs)

/- A turn of the loop over the rules. -/
def templateRule
    (scope : Scope)
    (st : Rules × List Note)
    (turn : TemplateRule × Nat) : Rules × List Note :=
  let (rs, notes) := st
  let (t, n) := turn
  if t.actionOr = "mirror" then (rs, notes)
  else
    match filterKind? t.actionOr with
    | none => (rs, notes ++ [.action (t.nameAt n) t.actionOr])
    | some kind =>
        let srcs := scope.sources t.srcOr
        if srcs = [] then
          if t.srcOr ∈ scope.cidrByName.keys then (rs, notes)
          else (rs, notes ++ [.source (t.nameAt n) t.srcOr])
        else
          match scope.destination? t.dstOr with
          | none =>
              (rs, notes ++ [.destination (t.nameAt n) t.dstOr])
          | some dst =>
              let (proto, port, rs) := portField t n rs
              (srcs.foldl
                (fun rs z =>
                  rs.rule
                    { type := kind
                      interface := z.key
                      floating := none
                      protocol := proto
                      source := endpoint z.key ""
                      destination := dst
                      port := port
                      log := false
                      descr := t.descr n })
                rs, notes)

--------
-- Configurations
--------

/- The arguments of `build_config`. -/
structure Input where
  vm : VmDef
  networks : List NetworkDef
  rules : List TemplateRule
  depotHost : String
  depotPorts : List Int
  domain : String
  hostname : String
  product : String
deriving DecidableEq

/- An element of `interfaces`. -/
structure InterfaceElement where
  key : String
  ifname : String
  descr : String
  ipaddr : String
  subnet : String
  gateway : Option String
deriving DecidableEq

structure PfsenseConfig where
  product : String
  hostname : String
  domain : String
  earlyshellcmd : Option String
  interfaceElements : List InterfaceElement
  gatewayItem : Option String
  outboundMode : String
  activeInterface : String
  outgoingInterface : String
  aliases : List Alias
  filter : List FilterRule
  interfaces : List Interface
  notes : List Note
deriving DecidableEq

/- `BOOT_COMMAND`. -/
def bootCommand : String :=
  "/usr/local/bin/php -q /usr/local/sbin/tn-pfsense-config boot"

namespace Input

def hasUplink (inp : Input) : Bool :=
  Firewalls.hasUplink inp.vm.nics

/- The interfaces that are zones, of all of them. -/
def zonesOf
    (inp : Input)
    (ifaces : List Interface) : List Interface :=
  ifaces.filter (fun i => !(inp.hasUplink && i.key = "wan"))

/- The gateway of the uplink, if there is one. -/
def gateway? (inp : Input) : Option String :=
  match inp.vm.nics with
  | nic :: _ =>
      if nic.uplink = true ∧ nic.gateway ≠ "" then
        some nic.gateway
      else none
  | [] => none

def hostnameOr (inp : Input) : String :=
  orElse inp.hostname
    (clip 63 (orElse inp.vm.nodeId (orElse inp.vm.name inp.product)))

def interfaceElement
    (inp : Input)
    (i : Interface) : InterfaceElement :=
  let isWan : Bool := inp.hasUplink && i.key = "wan"
  { key := i.key
    ifname := i.ifname
    descr :=
      if isWan then "WAN" else aliasName (orElse i.network i.key) 22
    ipaddr := i.ip
    subnet := toString i.prefixLen
    gateway :=
      if isWan ∧ inp.gateway?.isSome then some "WANGW" else none }

/- The uplink's own rules, which are floating. -/
def uplinkRules
    (inp : Input)
    (rs : Rules) : String × String × Rules :=
  if inp.hasUplink then
    if inp.depotHost ≠ "" then
      let (depot, rs) :=
        rs.aliasFor "TN_DEPOT" "host" [inp.depotHost]
          "TN-DEPOT01, the software depot"
      let (ports, rs) :=
        rs.aliasFor "TN_DEPOT_PORTS" "port"
          (inp.depotPorts.map (fun p => toString p))
          "Depot services the range may use"
      let rs :=
        rs.rule
          { type := .pass
            interface := "wan"
            floating := some "out"
            protocol := "tcp"
            source := endpoint "" ""
            destination := endpoint "" depot
            port := ports
            log := false
            descr := "TrueNorth: range -> depot only" }
      (depot, ports, rs.rule nothingElse)
    else ("", "", rs.rule nothingElse)
  else ("", "", rs)
where
  nothingElse : RuleBody :=
    { type := .block
      interface := "wan"
      floating := some "out"
      protocol := ""
      source := endpoint "" ""
      destination := endpoint "" ""
      port := ""
      log := true
      descr := "TrueNorth: nothing else leaves the range" }

/- The rules that every zone has before the template's. -/
def zoneRules
    (depot depotPorts : String)
    (rs : Rules)
    (z : Interface) : Rules :=
  let rs :=
    rs.rule
      { type := .pass
        interface := z.key
        floating := none
        protocol := "tcp/udp"
        source := endpoint z.key ""
        destination := endpoint "(self)" ""
        port := "53"
        log := false
        descr := z.network ++ ": DNS to the firewall" }
  if depot ≠ "" then
    rs.rule
      { type := .pass
        interface := z.key
        floating := none
        protocol := "tcp"
        source := endpoint z.key ""
        destination := endpoint "" depot
        port := depotPorts
        log := false
        descr := z.network ++ ": software depot" }
  else rs

/- Without template rules every zone may reach every zone. -/
def everyZone
    (allZones : String)
    (rs : Rules)
    (z : Interface) : Rules :=
  rs.rule
    { type := .pass
      interface := z.key
      floating := none
      protocol := ""
      source := endpoint z.key ""
      destination := endpoint "" allZones
      port := ""
      log := false
      descr := z.network ++ ": to every range zone" }

/- The rules and the aliases before the template's rules. -/
def ownRules
    (inp : Input)
    (scope : Scope) : String × Rules :=
  let (allZones, rs) :=
    Rules.empty.aliasFor "TN_ZONES" "network" scope.rangeCidrs
      "Every subnet of this range"
  let (depot, depotPorts, rs) := inp.uplinkRules rs
  (allZones, scope.zones.foldl (zoneRules depot depotPorts) rs)

/- All the rules and the aliases, and the notes. -/
def allRules
    (inp : Input)
    (scope : Scope) : Rules × List Note :=
  let (allZones, rs) := inp.ownRules scope
  if inp.rules = [] then
    (scope.zones.foldl (everyZone allZones) rs, [])
  else inp.rules.zipIdx.foldl (templateRule scope) (rs, [])

end Input

/- `build_config`; the flag elements are left out. -/
def buildConfig
    (inp : Input) : Except Error PfsenseConfig := do
  if inp.product ≠ "pfsense" ∧ inp.product ≠ "opnsense" then
    .error (.unknownProduct inp.product)
  else
    let ifaces ← interfaces inp.vm
    let zones := inp.zonesOf ifaces
    if zones = [] ∨ zones.all (·.ip ≠ "") = false then
      .error (.zoneWithoutAddress inp.vm.name)
    else
      let (rs, notes) :=
        inp.allRules { zones := zones, networks := inp.networks }
      .ok
        { product := inp.product
          hostname := inp.hostnameOr
          domain := inp.domain
          earlyshellcmd :=
            if inp.product = "pfsense" then some bootCommand
            else none
          interfaceElements := ifaces.map inp.interfaceElement
          gatewayItem := inp.gateway?
          outboundMode :=
            if inp.hasUplink then "automatic" else "disabled"
          activeInterface :=
            ",".intercalate ("lo0" :: zones.map Interface.key)
          outgoingInterface :=
            ",".intercalate (zones.map Interface.key)
          aliases := rs.aliases
          filter := rs.filter
          interfaces := ifaces
          notes := notes }

end Firewalls

end TrueNorth
