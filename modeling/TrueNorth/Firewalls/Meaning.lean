import TrueNorth.Firewalls.Written

/-
  What a firewall does with a configuration, what a template
  asks of it, and when the one is the other.

  Key definitions include:
    * `Reading`
    * `Packet`
    * `PfsenseConfig.inbound`, `PfsenseConfig.outbound`
    * `Naming`, `Input.named`, `Input.lookedUp`
    * `Input.wanted`
    * `MeansTemplate`
-/

--------
-- Packets And Texts
--------

namespace TrueNorth

namespace Firewalls

inductive Protocol where
  | tcp
  | udp
  | other
deriving DecidableEq

structure Packet (Addr : Type) where
  protocol : Protocol
  source : Addr
  target : Addr
  port : Nat

/-
  What ports and addresses a firewall reads in a text, and
  what subnet in the address and the prefix length of an
  interface.  The texts of an alias stand in one text, with
  blanks between them, and there a range of ports has a colon
  for its dash.
-/
structure Reading (Addr : Type) where
  port : String → Nat → Bool
  address : String → Addr → Bool
  subnet : String → Int → Addr → Bool
  port_joined : ∀ (texts : List String) (n : Nat),
    port (" ".intercalate texts) n = texts.any (port · n)
  port_colons : ∀ (text : String) (n : Nat),
    port (colons text) n = port text n
  address_joined : ∀ (texts : List String) (a : Addr),
    address (" ".intercalate texts) a = texts.any (address · a)

/- The transport protocols that a protocol element covers. -/
def protocolCovers
    (text : String)
    (protocol : Protocol) : Bool :=
  text = "" || (text = "tcp" && protocol = .tcp) ||
    (text = "tcp/udp" && protocol ≠ .other)

end Firewalls

end TrueNorth

--------
-- What A Configuration Does
--------

namespace TrueNorth

namespace Firewalls

namespace PfsenseConfig

variable {Addr : Type}

def aliasNamed?
    (cfg : PfsenseConfig)
    (name : String) : Option Alias :=
  cfg.aliases.find? (fun a => a.name = name)

/- A port element may be missing, or name a port alias. -/
def portCovers
    (R : Reading Addr)
    (cfg : PfsenseConfig)
    (text : String)
    (n : Nat) : Bool :=
  if text = "" then true
  else
    match cfg.aliasNamed? text with
    | none => R.port text n
    | some a =>
        if a.type = "port" then R.port a.address n
        else R.port text n

/- An address element may name an alias of addresses. -/
def addressCovers
    (R : Reading Addr)
    (cfg : PfsenseConfig)
    (text : String)
    (a : Addr) : Bool :=
  match cfg.aliasNamed? text with
  | none => R.address text a
  | some al =>
      if al.type = "port" then R.address text a
      else R.address al.address a

/- A network element names an interface, or the firewall. -/
def endpointCovers
    (R : Reading Addr)
    (cfg : PfsenseConfig)
    (e : Endpoint)
    (a : Addr) : Bool :=
  match e with
  | .any => true
  | .address text => cfg.addressCovers R text a
  | .network name =>
      if name = "(self)" then
        cfg.interfaces.any (fun i => R.address i.ip a)
      else
        match cfg.interfaces.find? (fun i => i.key = name) with
        | none => false
        | some i => R.subnet i.ip i.prefixLen a

/- What a rule does with a packet, if it is about it. -/
def judge
    (R : Reading Addr)
    (cfg : PfsenseConfig)
    (body : RuleBody)
    (p : Packet Addr) : Option Kind :=
  if protocolCovers body.protocol p.protocol &&
      cfg.endpointCovers R body.source p.source &&
      cfg.endpointCovers R body.destination p.target &&
      cfg.portCovers R body.port p.port then
    some body.type
  else none

def bodies (cfg : PfsenseConfig) : List RuleBody :=
  cfg.filter.map FilterRule.body

/- The floating rules of an interface, in one direction. -/
def floatingRules
    (cfg : PfsenseConfig)
    (key direction : String) : List RuleBody :=
  cfg.bodies.filter (fun b =>
    b.interface = key &&
      (b.floating = some direction || b.floating = some "any"))

/- The rules of an interface itself. -/
def interfaceRules
    (cfg : PfsenseConfig)
    (key : String) : List RuleBody :=
  cfg.bodies.filter (fun b =>
    b.interface = key && b.floating = none)

/-
  A packet that comes in is judged by the floating rules, then
  by the interface's: the first that is about it decides, and
  it is blocked where there is none.
-/
def inbound
    (R : Reading Addr)
    (cfg : PfsenseConfig)
    (key : String)
    (p : Packet Addr) : Kind :=
  FirstWins.verdict (cfg.judge R) .block
    (cfg.floatingRules key "in" ++ cfg.interfaceRules key) p

/- A packet goes out unless a floating rule is against it. -/
def outbound
    (R : Reading Addr)
    (cfg : PfsenseConfig)
    (key : String)
    (p : Packet Addr) : Kind :=
  FirstWins.verdict (cfg.judge R) .pass
    (cfg.floatingRules key "out") p

end PfsenseConfig

end Firewalls

end TrueNorth

--------
-- What A Template Asks For
--------

namespace TrueNorth

namespace Firewalls

variable {Addr : Type}

/-
  What a name in a template stands for: zones of the firewall,
  and, where it has none of the name, a part of the range.
-/
structure Naming (Addr : Type) where
  zones : String → List Interface
  elsewhere : String → Addr → Bool

namespace Input

/- Every subnet of the range. -/
def rangeCovers
    (R : Reading Addr)
    (inp : Input)
    (a : Addr) : Bool :=
  inp.networks.any (fun n => n.cidr ≠ "" && R.address n.cidr a) ||
    inp.zones.any (fun z => R.address z.cidr a)

/- A name stands for all that has the name. -/
def named
    (R : Reading Addr)
    (inp : Input) : Naming Addr where
  zones := fun name => inp.zones.filter (fun z => z.network = name)
  elsewhere := fun name a =>
    inp.networks.any (fun n =>
      n.name = name && n.cidr ≠ "" && R.address n.cidr a)

/-
  A name stands for the last that has the name, and a CIDR
  text that is an alias's name for what that alias stands for.
-/
def lookedUp
    (R : Reading Addr)
    (inp : Input) : Naming Addr where
  zones := fun name => (inp.scope.byZone.get? name).toList
  elsewhere := fun name a =>
    match inp.scope.cidrByName.get? name with
    | none => false
    | some cidr =>
        if cidr = "" then false
        else if cidr = "TN_ZONES" then inp.rangeCovers R a
        else if cidr = "TN_DEPOT" && inp.hasDepot then
          R.address inp.depotHost a
        else R.address cidr a

end Input

/- A destination: every subnet, a zone, or another network. -/
def targetCovers
    (R : Reading Addr)
    (inp : Input)
    (N : Naming Addr)
    (dst : String)
    (a : Addr) : Bool :=
  if isStar dst then inp.rangeCovers R a
  else if N.zones dst = [] then N.elsewhere dst a
  else (N.zones dst).any (fun z => R.subnet z.ip z.prefixLen a)

/- No ports are all traffic, and ports are TCP and UDP. -/
def portsCover
    (R : Reading Addr)
    (t : TemplateRule)
    (p : Packet Addr) : Bool :=
  t.portTexts = [] ||
    (p.protocol ≠ .other && t.portTexts.any (R.port · p.port))

/- What a template rule asks for a packet from a zone. -/
def asks
    (R : Reading Addr)
    (inp : Input)
    (N : Naming Addr)
    (z : Interface)
    (t : TemplateRule)
    (p : Packet Addr) : Option Kind :=
  match filterKind? t.actionOr with
  | none => none
  | some kind =>
      if (isStar t.srcOr || z ∈ N.zones t.srcOr) &&
          R.subnet z.ip z.prefixLen p.source &&
          targetCovers R inp N t.dstOr p.target &&
          portsCover R t p then
        some kind
      else none

namespace Input

/-
  The template's rules in their order, and nothing else; a
  template without rules lets every zone reach every zone.
-/
def wanted
    (R : Reading Addr)
    (inp : Input)
    (N : Naming Addr)
    (z : Interface)
    (p : Packet Addr) : Kind :=
  if inp.rules = [] then
    if R.subnet z.ip z.prefixLen p.source &&
        inp.rangeCovers R p.target then
      .pass
    else .block
  else FirstWins.verdict (asks R inp N z) .block inp.rules p

/- Depot traffic: TCP to the depot's ports. -/
def isDepot
    (R : Reading Addr)
    (inp : Input)
    (p : Packet Addr) : Bool :=
  inp.hasDepot && p.protocol = .tcp &&
    R.address inp.depotHost p.target &&
    inp.depotPorts.any (fun port => R.port (toString port) p.port)

/- What each zone may do before the template's rules apply. -/
def isService
    (R : Reading Addr)
    (inp : Input)
    (z : Interface)
    (p : Packet Addr) : Bool :=
  R.subnet z.ip z.prefixLen p.source &&
    ((p.protocol ≠ .other &&
        inp.ifaces.any (fun i => R.address i.ip p.target) &&
        R.port "53" p.port) ||
      inp.isDepot R p)

/- The rules that turn `k` of the loop writes. -/
def writtenIn
    (inp : Input)
    (k : Nat) : List FilterRule :=
  (inp.rulesAfter (k + 1)).filter.drop
    (inp.rulesAfter k).filter.length

end Input

/-
  The configuration means what the template says: a rule that
  refers to a port alias has exactly its own ports there, each
  zone's traffic is treated as the template's rules ask, after
  DNS and the depot, and nothing but the depot is reached over
  the uplink.
-/
structure MeansTemplate
    (R : Reading Addr)
    (inp : Input)
    (cfg : PfsenseConfig) : Prop where
  ports : ∀ (k : Nat) (t : TemplateRule),
    inp.rules[k]? = some t → ∀ r ∈ inp.writtenIn k,
      ∀ a ∈ cfg.aliases, a.type = "port" →
        a.name = r.body.port →
          a.address = " ".intercalate (t.portTexts.map colons)
  traffic : ∀ z ∈ inp.zones, ∀ p : Packet Addr,
    cfg.inbound R z.key p =
      if inp.isService R z p then .pass
      else inp.wanted R (inp.named R) z p
  uplink : inp.hasUplink = true → ∀ p : Packet Addr,
    cfg.outbound R "wan" p = .pass → inp.isDepot R p = true

end Firewalls

end TrueNorth
