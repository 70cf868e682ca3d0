import TrueNorth.Lib.Dict
import TrueNorth.Lib.IpNetwork
import TrueNorth.Rendering.Template

/-
  `render_topology` (worker/render.py): the segments of a
  range with their VLAN ids and gateways, and the NICs of
  its machines.

  What decides a machine's image, size and Windows roles is
  left out: no VLAN id and no address depends on it.

  Key definitions include:
    * `vlanId`
    * `renderSegments`
    * `nextIp` (`_next_ip`)
    * `renderNics` (`_render_nics`)
    * `noiseMgmtPlan`
    * `renderTopology`
-/

--------
-- Segments
--------

namespace TrueNorth

namespace Rendering

structure NetworkDefinition where
  name : String
  vlanId : Int
  cidr : String
  gateway : String
  description : String
  portGroup : String
deriving DecidableEq

/- An entry of `net_by_name`. -/
structure NetInfo where
  net : IpNetwork
  gateway : String
  next : Nat
  portGroup : String
  gatewayTaken : Bool
deriving DecidableEq

/- The id as it is written, or the base and the offset. -/
def vlanId
    (vlanBase : Int)
    (offset : Nat)
    (id : IdValue) : Option Int :=
  if !id.hasText then none
  else if id.isExplicit then id.toInt?
  else some (vlanBase + offset)

def defaultNet : Option IpNetwork :=
  IpNetwork.network? "10.0.0.0/24"

/- The network that a segment's CIDR, or the default, names. -/
def segmentNet
    (vlanBase : Int)
    (offset : Nat)
    (seg : Segment) : Option IpNetwork :=
  let cidr :=
    if seg.cidr ≠ "" then seg.cidr
    else "10." ++ toString vlanBase ++ "." ++ toString offset ++
      ".0/24"
  (IpNetwork.network? cidr).or defaultNet

def renderSegment
    (vlanBase : Int)
    (offset : Nat)
    (seg : Segment) :
    Option (NetworkDefinition × NetInfo) := do
  let name := seg.name.getD ("seg" ++ toString offset)
  let vid ← vlanId vlanBase offset seg.id
  let net ← segmentNet vlanBase offset seg
  let gw ← net.address.successor?
  some
    ({ name := name
       vlanId := vid
       cidr := net.text
       gateway := gw.text
       description := seg.description
       portGroup := seg.portGroup },
     { net := net
       gateway := gw.text
       next := net.address.value + 10
       portGroup := seg.portGroup
       gatewayTaken := false })

/- What the loop over the segments builds. -/
structure Plan where
  networks : List NetworkDefinition
  vlanMap : Dict String Int
  netByName : Dict String NetInfo

def Plan.empty : Plan where
  networks := []
  vlanMap := Dict.empty
  netByName := Dict.empty

def Plan.add
    (plan : Plan)
    (definition : NetworkDefinition)
    (info : NetInfo) : Plan where
  networks := plan.networks ++ [definition]
  vlanMap := plan.vlanMap.set definition.name definition.vlanId
  netByName := plan.netByName.set definition.name info

def renderSegments
    (vlanBase : Int) :
    Nat → List Segment → Plan → Option Plan
| _, [], plan => some plan
| offset, seg :: segs, plan => do
    let (definition, info) ← renderSegment vlanBase offset seg
    renderSegments vlanBase (offset + 1) segs
      (plan.add definition info)

--------
-- NICs
--------

structure Nic where
  vlan : Int
  network : String
  ip : String
  prefixLen : Nat
  netmask : String
  gateway : String
  portGroup : String
  monitor : Bool
deriving DecidableEq

/- `net_by_name` as the machines so far leave it. -/
abbrev Nets :=
  Dict String NetInfo

/- `_next_ip`: the gateway for the first router, or the next. -/
def nextIp
    (info : NetInfo)
    (routes : Bool) : Option (String × NetInfo) :=
  if routes && !info.gatewayTaken then
    some (info.gateway, { info with gatewayTaken := true })
  else do
    let ip ← IpAddress.ofInt? info.next
    some (ip.text, { info with next := info.next + 1 })

/- An address on a segment, if the template defines it. -/
def nextIpOn
    (name : String)
    (routes : Bool)
    (nets : Nets) : Option (String × Nets) :=
  match nets.get? name with
  | none => some ("", nets)
  | some info => do
      let (ip, info) ← nextIp info routes
      some (ip, nets.set name info)

/- The address that is written, or else the next one. -/
def writtenOrNext
    (written name : String)
    (routes : Bool)
    (nets : Nets) : Option (String × Nets) :=
  if written ≠ "" then some (written, nets)
  else nextIpOn name routes nets

/-
  `by_name`: the node's interfaces on segments there are, or
  on its own, the first of each name.
-/
def interfacesByName
    (vlanMap : Dict String Int)
    (vlanName : String) :
    List Interface → List Interface → List Interface
| byName, [] => byName
| byName, iface :: rest =>
    if (iface.vlan = vlanName ∨ iface.vlan ∈ vlanMap.keys) ∧
        iface.vlan ∉ byName.map Interface.vlan then
      interfacesByName vlanMap vlanName (byName ++ [iface]) rest
    else interfacesByName vlanMap vlanName byName rest

/- A node's own segment is there, and first if left out. -/
def nicNames
    (vlanName : String)
    (byName : List Interface) : List String :=
  let names := byName.map Interface.vlan
  if vlanName ∈ names then names else vlanName :: names

/- What the NICs of one machine have in common. -/
structure Machine where
  vlanName : String
  vid : Int
  ip : String
  vlanMap : Dict String Int
  byName : List Interface
  routes : Bool
  single : Bool

namespace Machine

def iface? (m : Machine) (name : String) : Option Interface :=
  m.byName.find? (·.vlan = name)

/- A NIC that sniffs has no address of its own. -/
def isMonitor (m : Machine) (name : String) : Bool :=
  ((m.iface? name).map Interface.monitor).getD false

/- The address the template writes for a further NIC. -/
def writtenIp (m : Machine) (name : String) : String :=
  if m.single then ((m.iface? name).map Interface.ip).getD ""
  else ""

def nicIp
    (m : Machine)
    (name : String)
    (nets : Nets) : Option (String × Nets) :=
  if m.isMonitor name then some ("", nets)
  else if name = m.vlanName then some (m.ip, nets)
  else writtenOrNext (m.writtenIp name) name m.routes nets

def vlanOf (m : Machine) (name : String) : Option Int :=
  if name = m.vlanName then some m.vid
  else m.vlanMap.get? name

def renderNic
    (m : Machine)
    (name : String)
    (nets : Nets) : Option (Nic × Nets) := do
  let (ip, nets) ← m.nicIp name nets
  let vlan ← m.vlanOf name
  let gateway :=
    ((nets.get? name).map NetInfo.gateway).getD ""
  some
    ({ vlan := vlan
       network := name
       ip := ip
       prefixLen :=
         ((nets.get? name).map (·.net.prefixLen)).getD 24
       netmask :=
         ((nets.get? name).map (·.net.netmask)).getD
           "255.255.255.0"
       -- a router is the gateway, and routes not through itself
       gateway := if ip = gateway then "" else gateway
       portGroup :=
         ((nets.get? name).map NetInfo.portGroup).getD ""
       monitor := m.isMonitor name },
     nets)

/- `_render_nics` -/
def renderNics
    (m : Machine) :
    List String → Nets → Option (List Nic × Nets)
| [], nets => some ([], nets)
| name :: names, nets => do
    let (nic, nets) ← m.renderNic name nets
    let (nics, nets) ← m.renderNics names nets
    some (nic :: nics, nets)

end Machine

end Rendering

end TrueNorth

--------
-- Machines
--------

namespace TrueNorth

namespace Rendering

structure MgmtNic where
  vlanId : Int
  ip : String
  prefixLen : Nat
deriving DecidableEq

structure Vm where
  name : String
  nodeId : String
  role : String
  vlanId : Int
  ip : String
  gateway : String
  netmask : String
  prefixLen : Nat
  portGroup : String
  nics : List Nic
  mgmt : Option MgmtNic
  dns : List String
  dnsSearch : List String
deriving DecidableEq

/- A machine that has the gateway takes it. -/
def takeGateway
    (name ip : String)
    (nets : Nets) : Nets :=
  match nets.get? name with
  | none => nets
  | some info =>
      if ip = info.gateway then
        nets.set name { info with gatewayTaken := true }
      else nets

/- The address of a machine itself, before its NICs. -/
def ownIp
    (node : Node)
    (nets : Nets) : Option (String × Nets) := do
  let written := if node.countOf = 1 then node.ip else ""
  let (ip, nets) ←
    writtenOrNext written node.vlanName node.isRouter nets
  some (ip, takeGateway node.vlanName ip nets)

def machineOf
    (vlanBase : Int)
    (vlanMap : Dict String Int)
    (node : Node)
    (ip : String) : Machine where
  vlanName := node.vlanName
  vid := (vlanMap.get? node.vlanName).getD vlanBase
  ip := ip
  vlanMap := vlanMap
  byName :=
    interfacesByName vlanMap node.vlanName [] node.interfaces
  routes := node.isRouter
  single := node.countOf = 1

def renderVm
    (rangeId : String)
    (vlanBase : Int)
    (vlanMap : Dict String Int)
    (node : Node)
    (r : Nat)
    (nets : Nets) : Option (Vm × Nets) := do
  let host := node.host r
  let info := nets.get? node.vlanName
  let (ip, nets) ← ownIp node nets
  let m := machineOf vlanBase vlanMap node ip
  let (nics, nets) ←
    m.renderNics (nicNames node.vlanName m.byName) nets
  some
    ({ name := String.ofList (rangeId.toList.take 8) ++ "-" ++ host
       nodeId := node.id.getD host
       role := node.role.getD "generic"
       vlanId := m.vid
       ip := ip
       gateway := (info.map NetInfo.gateway).getD ""
       netmask := (info.map (·.net.netmask)).getD "255.255.255.0"
       prefixLen := (info.map (·.net.prefixLen)).getD 24
       portGroup := (info.map NetInfo.portGroup).getD ""
       nics := nics
       mgmt := none
       dns := []
       dnsSearch := [] },
     nets)

def renderReplicas
    (rangeId : String)
    (vlanBase : Int)
    (vlanMap : Dict String Int)
    (node : Node) :
    List Nat → Nets → Option (List Vm × Nets)
| [], nets => some ([], nets)
| r :: rs, nets => do
    let (vm, nets) ← renderVm rangeId vlanBase vlanMap node r nets
    let (vms, nets) ←
      renderReplicas rangeId vlanBase vlanMap node rs nets
    some (vm :: vms, nets)

def renderNodes
    (rangeId : String)
    (vlanBase : Int)
    (vlanMap : Dict String Int) :
    List Node → Nets → Option (List Vm × Nets)
| [], nets => some ([], nets)
| node :: nodes, nets =>
    if node.isDrawing then
      renderNodes rangeId vlanBase vlanMap nodes nets
    else do
      let (vms, nets) ← renderReplicas rangeId vlanBase vlanMap
        node (List.range node.countOf.toNat) nets
      let (rest, nets) ←
        renderNodes rangeId vlanBase vlanMap nodes nets
      some (vms ++ rest, nets)

--------
-- The Background Noise
--------

/- The NICs of the agents that hold a reserved address. -/
def mgmtNics
    (template : Template)
    (block : Noise)
    (addresses : Dict String String)
    (vlan : Int)
    (prefixLen : Nat) : Dict String MgmtNic :=
  Dict.ofPairs (template.nodeList.flatMap (fun node =>
    (List.range node.countOf.toNat).filterMap (fun r =>
      match addresses.get? (node.host r) with
      | some address =>
          if node.isNoiseAgent block && address ≠ "" then
            some (node.host r, ⟨vlan, address, prefixLen⟩)
          else none
      | none => none)))

/- `noise_mgmt_plan` -/
def noiseMgmtPlan
    (template : Template)
    (addresses : Dict String String) :
    Option (Option NetworkDefinition × Dict String MgmtNic) :=
  match template.noise with
  | none => some (none, Dict.empty)
  | some block =>
      if !block.enabled || addresses.entries = [] then
        some (none, Dict.empty)
      else do
        let vlan := block.mgmtVlanId.getD 4001
        let net ← IpNetwork.network?
          (block.mgmtCidr.getD "10.255.0.0/24")
        let nics := mgmtNics template block addresses vlan
          net.prefixLen
        if nics.entries = [] then some (none, Dict.empty)
        else
          some (some
            { name := "noise_mgmt"
              vlanId := vlan
              cidr := net.text
              -- it reaches the controller and nothing else
              gateway := ""
              description :=
                "Background-noise control channel " ++
                  "(white cell, out of bounds)"
              portGroup := "" }, nics)

/- The range's resolvers: domain controllers, DNS servers. -/
def resolvers (template : Template) : List String :=
  (template.nodeList.filter (fun node =>
    node.ip ≠ "" && (node.role = some "domain_controller" ||
      node.services.any (fun s => lower s = "dns".toList)))).map
        Node.ip

def withMgmt
    (template : Template)
    (rangeId : String)
    (nics : Dict String MgmtNic)
    (vm : Vm) : Vm :=
  let host := String.ofList (vm.name.toList.drop
    ((rangeId.toList.take 8).length + 1))
  match nics.get? host with
  | none => vm
  | some nic =>
      let domain := (template.noise.map Noise.domain).getD ""
      { vm with
        mgmt := some nic
        dns := resolvers template
        dnsSearch :=
          [if domain ≠ "" then domain else "corp.local"] }

--------
-- The Whole Range
--------

structure Topology where
  rangeId : String
  vmDefinitions : List Vm
  networkDefinitions : List NetworkDefinition
  vlanMap : Dict String Int

/- `none` is a template that is refused with an exception. -/
def renderTopology
    (template : Template)
    (rangeId : String)
    (vlanBase : Int)
    (noiseMgmt : Dict String String) : Option Topology := do
  let plan ← renderSegments vlanBase 0 template.vlans Plan.empty
  let (vms, _) ← renderNodes rangeId vlanBase plan.vlanMap
    template.nodes plan.netByName
  let (noiseNet, noiseNics) ← noiseMgmtPlan template noiseMgmt
  some
    { rangeId := rangeId
      vmDefinitions :=
        vms.map (withMgmt template rangeId noiseNics)
      networkDefinitions := plan.networks ++ noiseNet.toList
      vlanMap := plan.vlanMap }

end Rendering

end TrueNorth
