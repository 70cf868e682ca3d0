import Mathlib.Algebra.Group.Int.Defs
import TrueNorth.RangeInventory.Record

/-
  What vCenter holds for a range, read by managed-object id
  (worker/provisioners/vsphere_inventory.py `live`,
  vsphere_api.py `_live_many_sync`).

  vCenter itself is not in the source: it is what it answers
  to the calls the reader makes, whatever that is.

  Key definitions include:
    * `Collector`
    * `VCenter`
    * `readProps`
    * `vmReading`
    * `live`
    * `rangeReading`
-/

--------
-- What vCenter Answers
--------

namespace TrueNorth

namespace RangeInventory

/-
  `RetrievePropertiesEx` over objects of one type, all its
  pages: the properties by id, or the `ManagedObjectNotFound`
  fault with the object it names.
-/
structure Collector (P : Type) where
  retrieve : List Moid → Except (Option Moid) (Dict Moid P)

/- Some answer of vCenter gave these properties to the id. -/
def Collector.Reports
    {P : Type}
    (c : Collector P)
    (id : Moid)
    (p : P) : Prop :=
  ∃ ids props,
    c.retrieve ids = .ok props ∧ props.get? id = some p

/- A virtual device: a network card, or another. -/
inductive Device
| ethernet
    (unitNumber : Option Int)
    (key : Int)
    (portgroupKey deviceName macAddress : Option String)
| other
deriving DecidableEq

inductive SnapshotNode
| node
    (snapshot : Option Moid)
    (name : String)
    (children : List SnapshotNode)

/- The properties of a VM; an unset one is absent. -/
structure VmProps where
  name : Option String
  instanceUuid : Option String
  numCpu : Option Int
  memoryMb : Option Int
  devices : List Device
  snapshots : List SnapshotNode

/- A port's VLAN setting. -/
inductive VlanSpec
| unset
| pvlan (id : Int)
| id (id : Int)
| trunk (ranges : List (Option Int × Option Int))
deriving DecidableEq

structure DvsProps where
  name : Option String
  vlan : VlanSpec
deriving DecidableEq

structure NetProps where
  name : Option String
  hosts : List Moid
deriving DecidableEq

/- A port group as one host reports it. -/
structure HostPg where
  name : Option String
  vlanId : Option Int
deriving DecidableEq

/- `config.network.portgroup`, unless it cannot be read. -/
structure HostProps where
  portgroups : Option (List HostPg)
deriving DecidableEq

/- A reference to an object; it has an id. -/
structure Ref where
  moid : Moid
  named : moid ≠ ""

structure VCenter where
  vms : Collector VmProps
  dvs : Collector DvsProps
  networks : Collector NetProps
  hosts : Collector HostProps
  findByUuid : String → Except String (Option Ref)

--------
-- Reading Properties
--------

variable {P : Type}

/-
  The loop of `read_props`: every fault drops an id, so as
  many turns as there are ids are enough.
-/
def readLoop
    (c : Collector P) :
    Nat → List Moid → List Moid →
      Except String (Dict Moid P × List Moid)
| 0, _, missing => .ok (Dict.empty, missing)
| turns + 1, remaining, missing =>
    if remaining = [] then .ok (Dict.empty, missing)
    else
      match c.retrieve remaining with
      | .error none => .error "ManagedObjectNotFound"
      | .error (some gone) =>
          if gone ∉ remaining then
            .error "ManagedObjectNotFound"
          else
            readLoop c turns (remaining.erase gone)
              (missing ++ [gone])
      | .ok props =>
          .ok (props, missing ++
            remaining.filter (fun id => id ∉ props.keys))

/- `read_props` -/
def readProps
    (c : Collector P)
    (ids : List Moid) :
    Except String (Dict Moid P × List Moid) :=
  readLoop c (Dict.fromkeys ids).length (Dict.fromkeys ids) []

--------
-- One VM
--------

variable (lower : String → String)

/- `nic_cards`: what the guest's NIC order goes by. -/
def Device.order : Device → Option (Int ×ₗ Int)
| .ethernet unitNumber key _ _ _ =>
    some (toLex (unitNumber.getD (2 ^ 30), key))
| .other => none

def Device.nic : Device → Option Nic
| .ethernet _ _ portgroupKey deviceName macAddress =>
    some
      { portgroupKey := portgroupKey
        network := deviceName
        mac := some (lower (macAddress.getD "")) }
| .other => none

/- `nics_of` -/
def nicsOf (devices : List Device) : List Nic :=
  ((devices.filterMap (fun d =>
      d.order.bind (fun order =>
        (d.nic lower).map (fun nic => (order, nic))))
    ).insertionSort (fun a b => a.1 ≤ b.1)).map Prod.snd

mutual

/- A node, then what is below it, the last child first. -/
def SnapshotNode.all : SnapshotNode → List Snapshot
| .node snapshot name children =>
    { moid := snapshot, name := some name } ::
      allOf children

def allOf : List SnapshotNode → List Snapshot
| [] => []
| node :: nodes => allOf nodes ++ node.all

end

/- `snapshots_of` -/
def snapshotsOf (roots : List SnapshotNode) : List Snapshot :=
  (allOf roots).insertionSort
    (fun s s' => text s.moid ≤ text s'.moid)

/- `_vm_reading` -/
def vmReading (p : VmProps) : VmReading where
  exists' := true
  movedTo := none
  name := p.name
  instanceUuid := p.instanceUuid
  numCpu := p.numCpu
  memoryMb := p.memoryMb
  nics := nicsOf lower p.devices
  snapshots := snapshotsOf p.snapshots

/- `{"exists": False}` -/
def goneVm : VmReading where
  exists' := false
  movedTo := none
  name := none
  instanceUuid := none
  numCpu := none
  memoryMb := none
  nics := []
  snapshots := []

--------
-- One Port Group
--------

def isVlan (id : Int) : Bool :=
  1 ≤ id ∧ id ≤ 4094

/- `range(start, stop)` -/
def interval
    (start stop : Int) : List Int :=
  (List.range (stop - start).toNat).map
    (fun i => start + Int.ofNat i)

/- `expand`: the VLANs of a port setting, and whether it is
   a trunk. -/
def expand : VlanSpec → List Int × Bool
| .unset => ([], false)
| .pvlan id => (if isVlan id then [id] else [], false)
| .id id => (if isVlan id then [id] else [], false)
| .trunk ranges =>
    (Dict.fromkeys (ranges.flatMap (fun range =>
      match range with
      | (some start, some stop) =>
          interval (max start 1) (min stop 4094 + 1)
      | _ => [])), true)

/- `_vlan` -/
def vlanOf (spec : VlanSpec) : Option Int :=
  match expand spec with
  | ([vlan], false) => some vlan
  | _ => none

def dvsReading (p : DvsProps) : PgReading where
  exists' := true
  name := p.name
  vlan := (vlanOf p.vlan).map Vlan.one
  vlanUnreadable := false

/- `{"exists": False}` -/
def gonePg : PgReading where
  exists' := false
  name := none
  vlan := none
  vlanUnreadable := false

/- The reading of one port group. -/
def readPg
    {P : Type}
    (reading : P → PgReading)
    (props : Dict Moid P)
    (missing : List Moid)
    (moid : Moid) : Except String (Moid × PgReading) :=
  if moid ∈ missing then .ok (moid, gonePg)
  else
    match props.get? moid with
    | some p => .ok (moid, reading p)
    | none => .error moid

/- The VLAN of the port group as a host reports it. -/
def hostVlan
    (hosts : Dict Moid HostProps)
    (name : Option String)
    (host : Moid) : Option Int :=
  let pgs :=
    ((hosts.get? host).bind HostProps.portgroups).getD []
  (pgs.find? (fun pg => pg.name = name)).map
    (fun pg => pg.vlanId.getD 0)

/- One turn of the loop of `_vss_live`. -/
def vssReading
    (hosts : Dict Moid HostProps)
    (p : NetProps) : PgReading :=
  let vlans := Dict.fromkeys
    (p.hosts.filterMap (hostVlan hosts p.name))
  let unreadable :=
    p.hosts.any (fun host => (hostVlan hosts p.name host).isNone)
  if unreadable ∨ vlans = [] then
    { exists' := true
      name := p.name
      vlan := none
      vlanUnreadable := true }
  else
    { exists' := true
      name := p.name
      vlan :=
        match vlans with
        | [vlan] => some (.one vlan)
        | _ => some (.several (vlans.insertionSort (· ≤ ·)))
      vlanUnreadable := false }

/- The hosts that networks are on. -/
def hostIds (networks : Dict Moid NetProps) : List Moid :=
  (Dict.fromkeys (networks.entries.flatMap
    (fun entry => entry.2.hosts))).insertionSort (· ≤ ·)

def readHosts
    (vc : VCenter)
    (networks : Dict Moid NetProps) :
    Except String (Dict Moid HostProps) :=
  if hostIds networks = [] then .ok Dict.empty
  else
    (readProps vc.hosts (hostIds networks)).map Prod.fst

/- `_vss_live` -/
def vssLive
    (vc : VCenter)
    (ids : List Moid) : Except String (Dict Moid PgReading) := do
  let read ← readProps vc.networks ids
  let hosts ← readHosts vc read.1
  let readings ← ids.mapM
    (readPg (vssReading hosts) read.1 read.2)
  return Dict.ofPairs readings

--------
-- The Drift Reading
--------

variable (lower : String → String)

/- One turn of the search for VMs that moved. -/
def search
    (vc : VCenter)
    (missing : List Moid)
    (s : Dict Moid Moid × List String)
    (v : RecordVm) : Dict Moid Moid × List String :=
  match truthy v.instanceUuid with
  | none => s
  | some uuid =>
      if v.moid ∉ missing then s
      else
        match vc.findByUuid uuid with
        | .error exc =>
            (s.1, s.2 ++ ["VM " ++ v.label ++
              ": search by instance UUID failed: " ++ exc])
        | .ok none => s
        | .ok (some found) => (s.1.set v.moid found.moid, s.2)

/- The reading of one VM. -/
def readVm
    (props more : Dict Moid VmProps)
    (missing : List Moid)
    (moved : Dict Moid Moid)
    (moid : Moid) : Except String (Moid × VmReading) :=
  match (moved.get? moid).bind (fun there =>
      (more.get? there).map (fun p => (there, p))) with
  | some (there, p) =>
      .ok (moid, { vmReading lower p with movedTo := some there })
  | none =>
      if moid ∈ missing then .ok (moid, goneVm)
      else
        match props.get? moid with
        | some p => .ok (moid, vmReading lower p)
        | none => .error moid

/- The VMs found under another id. -/
def readMoved
    (vc : VCenter)
    (moved : Dict Moid Moid) :
    Except String (Dict Moid VmProps) :=
  if moved.keys = [] then .ok Dict.empty
  else
    (readProps vc.vms ((Dict.fromkeys
      (moved.entries.map Prod.snd)).insertionSort
        (· ≤ ·))).map Prod.fst

/- The VMs of `live`, with the errors of the search. -/
def liveVms
    (vc : VCenter)
    (vms : List RecordVm) :
    Except String (Dict Moid VmReading × List String) := do
  let read ← readProps vc.vms (vms.map RecordVm.moid)
  let searched :=
    vms.foldl (search vc read.2) (Dict.empty, [])
  let more ← readMoved vc searched.1
  let readings ← (vms.map RecordVm.moid).mapM
    (readVm lower read.1 more read.2 searched.1)
  return (Dict.ofPairs readings, searched.2)

/- The port groups of `live` on a distributed switch. -/
def liveDvs
    (vc : VCenter)
    (ids : List Moid) : Except String (Dict Moid PgReading) := do
  let read ← readProps vc.dvs ids
  let readings ← ids.mapM (readPg dvsReading read.1 read.2)
  return Dict.ofPairs readings

/- The port groups with an id, by the switch they are on. -/
def pgIds
    (vss : Bool)
    (portgroups : List RecordPg) : List Moid :=
  (portgroups.filter (fun pg =>
    decide (pg.switchMode = some "vss") = vss)).filterMap
      (fun pg => truthy pg.moid)

/-
  `live`, of one range or of several at once.  The source
  makes each of the calls only where there is something to
  read, and `readProps` of nothing asks vCenter nothing.
-/
def live
    (vc : VCenter)
    (vms : List RecordVm)
    (portgroups : List RecordPg) : Except String Live := do
  let read ← liveVms lower vc vms
  let dvs ← liveDvs vc (pgIds false portgroups)
  let vss ← vssLive vc (pgIds true portgroups)
  return {
    vms := read.1
    portgroups := dvs.update vss
    unidentified := []
    errors := read.2 }

/- The reading of one range among those read together. -/
def rangeReading
    (reading : Live)
    (inv : Record)
    (unidentified : List Marked) : Live where
  vms := Dict.collect (inv.vms.map RecordVm.moid)
    reading.vms.get?
  portgroups := Dict.collect
    (inv.portgroups.filterMap RecordPg.moid)
    reading.portgroups.get?
  unidentified := unidentified
  errors := reading.errors

end RangeInventory

end TrueNorth
