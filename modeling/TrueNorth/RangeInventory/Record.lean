import Mathlib.Data.List.Sort
import Mathlib.Data.Prod.Lex
import Mathlib.Data.String.Basic
import TrueNorth.Lib.Dict

/-
  The inventory a provisioner's output records and the
  drift of a live range from it (worker/range_inventory.py
  `recorded`, `compare`).

  Parts of the output and of a reading that have another
  type than the code writes count as missing in the source,
  and are left out here.

  Key definitions include:
    * `Output`
    * `recorded`
    * `Live`
    * `knownSnapshots`
    * `compare`
    * `driftStatus`
-/

--------
-- The Record
--------

namespace TrueNorth

namespace RangeInventory

abbrev Moid := String

/- `value or None`: an empty text counts as missing. -/
def truthy (value : Option String) : Option String :=
  value.filter (· ≠ "")

structure Nic where
  portgroupKey : Option String
  network : Option String
  mac : Option String
deriving DecidableEq

/- `portgroup_key or network` -/
def Nic.net (n : Nic) : Option String :=
  match truthy n.portgroupKey with
  | some key => some key
  | none => n.network

structure Disk where
  path : Option String
  datastore : Option String
deriving DecidableEq

/- `vms[].identity`, as a backend recorded it at clone. -/
structure Identity where
  instanceUuid : Option String
  disks : List Disk
  datastores : List String
  folder : Option String
  numCpu : Option Int
  memoryMb : Option Int
  nics : List Nic
deriving DecidableEq

/- An entry of `vms`. -/
structure VmEntry where
  vmId : Option String
  name : Option String
  identity : Option Identity
deriving DecidableEq

/- An entry of `networks`. -/
structure NetEntry where
  portgroup : Option String
  moid : Option String
  key : Option String
  physicalVlan : Option Int
  switchMode : Option String
deriving DecidableEq

structure Folder where
  moid : Option String
  name : Option String
deriving DecidableEq

/- A range's `provisioner_output`. -/
structure Output where
  vms : List VmEntry
  networks : List NetEntry
  folder : Option Folder
deriving DecidableEq

structure RecordVm where
  moid : Moid
  name : String
  instanceUuid : Option String
  disks : List Disk
  datastores : List String
  folder : Option String
  numCpu : Option Int
  memoryMb : Option Int
  nics : List Nic
  identified : Bool
deriving DecidableEq

structure RecordPg where
  name : String
  moid : Option Moid
  key : Option String
  vlan : Option Int
  switchMode : Option String
deriving DecidableEq

structure Record where
  vms : List RecordVm
  portgroups : List RecordPg
  folder : Option Folder
  complete : Bool
  gaps : List String
deriving DecidableEq

def Identity.none : Identity where
  instanceUuid := Option.none
  disks := []
  datastores := []
  folder := Option.none
  numCpu := Option.none
  memoryMb := Option.none
  nics := []

/- One turn of the loop over `vms`: an entry without an id
   is skipped. -/
def VmEntry.recorded (vm : VmEntry) : Option RecordVm :=
  (truthy vm.vmId).map (fun id =>
    let ident := vm.identity.getD Identity.none
    { moid := id
      name := vm.name.getD ""
      instanceUuid := truthy ident.instanceUuid
      disks := ident.disks.filter
        (fun d => (truthy d.path).isSome)
      datastores := ident.datastores
      folder := truthy ident.folder
      numCpu := ident.numCpu
      memoryMb := ident.memoryMb
      nics := ident.nics
      identified := (truthy ident.instanceUuid).isSome })

/- `name or moid` -/
def RecordVm.label (vm : RecordVm) : String :=
  if vm.name = "" then vm.moid else vm.name

def RecordVm.gaps (vm : RecordVm) : List String :=
  if vm.instanceUuid.isNone then
    ["VM " ++ vm.label ++
      ": no instance UUID recorded at clone"]
  else []

/- One turn of the loop over `networks`. -/
def NetEntry.recorded (net : NetEntry) : Option RecordPg :=
  (truthy net.portgroup).map (fun portgroup =>
    { name := portgroup
      moid := truthy net.moid
      key := net.key
      vlan := net.physicalVlan
      switchMode := net.switchMode })

def RecordPg.gaps (pg : RecordPg) : List String :=
  if pg.moid.isNone then
    ["port group " ++ pg.name ++
      ": no managed-object id recorded"]
  else []

/- `recorded` -/
def recorded (output : Output) : Record :=
  let vms := output.vms.filterMap VmEntry.recorded
  let portgroups := output.networks.filterMap NetEntry.recorded
  let gaps :=
    vms.flatMap RecordVm.gaps ++
      portgroups.flatMap RecordPg.gaps ++
      if vms ≠ [] ∧ output.folder.isNone then
        ["range folder: no managed-object id recorded"]
      else []
  { vms := vms
    portgroups := portgroups
    folder := output.folder
    complete := gaps.isEmpty
    gaps := gaps }

--------
-- The Reading
--------

structure Snapshot where
  moid : Option Moid
  name : Option String
deriving DecidableEq

/- `str(value)`, which is `None` where there is none. -/
def text (value : Option String) : String :=
  value.getD "None"

/- What is at a VM's recorded moid. -/
structure VmReading where
  exists' : Bool
  movedTo : Option Moid
  name : Option String
  instanceUuid : Option String
  numCpu : Option Int
  memoryMb : Option Int
  nics : List Nic
  snapshots : List Snapshot
deriving DecidableEq

/- One VLAN, or those of hosts that disagree. -/
inductive Vlan
| one (id : Int)
| several (ids : List Int)
deriving DecidableEq

structure PgReading where
  exists' : Bool
  name : Option String
  vlan : Option Vlan
  vlanUnreadable : Bool
deriving DecidableEq

/- Something that carries the range's mark. -/
structure Marked where
  kind : String
  moid : Option Moid
  name : Option String
  marks : List String
deriving DecidableEq

structure Live where
  vms : Dict Moid VmReading
  portgroups : Dict Moid PgReading
  unidentified : List Marked
  errors : List String
deriving DecidableEq

/- A snapshot row of the range. -/
structure SnapshotRow where
  state : String
  snapshotName : Option String
  snapshotIds : List (Moid × Option Moid)
  backendName : Option String
deriving DecidableEq

/- The sets and the dictionary of sets, as their members. -/
structure Known where
  ids : List Moid
  names : List String
  expected : List (Moid × Moid)
deriving DecidableEq

/- `known_snapshots` -/
def knownSnapshots (rows : List SnapshotRow) : Known :=
  let counted := rows.filter (fun row =>
    row.state ≠ "deleted" ∧ row.state ≠ "failed")
  let pairs (row : SnapshotRow) :=
    row.snapshotIds.filterMap (fun pair =>
      (truthy pair.2).map (fun id => (pair.1, id)))
  { ids := counted.flatMap (fun row =>
      (pairs row).map Prod.snd)
    names := counted.flatMap (fun row =>
      (truthy row.snapshotName).toList ++
        (truthy row.backendName).toList)
    expected := counted.flatMap (fun row =>
      if row.state = "ready" ∨ row.state = "restoring" then
        pairs row
      else []) }

--------
-- Findings
--------

/- What a finding names as expected or as found. -/
inductive Value
| str (value : String)
| num (value : Int)
| vlans (ids : List Int)
deriving DecidableEq

/- `str` of a value that may be missing. -/
def Value.text : Option Value → String
| none => "None"
| some (.str value) => value
| some (.num value) => toString value
| some (.vlans ids) =>
    "[" ++ String.intercalate ", " (ids.map toString) ++ "]"

def Vlan.value : Vlan → Value
| .one id => .num id
| .several ids => .vlans ids

/- `_finding`, with the `extra` that some findings carry. -/
structure Finding where
  kind : String
  object : String
  expected : Option Value
  actual : Option Value
  moid : Option Moid := none
  name : Option String := none
  marks : Option (List String) := none
deriving DecidableEq

def failKinds : List String :=
  ["vm_replaced", "nic_portgroup_changed", "nic_mac_changed",
    "nic_added", "nic_removed", "portgroup_missing",
    "portgroup_vlan_changed"]

/- What findings are sorted by. -/
def Finding.key (f : Finding) :
    String ×ₗ String ×ₗ String ×ₗ String :=
  toLex (f.kind, toLex (f.object,
    toLex (Value.text f.expected, Value.text f.actual)))

def pass : String := "pass"

def fail : String := "fail"

def incomplete : String := "incomplete"

/- `drift_status` -/
def driftStatus
    (findings : List Finding)
    (gaps : List String) : String × String :=
  let kinds :=
    (Dict.fromkeys (findings.map Finding.kind)).insertionSort
      (· ≤ ·)
  let changes := toString findings.length ++
    " change(s) from the record"
  if kinds.any (· ∈ failKinds) then
    (fail, changes ++ ", incl. " ++
      String.intercalate ", " (kinds.filter (· ∈ failKinds)))
  else if findings ≠ [] then
    (incomplete, changes ++ ": " ++
      String.intercalate ", " kinds)
  else
    match gaps with
    | gap :: _ =>
        (incomplete,
          ("no drift in what could be compared; " ++
            toString gaps.length ++
            " item(s) could not be: " ++ gap).take 500 |>.toString)
    | [] =>
        (pass, "the range matches its record " ++
          "(VM ids, CPU/RAM, NICs, port group VLANs, snapshots)")

--------
-- The Comparison
--------

variable (lower : String → String)

/- `_mac` -/
def mac (value : Option String) : String :=
  lower (value.getD "")

/- `vm_owned`: none where no instance UUID was recorded. -/
def vmOwned
    (vm : RecordVm)
    (liveUuid : Option String) : Option Bool :=
  (truthy vm.instanceUuid).map (fun uuid =>
    match truthy liveUuid with
    | none => false
    | some live => lower live = lower uuid)

/- One number, recorded and read. -/
def numFindings
    (kind label : String)
    (want have' : Option Int) : List Finding :=
  match want with
  | none => []
  | some n =>
      if have' ≠ some n then
        [{ kind := kind
           object := label
           expected := some (.num n)
           actual := have'.map Value.num }]
      else []

/- Two NICs of one position. -/
def nicPairFindings
    (nic : String)
    (w h : Nic) : List Finding :=
  (if w.net ≠ h.net then
    [{ kind := "nic_portgroup_changed"
       object := nic
       expected := w.net.map Value.str
       actual := h.net.map Value.str }]
  else []) ++
  (if mac lower w.mac ≠ mac lower h.mac then
    [{ kind := "nic_mac_changed"
       object := nic
       expected := some (.str (mac lower w.mac))
       actual := some (.str (mac lower h.mac)) }]
  else [])

/- One turn of the loop over the NICs of a VM. -/
def nicFindings
    (label : String)
    (want have' : List Nic)
    (i : Nat) : List Finding :=
  let nic := label ++ " NIC " ++ toString i
  match want[i]?, have'[i]? with
  | some w, some h => nicPairFindings lower nic w h
  | some w, none =>
      [{ kind := "nic_removed"
         object := nic
         expected := w.mac.map Value.str
         actual := none }]
  | none, some h =>
      [{ kind := "nic_added"
         object := nic
         expected := none
         actual := h.mac.map Value.str }]
  | none, none => []

/- A snapshot that is a backup tool's, or TrueNorth's. -/
def snapshotKnown
    (known : Known)
    (ignored : List String)
    (s : Snapshot) : Bool :=
  ignored.any (fun start => start.isPrefixOf (s.name.getD "")) ||
    text s.moid ∈ known.ids || text s.name ∈ known.names

def snapshotFindings
    (known : Known)
    (ignored : List String)
    (vm : RecordVm)
    (snaps : List Snapshot) : List Finding :=
  (snaps.filter (fun s => ! snapshotKnown known ignored s)).map
    (fun s =>
      { kind := "snapshot_unexpected"
        object := vm.label
        expected := none
        actual := s.moid.map Value.str
        name := s.name }) ++
  (((Dict.fromkeys ((known.expected.filter
      (fun pair => pair.1 = vm.moid)).map Prod.snd)).filter
        (fun id => id ∉ snaps.map (fun s => text s.moid))
      ).insertionSort (· ≤ ·)).map
    (fun id =>
      { kind := "snapshot_missing"
        object := vm.label
        expected := some (.str id)
        actual := none })

/- What is compared of a VM that is the one recorded. -/
def hardwareFindings
    (known : Known)
    (ignored : List String)
    (vm : RecordVm)
    (seen : VmReading) : List Finding :=
  numFindings "cpu_changed" vm.label vm.numCpu seen.numCpu ++
  numFindings "memory_changed" vm.label vm.memoryMb
    seen.memoryMb ++
  (List.range (max vm.nics.length seen.nics.length)).flatMap
    (nicFindings lower vm.label vm.nics seen.nics) ++
  snapshotFindings known ignored vm seen.snapshots

/- One turn of the loop over the VMs. -/
def vmFindings
    (known : Known)
    (ignored : List String)
    (vm : RecordVm)
    (seen : VmReading) : List Finding :=
  if ! seen.exists' then
    [{ kind := "vm_missing"
       object := vm.label
       expected := some (.str vm.moid)
       actual := none }]
  else
    (match truthy seen.movedTo with
    | some moved =>
        [{ kind := "vm_reregistered"
           object := vm.label
           expected := some (.str vm.moid)
           actual := some (.str moved) }]
    | none => []) ++
    (if vmOwned lower vm seen.instanceUuid = some false then
      [{ kind := "vm_replaced"
         object := vm.label
         expected := vm.instanceUuid.map Value.str
         actual := seen.instanceUuid.map Value.str
         moid := some vm.moid }]
    else if ! vm.identified then []
    else hardwareFindings lower known ignored vm seen)

/- One turn of the loop over the port groups: the findings
   and the gaps. -/
def pgFindings
    (pg : RecordPg)
    (seen : PgReading) : List Finding × List String :=
  if ! seen.exists' then
    ([{ kind := "portgroup_missing"
        object := pg.name
        expected := pg.moid.map Value.str
        actual := none }], [])
  else if seen.vlanUnreadable then
    ([], ["port group " ++ pg.name ++
      ": its live VLAN could not be read on every host"])
  else
    match pg.vlan with
    | none => ([], [])
    | some vlan =>
        if seen.vlan ≠ some (.one vlan) then
          ([{ kind := "portgroup_vlan_changed"
              object := pg.name
              expected := some (.num vlan)
              actual := seen.vlan.map Vlan.value }], [])
        else ([], [])

def markedFindings (item : Marked) : List Finding :=
  if item.kind = "vm" ∨ item.kind = "portgroup" then
    [{ kind := "unidentified_" ++ item.kind
       object := (truthy item.name).getD (text item.moid)
       expected := none
       actual := item.moid.map Value.str
       marks := some item.marks }]
  else []

structure Result where
  status : String
  summary : String
  findings : List Finding
  checkedVms : Nat
  checkedPgs : Nat
  gaps : List String
deriving DecidableEq

/- The recorded VMs and what was read of them: one that was
   not read this run is skipped. -/
def vmsRead
    (inv : Record)
    (live : Live) : List (RecordVm × VmReading) :=
  inv.vms.filterMap (fun vm =>
    (live.vms.get? vm.moid).map (fun seen => (vm, seen)))

def pgsRead
    (inv : Record)
    (live : Live) : List (RecordPg × PgReading) :=
  inv.portgroups.filterMap (fun pg =>
    (pg.moid.bind live.portgroups.get?).map
      (fun seen => (pg, seen)))

/- `compare` -/
def compare
    (output : Output)
    (live : Live)
    (rows : List SnapshotRow)
    (ignorePrefixes : List String) : Result :=
  let inv := recorded output
  let known := knownSnapshots rows
  let ignored := ignorePrefixes.filter (· ≠ "")
  let vms := vmsRead inv live
  let pgs := pgsRead inv live
  let findings :=
    vms.flatMap (fun read =>
      vmFindings lower known ignored read.1 read.2) ++
    pgs.flatMap (fun read => (pgFindings read.1 read.2).1) ++
    live.unidentified.flatMap markedFindings
  let gaps := inv.gaps ++
    pgs.flatMap (fun read => (pgFindings read.1 read.2).2)
  let sorted := findings.insertionSort
    (fun f f' => f.key ≤ f'.key)
  let graded := driftStatus sorted gaps
  { status := graded.1
    summary := graded.2
    findings := sorted
    checkedVms := vms.length
    checkedPgs := pgs.length
    gaps := gaps }

end RangeInventory

end TrueNorth
