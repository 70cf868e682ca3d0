import TrueNorth.Lib.JsonText
import TrueNorth.Lib.Texts

/-
  Range templates as the renderer reads them
  (worker/render.py): segments, nodes, and the background
  noise block.

  Key definitions include:
    * `IdValue`
    * `Segment`, `Node`, `Template`
    * `Template.vlans` (`_extract_vlans`)
    * `Template.nodes` (`_extract_nodes`)
    * `Node.isRouter` (`_is_router`)
    * `Node.isNoiseAgent` (`_is_noise_agent`)
-/

--------
-- Numbers In Texts
--------

namespace TrueNorth

namespace Rendering

open Texts

/- The value of a decimal digit of any script. -/
def decimalValue? (c : Char) : Option Nat :=
  (zeros.find? (fun first =>
    first ≤ c.toNat && c.toNat < first + 10)).map
      (c.toNat - ·)

/- Digits that no number is written with, like superscripts. -/
def otherDigits : List (Nat × Nat) :=
  [(0xb2, 0xb3), (0xb9, 0xb9), (0x1369, 0x1371),
    (0x19da, 0x19da), (0x2070, 0x2070), (0x2074, 0x2079),
    (0x2080, 0x2089), (0x2460, 0x2468), (0x2474, 0x247c),
    (0x2488, 0x2490), (0x24ea, 0x24ea), (0x24f5, 0x24fd),
    (0x24ff, 0x24ff), (0x2776, 0x277e), (0x2780, 0x2788),
    (0x278a, 0x2792), (0x10a40, 0x10a43), (0x10e60, 0x10e68),
    (0x11052, 0x1105a), (0x1f100, 0x1f10a)]

/- `text.isdigit()` -/
def isdigit (text : List Char) : Bool :=
  text ≠ [] && text.all (fun c =>
    (decimalValue? c).isSome ||
      otherDigits.any (fun block =>
        block.1 ≤ c.toNat && c.toNat ≤ block.2))

/- `int(text)` of a text of digits that blanks may surround. -/
def int? (text : List Char) : Option Int := do
  let digits ← (trimmed isBlank text).mapM decimalValue?
  if digits = [] || JsonText.maxDigits < digits.length then none
  else some (digits.foldl (fun n d => 10 * n + d) 0 : Nat)

/- What a template writes as the id of a segment. -/
inductive IdValue where
  | missing
  | int (n : Int)
  | text (t : String)
  /- a truth value, a fraction, a list: never a text of digits -/
  | other
deriving DecidableEq

namespace IdValue

/- `str(value)` is refused for an integer that is too long. -/
def hasText : IdValue → Bool
| .int n => JsonText.shortInt n
| _ => true

/- `str(seg.get("id", "")).strip().isdigit()` -/
def isExplicit : IdValue → Bool
| .int n => 0 ≤ n
| .text t => isdigit (strip t).toList
| _ => false

/- `int(seg["id"])` -/
def toInt? : IdValue → Option Int
| .int n => some n
| .text t => int? t.toList
| _ => none

end IdValue

end Rendering

end TrueNorth

--------
-- Templates
--------

namespace TrueNorth

namespace Rendering

/- An empty text stands for an entry that is not there. -/
structure Segment where
  name : Option String
  id : IdValue
  cidr : String
  description : String
  portGroup : String
deriving DecidableEq

structure Interface where
  vlan : String
  ip : String
  monitor : Bool
deriving DecidableEq

structure Node where
  id : Option String
  role : Option String
  os : String
  osTemplate : String
  type : String
  count : Option Int
  vlan : Option String
  ip : String
  interfaces : List Interface
  services : List String
  /- `noise.agent`, where the node says so -/
  noiseAgent : Option Bool

structure Asset where
  role : Option String
  os : Option String
  type : Option String
  count : Option Int
  services : List String

structure Noise where
  enabled : Bool
  excludeVlans : Option (List String)
  mgmtVlanId : Option Int
  mgmtCidr : Option String
  domain : String

structure Template where
  networkVlans : List Segment
  inputs : List (String × String)
  nodeList : List Node
  assets : List Asset
  noise : Option Noise

/- `_extract_vlans` -/
def Template.vlans (t : Template) : List Segment :=
  if t.networkVlans ≠ [] then t.networkVlans
  else
    let segments := t.inputs.filterMap (fun (key, val) =>
      if "cidr_".toList.isPrefixOf key.toList then
        let name := String.ofList (key.toList.drop 5)
        some ⟨some name, .missing, val, name, ""⟩
      else none)
    if segments ≠ [] then segments
    else [⟨some "default", .missing, "10.0.0.0/24", "Default", ""⟩]

def defaultOs : String := "ubuntu-2404"

/- `_extract_nodes`: an asset is a node on no segment of its own. -/
def Template.nodes (t : Template) : List Node :=
  if t.nodeList ≠ [] then t.nodeList
  else t.assets.map (fun a =>
    { id := some (a.role.getD "vm")
      role := some (a.role.getD "generic")
      os := a.os.getD defaultOs
      osTemplate := ""
      type := a.type.getD "vm"
      count := some (a.count.getD 1)
      vlan := none
      ip := ""
      interfaces := []
      services := a.services
      noiseAgent := none })

--------
-- Nodes
--------

def deprecatedOsAliases : List (String × String) :=
  [("ubuntu-2204", "ubuntu-2404"), ("ubuntu2204", "ubuntu-2404"),
    ("ubuntu-22.04", "ubuntu-24.04")]

def canonicalOs (osAlias : String) : String :=
  let a := Texts.strip osAlias
  ((deprecatedOsAliases.find? (·.1 = a)).map Prod.snd).getD a

/- ASCII letters are all that what is looked for has. -/
def lower (text : String) : List Char :=
  text.toList.map Char.toLower

def designerNonVmTypes : List String :=
  ["switch", "cloud", "subnet", "dmz"]

def routerRoles : List String :=
  ["firewall", "router", "gateway"]

def routerOsPrefixes : List String :=
  ["pfsense", "opnsense", "vyos"]

def noiseAgentRoles : List String :=
  ["workstation", "usersim", "traffic_generator"]

def noiseExcluded : List String :=
  ["red", "blue", "soc", "mgmt", "management"]

/- `re.I` takes the long s for an s. -/
def foldCase (c : Char) : Char :=
  if c = 'ſ' then 's' else c.toLower

def occursIn (word : List Char) : List Char → Bool
| [] => word.isEmpty
| c :: text =>
    word.isPrefixOf (c :: text) || occursIn word text

namespace Node

/- `_node_os` -/
def givenOs (node : Node) : String :=
  if node.os ≠ "" then node.os
  else if node.osTemplate ≠ "" then node.osTemplate
  else if node.type ≠ "" then node.type
  else defaultOs

/- A zone, a switch or a cloud is drawing, not a VM. -/
def isDrawing (node : Node) : Bool :=
  node.os = "" && node.osTemplate = "" &&
    node.type ∈ designerNonVmTypes

/- `_is_router` -/
def isRouter (node : Node) : Bool :=
  routerRoles.any (fun role =>
    lower (node.role.getD "") = role.toList) ||
  routerOsPrefixes.any (fun os =>
    os.toList.isPrefixOf (lower (canonicalOs node.givenOs)))

/- `int(node.get("count", 1) or 1)` -/
def countOf (node : Node) : Int :=
  match node.count with
  | none => 1
  | some n => if n = 0 then 1 else n

def vlanName (node : Node) : String :=
  node.vlan.getD "default"

/- The name of one of the node's machines within its range. -/
def host
    (node : Node)
    (r : Nat) : String :=
  if 1 < node.countOf then
    node.id.getD "vm" ++ "-" ++ toString r
  else node.id.getD "vm"

/- `_is_noise_agent` -/
def isNoiseAgent
    (node : Node)
    (block : Noise) : Bool :=
  match node.noiseAgent with
  | some agent => agent
  | none =>
      let vlan := node.vlan.getD ""
      let excluded :=
        match block.excludeVlans with
        | some vlans => decide (vlan ∈ vlans)
        | none => noiseExcluded.any (fun word =>
            occursIn word.toList (vlan.toList.map foldCase))
      decide (node.role.getD "" ∈ noiseAgentRoles) && !excluded

end Node

end Rendering

end TrueNorth
