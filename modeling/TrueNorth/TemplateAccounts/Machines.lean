import TrueNorth.Lib.Dict
import TrueNorth.Lib.Texts
import TrueNorth.Lib.YamlTree

/-
  The machines of a template, as its `accounts:` block refers
  to them (range_credentials/accounts.py): which there are,
  what each runs, and the logins no account may have.

  Key definitions include:
    * `Language`, `Environment`
    * `builtFrom`
    * `machines`, `machineOs`
    * `machineFamilies`, `applianceAdmins`
    * `windowsPasswordProblem`
    * `reservedLogins`
-/

--------
-- The Language And The Environment
--------

namespace TrueNorth

namespace TemplateAccounts

/- What Python says of values and of Unicode characters. -/
structure Language where
  str : Yaml → String
  repr : Yaml → String
  lower : String → String
  isUpper : Char → Bool
  isLower : Char → Bool
  isDigit : Char → Bool
  isAlnum : Char → Bool

/- `TN_TEMPLATE_LINUX_USER`, `VSPHERE_SO_INSTALL_USER` -/
structure Environment where
  templateLinuxUser : String
  soInstallUser : String

/- `part in text` -/
def contains (part text : String) : Bool :=
  text.toList.tails.any (fun rest => part.toList.isPrefixOf rest)

def startsWith (start text : String) : Bool :=
  start.toList.isPrefixOf text.toList

--------
-- Machines
--------

/- A mapping of the document. -/
abbrev Entries :=
  List (Scalar × Yaml)

def defaultOs : String :=
  "ubuntu-2404"

/- The items of `for item in value`; a number has none. -/
def iterate : Yaml → Option (List Yaml)
| .seq items => some items
| .map entries => some (entries.map (fun entry => .scalar entry.1))
| .scalar (.str text) =>
    some (text.toList.map (fun c => Yaml.str (String.singleton c)))
| .scalar _ => none

/- `value or []` -/
def orNothing (value : Yaml) : Yaml :=
  if value.truthy then value else .seq []

/- `a or b or ...`, the last in any case -/
def firstTruthy
    (last : Yaml) : List Yaml → Yaml
| [] => last
| value :: values =>
    if value.truthy then value else firstTruthy last values

/- `built_from`; none where it is not to be iterated. -/
def builtFrom (doc : Entries) : Option (List Entries) :=
  let nodes := Yaml.getD doc "nodes"
  if nodes.truthy then
    (iterate nodes).map (List.filterMap Yaml.entries?)
  else
    (iterate (orNothing (Yaml.getD doc "assets"))).map
      (fun assets => (assets.filterMap Yaml.entries?).map (fun a =>
        [(.str "id", (Yaml.get? a "role").getD (.str "vm")),
          (.str "os", (Yaml.get? a "os").getD (.str defaultOs))]))

/- `node.get("id") not in (None, "")` -/
def hasId (node : Entries) : Bool :=
  let id := Yaml.getD node "id"
  !id.isNull && id.text? ≠ some ""

variable (py : Language)

def nodeId (node : Entries) : String :=
  py.str (Yaml.getD node "id")

/- `machine_os` -/
def machineOs (built : List Entries) : Dict String String :=
  .ofPairs ((built.filter hasId).map (fun node =>
    (nodeId py node,
      py.lower (py.str (firstTruthy (.str defaultOs)
        [Yaml.getD node "os", Yaml.getD node "os_template",
          Yaml.getD node "type"])))))

/- `out.setdefault(name, id)` -/
def setdefault
    (out : Dict String String)
    (pair : String × String) : Dict String String :=
  if (out.get? pair.1).isSome then out
  else out.set pair.1 pair.2

/- Every name of a machine, with its id. -/
def machines (built : List Entries) : Dict String String :=
  let named := (built.filter hasId).filter (fun node =>
    (Yaml.getD node "name").truthy)
  let out := (named.map (fun node =>
    (py.str (Yaml.getD node "name"), nodeId py node))).foldl
      setdefault .empty
  out.update (.ofPairs ((built.filter hasId).map (fun node =>
    (nodeId py node, nodeId py node))))

--------
-- Families
--------

inductive Family where
  | windows
  | appliance
  | linux
deriving DecidableEq

def appliancePrefixes : List String :=
  ["pfsense", "opnsense", "vyos"]

def applianceRoles : List String :=
  ["firewall", "router", "gateway"]

/- Each product's admin login. -/
def applianceAdminLogins : List (String × String) :=
  [("pfsense", "admin"), ("opnsense", "root"), ("vyos", "vyos")]

variable (py : Language)

def isWindows (osName : String) : Bool :=
  contains "win" (py.lower osName)

def family (osName role : String) : Family :=
  if contains "win" (py.lower osName) then .windows
  else if appliancePrefixes.any
      (fun start => startsWith start (py.lower osName)) ||
      applianceRoles.contains (py.lower role) then .appliance
  else .linux

/- `machine_families` -/
def machineFamilies (built : List Entries) : Dict String Family :=
  let roles : Dict String String := .ofPairs (built.map (fun node =>
    (nodeId py node,
      py.str (firstTruthy (.str "") [Yaml.getD node "role"]))))
  .ofPairs ((machineOs py built).entries.map (fun machine =>
    (machine.1,
      family py machine.2 ((roles.get? machine.1).getD ""))))

/- The admin login of the product that an OS names. -/
def applianceLogin (osName : String) : Option String :=
  (applianceAdminLogins.find? (fun product =>
    contains product.1 (py.lower osName))).map Prod.snd

/- `appliance_admins` -/
def applianceAdmins (built : List Entries) : Dict String String :=
  let osOf := machineOs py built
  .ofPairs ((machineFamilies py built).entries.filterMap
    (fun machine =>
      if machine.2 = .appliance then
        (applianceLogin py ((osOf.get? machine.1).getD "")).map
          (fun login => (machine.1, login))
      else none))

--------
-- Passwords And Logins
--------

open Texts

variable (py : Language)

/- `name.rsplit("\\", 1)[-1].split("@", 1)[0]` -/
def accountName (username : String) : String :=
  let afterDomain :=
    (username.toList.reverse.takeWhile (· ≠ '\\')).reverse
  String.ofList (afterDomain.takeWhile (· ≠ '@'))

/- How many kinds of characters a password has. -/
def passwordClasses (password : String) : Nat :=
  [password.toList.any py.isUpper, password.toList.any py.isLower,
    password.toList.any py.isDigit,
    password.toList.any (fun c => !py.isAlnum c)].count true

/- `windows_password_problem` -/
def windowsPasswordProblem
    (password username : String) : Option String :=
  let name := accountName username
  if password.length < 8 then
    some "Windows requires at least 8 characters"
  else if passwordClasses py password < 3 then
    some ("Windows requires three of: upper case, lower case, " ++
      "digits, other characters")
  else if 3 ≤ name.length &&
      contains (casefold name) (casefold password) then
    some "Windows refuses a password that contains the account name"
  else none

/- `os.getenv(name, "").strip() or default` -/
def loginOr
    (default value : String) : String :=
  if strip value = "" then default else strip value

def linuxBuildUser (env : Environment) : String :=
  loginOr "ubuntu" env.templateLinuxUser

def soBuildUser (env : Environment) : String :=
  loginOr "soadmin" env.soInstallUser

/- Logins of the staff, never a scenario account's. -/
def reservedLogins (env : Environment) : List String :=
  ["administrator", casefold (linuxBuildUser env),
    casefold (soBuildUser env)]

end TemplateAccounts

end TrueNorth
