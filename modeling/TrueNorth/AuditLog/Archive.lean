import Mathlib.Data.List.Sort
import TrueNorth.Lib.Checks
import TrueNorth.Lib.WriteOnce

/-
  The audit log, its archive and the table of its exports
  (worker/audit_archive, worker/audit_export.py,
  worker/tables.py).

  Bytes are what they encode: the canonical lines of rows,
  compressed the same way each time, a manifest, a signature
  or a public key.  A digest is a value of `H`, by a hash
  that is given; a signature is what its key makes of a
  manifest, and verifies for that manifest alone.

  Key definitions include:
    * `AuditRow`, `Manifest`, `Blob`
    * `Site`
    * `Site.dayRows`, `Site.chainHead`
    * `verifyManifest`
    * `Site.exportedIds`
-/

--------
-- Rows
--------

namespace TrueNorth

namespace AuditLog

/- A UTC day. -/
abbrev Day : Type := Int

/- A row of `audit_logs`, its time in microseconds. -/
structure AuditRow where
  id : Nat
  timestamp : Int
  userId : Option Nat
  tenantId : Option Nat
  action : String
  resourceType : String
  resourceId : Option String
  detail : Option String
deriving DecidableEq

namespace AuditRow

def microsPerDay : Int := 86400000000

/- The day whose `day_bounds` the row is within. -/
def day (r : AuditRow) : Day :=
  r.timestamp / microsPerDay

/- `ORDER BY timestamp, id`. -/
def before (r r' : AuditRow) : Bool :=
  r.timestamp < r'.timestamp ||
    (r.timestamp = r'.timestamp && r.id ≤ r'.id)

end AuditRow

end AuditLog

end TrueNorth

--------
-- The Archive
--------

namespace TrueNorth

namespace AuditLog

/- `file_name`, `manifest_name`, `.sig` and `key_name`. -/
inductive Name where
| file (day : Day) (seq : Nat)
| manifest (day : Day) (seq : Nat)
| sig (of : Name)
| key (keyId : Nat)
deriving DecidableEq

structure Manifest (H : Type) where
  schemaVersion : Nat
  day : Day
  seq : Nat
  rowCount : Nat
  firstId : Option Nat
  lastId : Option Nat
  file : Name
  fileSha : H
  prev : Option H
  keyId : Nat
  generatedAt : Int
deriving DecidableEq

/- What a file of the archive holds. -/
inductive Blob (H : Type) where
| rows (rows : List AuditRow)
| manifest (m : Manifest H)
| signature (keyId : Nat) (m : Manifest H)
| pem (keyId : Nat)
deriving DecidableEq

abbrev Archive (H : Type) : Type := Dict Name (Blob H)

/- Why an export, a check or a purge stops. -/
inductive AuditError where
| absent (name : Name)
| replaced (name : Name)
| notManifest
| otherHash
| unknownKey
| wrongKey
| badSignature
| otherFile
| notRows
| heads (n : Nat)
| otherRows
| recorded
| deleted (n expected : Nat)
deriving DecidableEq

variable {H : Type}

/- `decode_ids`, of a file that was checked. -/
def decodeIds : Blob H → Except AuditError (List Nat)
| .rows rows => .ok (rows.map AuditRow.id)
| _ => .error .notRows

namespace Archive

/- `put`, which never replaces other content. -/
def put
    [DecidableEq H]
    (a : Archive H)
    (name : Name)
    (data : Blob H) : Except AuditError (Archive H) :=
  match WriteOnce.put a name data with
  | none => .error (.replaced name)
  | some a' => .ok a'

/- `get`. -/
def read
    (a : Archive H)
    (name : Name) : Except AuditError (Blob H) :=
  match a.get? name with
  | none => .error (.absent name)
  | some data => .ok data

/- `exists`. -/
def stores
    (a : Archive H)
    (name : Name) : Bool :=
  (a.get? name).isSome

end Archive

end AuditLog

end TrueNorth

--------
-- Checking One Export
--------

namespace TrueNorth

namespace AuditLog

open Checks

variable {H : Type} [DecidableEq H]

/- `json.loads`, of what is to be a manifest. -/
def parseManifest : Blob H → Except AuditError (Manifest H)
| .manifest m => .ok m
| _ => .error .notManifest

/- The public key a manifest is checked against. -/
def publicKey
    (a : Archive H)
    (key : Option Nat)
    (m : Manifest H) : Except AuditError (Blob H) :=
  if key = some m.keyId then .ok (.pem m.keyId)
  else a.read (.key m.keyId)

/-
  `verify_manifest`: `key` is the worker's own key, `trusted`
  the keys an export may be signed by, `expected` the digest
  `audit_exports` records.
-/
def verifyManifest
    (sha : Blob H → H)
    (a : Archive H)
    (name : Name)
    (key : Option Nat)
    (trusted : Option (List Nat))
    (expected : Option H) :
    Except AuditError (Manifest H) := do
  let mbytes ← a.read name
  let sig ← a.read name.sig
  let m ← parseManifest mbytes
  refuseIf (expected.any (fun h => sha mbytes ≠ h)) .otherHash
  refuseIf (trusted.any (fun ks => !ks.contains m.keyId))
    .unknownKey
  let pem ← publicKey a key m
  refuseIf (pem ≠ .pem m.keyId) .wrongKey
  refuseIf (sig ≠ .signature m.keyId m) .badSignature
  let file ← a.read m.file
  refuseIf (sha file ≠ m.fileSha) .otherFile
  .ok m

--------
-- The Tables
--------

/- A row of `audit_exports`. -/
structure Export (H : Type) where
  day : Day
  seq : Nat
  rowCount : Nat
  firstId : Option Nat
  lastId : Option Nat
  fileName : Name
  fileSha : H
  manifestSha : H
  prev : Option H
  keyId : Nat
  createdAt : Int
deriving DecidableEq

/- A row of `audit_export_checks`. -/
structure ExportCheck (H : Type) where
  day : Day
  seq : Nat
  manifestSha : H
  rowCount : Nat
  keyId : Nat
  checkedAt : Int
deriving DecidableEq

/- What a purge deleted, and the ids its check had read. -/
structure Purge where
  day : Day
  deleted : List AuditRow
  verified : List Nat
deriving DecidableEq

/-
  `history` and `purges` are what happened, which no code
  reads: every row ever committed, and the purges that were.
-/
structure Site (H : Type) where
  logs : List AuditRow
  exports : List (Export H)
  checks : List (ExportCheck H)
  archive : Archive H
  history : List AuditRow
  purges : List Purge

namespace Site

open Checks

variable {H : Type} [DecidableEq H]

def fresh : Site H where
  logs := []
  exports := []
  checks := []
  archive := .empty
  history := []
  purges := []

/- A row committed, whatever its time; its id is new. -/
def insert
    (s : Site H)
    (r : AuditRow) : Site H :=
  if (s.history.map AuditRow.id).contains r.id then s
  else
    { s with
      logs := s.logs ++ [r]
      history := s.history ++ [r] }

/- The rows of a day, as a DELETE finds them. -/
def ofDay
    (s : Site H)
    (day : Day) : List AuditRow :=
  s.logs.filter (fun r => r.day = day)

/- `day_rows`. -/
def dayRows
    (s : Site H)
    (day : Day) : List AuditRow :=
  (s.ofDay day).mergeSort AuditRow.before

/- `day_count`. -/
def dayCount
    (s : Site H)
    (day : Day) : Nat :=
  (s.ofDay day).length

/- `exports_for`. -/
def exportsFor
    (s : Site H)
    (day : Day) : List (Export H) :=
  (s.exports.filter (fun e => e.day = day)).mergeSort
    (fun e e' => e.seq ≤ e'.seq)

/- `_first_row_day`. -/
def firstRowDay (s : Site H) : Option Day :=
  (s.logs.map AuditRow.timestamp).min?.map
    (fun t => t / AuditRow.microsPerDay)

/- `max(audit_exports.day)`. -/
def lastExportDay (s : Site H) : Option Day :=
  (s.exports.map Export.day).max?

/- The exports no other points back to. -/
def heads (s : Site H) : List H :=
  (s.exports.map Export.manifestSha).filter (fun h =>
    !(s.exports.filterMap Export.prev).contains h)

/- `chain_head`. -/
def chainHead (s : Site H) : Except AuditError (Option H) :=
  if s.exports.isEmpty then .ok none
  else
    match s.heads with
    | [head] => .ok (some head)
    | heads => .error (.heads heads.length)

/- `trusted_key_ids`. -/
def trustedKeyIds
    (s : Site H)
    (key : Nat) : List Nat :=
  key :: s.exports.map Export.keyId

/- The verification of one recorded export. -/
def verifyExport
    (sha : Blob H → H)
    (key : Nat)
    (s : Site H)
    (e : Export H) : Except AuditError (Manifest H) :=
  verifyManifest sha s.archive (.manifest e.day e.seq)
    (some key) (some (s.trustedKeyIds key))
    (some e.manifestSha)

/- The ids in the file of one recorded export. -/
def idsOf
    (sha : Blob H → H)
    (key : Nat)
    (s : Site H)
    (e : Export H) : Except AuditError (List Nat) := do
  let m ← s.verifyExport sha key e
  let data ← s.archive.read m.file
  decodeIds data

/- `exported_ids`. -/
def exportedIds
    (sha : Blob H → H)
    (key : Nat)
    (s : Site H)
    (day : Day) : Except AuditError (List Nat) := do
  let ids ← (s.exportsFor day).mapM (s.idsOf sha key)
  .ok ids.flatten

end Site

end AuditLog

end TrueNorth
