import Mathlib.Algebra.GroupWithZero.Nat
import TrueNorth.AuditLog.Archive

/-
  The daily export, statement by statement
  (worker/audit_export.py `write_export`,
  worker/audit_jobs.py `run_export`, `recount`).

  A run is a state machine whose steps are its reads of the
  tables, its puts into the archive and its commits, so that
  other transactions, and a crash, come between any two.

  Key definitions include:
    * `Writing`, `Stage`
    * `ExportJob`
    * `ExportJob.next`
-/

--------
-- Runs of the Export
--------

namespace TrueNorth

namespace AuditLog

/- One call of `write_export`, of a run for `today`. -/
structure Writing (H : Type) where
  today : Day
  day : Day
  seq : Nat
  rows : List AuditRow
  prev : Option H
deriving DecidableEq

/- What `write_export` is about to do. -/
inductive Stage (H : Type) where
| putKey
-- whether the manifest is there already
| look
| putFile
| putManifest (m : Manifest H)
| putSig (m : Manifest H)
| verify (m : Manifest H)
-- the export recorded, and the commit
| record (m : Manifest H)
deriving DecidableEq

/- What `run_export` is about to do. -/
inductive ExportJob (H : Type) where
-- where to start from
| start (today : Day)
-- the next missing day, up to yesterday
| days (today day : Day)
-- the chain's head, for rows that were read
| head (today day : Day) (seq : Nat) (rows : List AuditRow)
| write (w : Writing H) (stage : Stage H)
-- `recount`, of the day before yesterday
| recount (today : Day)
| count (today : Day) (exports : List (Export H))
| collect (today : Day) (seq : Nat)
| late (today : Day) (seq : Nat) (ids : List Nat)
| done (today : Day)
| raised (e : AuditError)
deriving DecidableEq

namespace ExportJob

variable {H : Type}

/- It has more to do. -/
def running : ExportJob H → Bool
| .done _ => false
| .raised _ => false
| _ => true

end ExportJob

end AuditLog

end TrueNorth

--------
-- The Steps of a Run
--------

namespace TrueNorth

namespace AuditLog

open Checks

variable {H : Type} [DecidableEq H]

namespace Writing

def fileName (w : Writing H) : Name := .file w.day w.seq

def manifestName (w : Writing H) : Name :=
  .manifest w.day w.seq

/- The manifest a new export is given. -/
def newManifest
    (sha : Blob H → H)
    (key : Nat)
    (now : Int)
    (w : Writing H) : Manifest H where
  schemaVersion := 1
  day := w.day
  seq := w.seq
  rowCount := w.rows.length
  firstId := w.rows.head?.map AuditRow.id
  lastId := w.rows.getLast?.map AuditRow.id
  file := w.fileName
  fileSha := sha (.rows w.rows)
  prev := w.prev
  keyId := key
  generatedAt := now

/- The row that records the export. -/
def export'
    (sha : Blob H → H)
    (key : Nat)
    (now : Int)
    (w : Writing H)
    (m : Manifest H) : Export H where
  day := w.day
  seq := w.seq
  rowCount := w.rows.length
  firstId := w.rows.head?.map AuditRow.id
  lastId := w.rows.getLast?.map AuditRow.id
  fileName := w.fileName
  fileSha := sha (.rows w.rows)
  manifestSha := sha (.manifest m)
  prev := w.prev
  keyId := key
  createdAt := now

/- A manifest found there is of the same rows and place. -/
def describes
    (sha : Blob H → H)
    (w : Writing H)
    (m : Manifest H) : Bool :=
  m.fileSha = sha (.rows w.rows) && m.prev = w.prev &&
    m.rowCount = w.rows.length

/- The files an interrupted run left, adopted. -/
def adopt
    (sha : Blob H → H)
    (key : Nat)
    (s : Site H)
    (w : Writing H) : Except AuditError (Manifest H) := do
  let m ← verifyManifest sha s.archive w.manifestName
    (some key) (some (s.trustedKeyIds key)) none
  refuseIf (!w.describes sha m) .otherRows
  .ok m

/- What a run does after an export is recorded. -/
def after (w : Writing H) : ExportJob H :=
  if w.seq = 0 then .days w.today (w.day + 1)
  else .done w.today

end Writing

namespace ExportJob

/- A step that puts a file, or raises. -/
def putting
    (s : Site H)
    (name : Name)
    (data : Blob H)
    (next : ExportJob H) : Site H × ExportJob H :=
  match s.archive.put name data with
  | .error e => (s, .raised e)
  | .ok archive => ({ s with archive := archive }, next)

/- A step that reads, or raises. -/
def reading
    {A : Type}
    (s : Site H)
    (x : Except AuditError A)
    (next : A → ExportJob H) : Site H × ExportJob H :=
  match x with
  | .error e => (s, .raised e)
  | .ok a => (s, next a)

/- `write_export`. -/
def writeNext
    (sha : Blob H → H)
    (key : Nat)
    (now : Int)
    (s : Site H)
    (w : Writing H) :
    Stage H → Site H × ExportJob H
| .putKey =>
    putting s (.key key) (.pem key) (.write w .look)
| .look =>
    if s.archive.stores w.manifestName then
      reading s (w.adopt sha key s)
        (fun m => .write w (.record m))
    else (s, .write w .putFile)
| .putFile =>
    putting s w.fileName (.rows w.rows)
      (.write w (.putManifest (w.newManifest sha key now)))
| .putManifest m =>
    putting s w.manifestName (.manifest m)
      (.write w (.putSig m))
| .putSig m =>
    putting s w.manifestName.sig (.signature key m)
      (.write w (.verify m))
| .verify m =>
    reading s
      (verifyManifest sha s.archive w.manifestName (some key)
        (some [key]) none)
      (fun _ => .write w (.record m))
| .record m =>
    -- the primary key is (day, seq)
    if s.exports.any (fun e => e.day = w.day && e.seq = w.seq)
    then (s, .raised .recorded)
    else
      ({ s with
          exports := s.exports ++ [w.export' sha key now m] },
        w.after)

/- `run_export`, one step. -/
def next
    (sha : Blob H → H)
    (key : Nat)
    (now : Int)
    (s : Site H) :
    ExportJob H → Site H × ExportJob H
| .start today =>
    let first :=
      match s.lastExportDay with
      | some last => some (last + 1)
      | none => s.firstRowDay
    match first with
    | some day => (s, .days today day)
    | none => (s, .recount today)
| .days today day =>
    if day < today then (s, .head today day 0 (s.dayRows day))
    else (s, .recount today)
| .head today day seq rows =>
    reading s s.chainHead
      (fun prev => .write ⟨today, day, seq, rows, prev⟩ .putKey)
| .write w stage => writeNext sha key now s w stage
| .recount today =>
    let exports := s.exportsFor (today - 2)
    if exports.isEmpty then (s, .done today)
    else (s, .count today exports)
| .count today exports =>
    let live := s.dayCount (today - 2)
    let exported := (exports.map Export.rowCount).sum
    -- fewer rows than were exported is an error in the log only
    if live ≤ exported then (s, .done today)
    else
      (s, .collect today
        ((exports.getLast?.map Export.seq).getD 0 + 1))
| .collect today seq =>
    reading s (s.exportedIds sha key (today - 2))
      (fun ids => .late today seq ids)
| .late today seq ids =>
    (s, .head today (today - 2) seq
      ((s.dayRows (today - 2)).filter (fun r =>
        !ids.contains r.id)))
| .done today => (s, .done today)
| .raised e => (s, .raised e)

end ExportJob

end AuditLog

end TrueNorth
