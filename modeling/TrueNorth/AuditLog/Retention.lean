import TrueNorth.AuditLog.Exporting

/-
  Retention, statement by statement (worker/audit_jobs.py
  `run_retention`, `_purge_refusal`, `_purge_day`), and
  workers that run it beside the export.

  What a purge writes is one transaction: its checks, the
  DELETE, the count of what that deleted and the audit row
  of the purge are committed together, or not at all.

  Key definitions include:
    * `RetentionJob`
    * `RetentionJob.next`
    * `Workers`
    * `Workers.step`
-/

--------
-- Runs of Retention
--------

namespace TrueNorth

namespace AuditLog

/-
  What `run_retention` is about to do.  `counted` are the
  rows its count read, of which it keeps their number.
-/
inductive RetentionJob (H : Type) where
| start (cutoff : Day)
| days (cutoff day : Day)
-- the day's exports, against the count
| tally (cutoff day : Day) (counted : List AuditRow)
-- each export verified
| verify
    (cutoff day : Day)
    (counted : List AuditRow)
    (exports : List (Export H))
-- the ids in the day's files
| collect (cutoff day : Day) (counted : List AuditRow)
-- the rows in the table, against those ids
| compare
    (cutoff day : Day)
    (counted : List AuditRow)
    (ids : List Nat)
-- the exports whose checks are recorded
| checks
    (cutoff day : Day)
    (counted : List AuditRow)
    (ids : List Nat)
| purge
    (cutoff day : Day)
    (counted : List AuditRow)
    (ids : List Nat)
    (exports : List (Export H))
-- all days done, or the first that is refused
| stopped
| raised (e : AuditError)
deriving DecidableEq

--------
-- The Steps of a Run
--------

open Checks

variable {H : Type} [DecidableEq H]

/- The same ids, however often each is listed. -/
def sameIds (ids ids' : List Nat) : Bool :=
  ids.all (fun i => ids'.contains i) &&
    ids'.all (fun i => ids.contains i)

namespace Site

/- The check a purge records of an export. -/
def checkOf
    (now : Int)
    (e : Export H) : ExportCheck H where
  day := e.day
  seq := e.seq
  manifestSha := e.manifestSha
  rowCount := e.rowCount
  keyId := e.keyId
  checkedAt := now

/-
  The audit row of a purge; `dump` is the JSON of what was
  purged.
-/
def purgeRow
    (dump : Nat → List H → String)
    (now : Int)
    (id : Nat)
    (day : Day)
    (deleted : Nat)
    (shas : List H) : AuditRow where
  id := id
  timestamp := now
  userId := none
  tenantId := none
  action := "audit.purge"
  resourceType := "audit_logs"
  resourceId := some (toString day)
  detail := some (dump deleted shas)

/- `_purge_day`, the transaction that is committed. -/
def purged
    (dump : Nat → List H → String)
    (s : Site H)
    (now : Int)
    (id : Nat)
    (day : Day)
    (ids : List Nat)
    (exports : List (Export H)) : Site H :=
  let rest : Site H :=
    { s with
      logs := s.logs.filter (fun r => r.day ≠ day)
      checks := s.checks ++ exports.map (checkOf now)
      purges := s.purges ++ [⟨day, s.ofDay day, ids⟩] }
  rest.insert
    (purgeRow dump now id day (s.dayCount day)
      (exports.map Export.manifestSha))

end Site

namespace RetentionJob

/- A check that refuses the day stops the run. -/
def checking
    {A : Type}
    (s : Site H)
    (x : Except AuditError A)
    (next : A → RetentionJob H) : Site H × RetentionJob H :=
  match x with
  | .error _ => (s, .stopped)
  | .ok a => (s, next a)

/- `run_retention`, one step; `id` is a new row's. -/
def next
    (sha : Blob H → H)
    (dump : Nat → List H → String)
    (key : Nat)
    (now : Int)
    (id : Nat)
    (s : Site H) :
    RetentionJob H → Site H × RetentionJob H
| .start cutoff =>
    match s.firstRowDay with
    | none => (s, .stopped)
    | some day => (s, .days cutoff day)
| .days cutoff day =>
    if day < cutoff then
      if s.dayCount day = 0 then (s, .days cutoff (day + 1))
      else (s, .tally cutoff day (s.ofDay day))
    else (s, .stopped)
| .tally cutoff day counted =>
    let recorded := s.exportsFor day
    if recorded.isEmpty then (s, .stopped)
    else if (recorded.map Export.rowCount).sum ≠ counted.length
    then (s, .stopped)
    else (s, .verify cutoff day counted recorded)
| .verify cutoff day counted exports =>
    checking s (exports.mapM (s.verifyExport sha key))
      (fun _ => .collect cutoff day counted)
| .collect cutoff day counted =>
    checking s (s.exportedIds sha key day)
      (fun ids => .compare cutoff day counted ids)
| .compare cutoff day counted ids =>
    if sameIds ids ((s.dayRows day).map AuditRow.id) then
      (s, .checks cutoff day counted ids)
    else (s, .stopped)
| .checks cutoff day counted ids =>
    (s, .purge cutoff day counted ids (s.exportsFor day))
| .purge cutoff day counted ids exports =>
    let deleted := s.dayCount day
    if deleted ≠ counted.length then
      (s, .raised (.deleted deleted counted.length))
    else
      (s.purged dump now id day ids exports,
        .days cutoff (day + 1))
| .stopped => (s, .stopped)
| .raised e => (s, .raised e)

end RetentionJob

end AuditLog

end TrueNorth

--------
-- Workers
--------

namespace TrueNorth

namespace AuditLog

variable {H : Type} [DecidableEq H]

/- What a worker is running, if anything. -/
inductive Job (H : Type) where
| idle
| exporting (job : ExportJob H)
| retaining (job : RetentionJob H)

structure Workers (H : Type) where
  site : Site H
  jobs : Nat → Job H

/- How the worker is set up. -/
structure Config (H : Type) where
  sha : Blob H → H
  dump : Nat → List H → String
  key : Nat
  -- `hot_retention_days`; none where purging is off
  hotDays : Option Nat

inductive Act where
| insert (r : AuditRow)
| runExport (worker : Nat) (today : Day)
| runRetention (worker : Nat) (today : Day)
-- a worker's next statement; `id` is a new row's
| step (worker : Nat) (now : Int) (id : Nat)
| crash (worker : Nat)

namespace Workers

def fresh : Workers H where
  site := .fresh
  jobs := fun _ => .idle

def setJob
    (ws : Workers H)
    (worker : Nat)
    (job : Job H) : Workers H :=
  { ws with jobs := Function.update ws.jobs worker job }

/- The statement a worker is at. -/
def next
    (cfg : Config H)
    (ws : Workers H)
    (worker : Nat)
    (now : Int)
    (id : Nat) : Workers H :=
  match ws.jobs worker with
  | .idle => ws
  | .exporting job =>
      let (site, job) :=
        job.next cfg.sha cfg.key now ws.site
      { ws.setJob worker (.exporting job) with site := site }
  | .retaining job =>
      let (site, job) :=
        job.next cfg.sha cfg.dump cfg.key now id ws.site
      { ws.setJob worker (.retaining job) with site := site }

/-
  A new task takes a worker over, as it does one whose task
  was lost; the task it had is at an end.
-/
def step
    (cfg : Config H)
    (ws : Workers H) :
    Act → Workers H
| .insert r => { ws with site := ws.site.insert r }
| .runExport worker today =>
    ws.setJob worker (.exporting (.start today))
| .runRetention worker today =>
    match cfg.hotDays with
    | none => ws
    | some days =>
        ws.setJob worker (.retaining (.start (today - days)))
| .step worker now id => ws.next cfg worker now id
| .crash worker => ws.setJob worker .idle

end Workers

end AuditLog

end TrueNorth
