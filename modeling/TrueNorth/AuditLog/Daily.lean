import TrueNorth.AuditLog.PurgeSafety
import TrueNorth.AuditLog.Shelf

/-
  The export from day to day: a run at a time, on a day or
  not, lost at any statement or put, among rows that commit
  when they do and days that retention purges.

  Key definitions include:
    * `Daily`
    * `Daily.step`
    * `Recoverable`
    * `Recovered`
-/

--------
-- Days
--------

namespace TrueNorth

namespace AuditLog

variable {H : Type} [DecidableEq H]

structure Daily (H : Type) where
  site : Site H
  today : Day
  -- every row there was, with the day it was committed
  commits : List (AuditRow × Day)
  -- the run there is, or how the last one ended
  job : Option (ExportJob H)

inductive DailyAct where
| insert (r : AuditRow)
| newDay
| purge (day : Day) (now : Int)
| start
| step (now : Int)
| crash

namespace Daily

def fresh (today : Day) : Daily H where
  site := .fresh
  today := today
  commits := []
  job := none

/-
  A purge is the whole of one, of a day past the hot window
  whose rows all stand in its files: no other is safe, and
  none deletes less.
-/
def step
    (cfg : Config H)
    (s : Daily H) :
    DailyAct → Daily H
| .insert r =>
    -- a row is written before it is committed
    if s.today < r.day ||
        (s.site.history.map AuditRow.id).contains r.id
    then s
    else
      { s with
        site := s.site.insert r
        commits := s.commits ++ [(r, s.today)] }
| .newDay => { s with today := s.today + 1 }
| .purge day now =>
    match cfg.hotDays with
    | none => s
    | some days =>
        if day < s.today - days &&
            (s.site.ofDay day).all (fun r =>
              (s.site.filed day).contains r)
        then
          { s with
            site := s.site.withoutDay now day
              ((s.site.filed day).map AuditRow.id)
              (s.site.exportsFor day) }
        else s
| .start =>
    if s.job.any ExportJob.running then s
    else { s with job := some (.start s.today) }
| .step now =>
    match s.job with
    | none => s
    | some job =>
        let (site, job) :=
          job.next cfg.sha cfg.key now s.site
        { s with site := site, job := some job }
| .crash => { s with job := none }

end Daily

end AuditLog

end TrueNorth

--------
-- Where a Run Is
--------

namespace TrueNorth

namespace AuditLog

variable {H : Type}

namespace ExportJob

/- The run has read the day's rows, or left it behind. -/
def passed : ExportJob H → Day → Bool
| .days today day, d => day < today && d < day
| .head _ day seq _, d => seq = 0 && d ≤ day
| .write w _, d => w.seq = 0 && d ≤ w.day
| _, _ => false

/- The rows it has read and not recorded. -/
def inHand : ExportJob H → List AuditRow
| .head _ _ _ rows => rows
| .write w _ => w.rows
| _ => []

/- It is at the day's first export. -/
def opens : ExportJob H → Day → Bool
| .head _ day seq _, d => seq = 0 && day = d
| .write w _, d => w.seq = 0 && w.day = d
| _, _ => false

/- It has yet to recount the day. -/
def recounts : ExportJob H → Day → Bool
| .start today, d => today - 2 = d
| .days today _, d => today - 2 = d
| .head today _ seq _, d => seq = 0 && today - 2 = d
| .write w _, d => w.seq = 0 && w.today - 2 = d
| .recount today, d => today - 2 = d
| .count today _, d => today - 2 = d
| .collect today _, d => today - 2 = d
| .late today _ _, d => today - 2 = d
| .done _, _ => false
| .raised _, _ => false

end ExportJob

namespace Stage

/- How much a write has left, at most. -/
def left : Stage H → Nat
| .putKey => 7
| .look => 6
| .putFile => 5
| .putManifest _ => 4
| .putSig _ => 3
| .verify _ => 2
| .record _ => 1

end Stage

namespace ExportJob

/- How much is left after an export. -/
def rest
    (today day : Day)
    (seq : Nat) : Nat :=
  if seq = 0 then 13 + 10 * (today - (day + 1)).toNat else 0

/- How much a run has left; where it starts, it is open. -/
def left : ExportJob H → Nat × Nat
| .start _ => (1, 0)
| .days today day => (0, 13 + 10 * (today - day).toNat)
| .head today day seq _ => (0, rest today day seq + 8)
| .write w stage =>
    (0, rest w.today w.day w.seq + stage.left)
| .recount _ => (0, 12)
| .count _ _ => (0, 11)
| .collect _ _ => (0, 10)
| .late _ _ _ => (0, 9)
| .done _ => (0, 0)
| .raised _ => (0, 0)

/- It has less left to do. -/
def Sooner (job job' : ExportJob H) : Prop :=
  Prod.Lex (· < ·) (· < ·) job.left job'.left

/- Nothing goes on having less left. -/
theorem sooner_wellFounded :
    WellFounded (Sooner : ExportJob H → ExportJob H → Prop) :=
  InvImage.wf left
    (WellFounded.prod_lex Nat.lt_wfRel.wf Nat.lt_wfRel.wf)

end ExportJob

end AuditLog

end TrueNorth

--------
-- What a Run Can Recover From
--------

namespace TrueNorth

namespace AuditLog

variable {H : Type} [DecidableEq H]

namespace Daily

def Taken
    (s : Daily H)
    (day : Day) : Prop :=
  (∃ e ∈ s.site.exports, day ≤ e.day) ∨
    s.job.any (fun job => job.passed day)

def Holds
    (s : Daily H)
    (r : AuditRow) : Prop :=
  s.job.any (fun job => job.inHand.contains r)

def Opened
    (s : Daily H)
    (day : Day) : Prop :=
  s.site.recorded day ∨ s.job.any (fun job => job.opens day)

/-
  The day's recount is ahead: of a later run, or of the run
  there is, if it finds all the rows there ever were.
-/
def Due
    (s : Daily H)
    (day : Day) : Prop :=
  s.today ≤ day + 2 ∨
    (s.job.any (fun job => job.recounts day) ∧
      ∀ r ∈ s.site.history, r.day = day → r ∈ s.site.logs)

/-
  A row committed on day `c` that is filed, or that no run
  can miss: it comes before the export of its day, or is in
  hand, or is late and before the recount.
-/
def Secure
    (s : Daily H)
    (r : AuditRow)
    (c : Day) : Prop :=
  r ∈ s.site.filed r.day ∨ ¬ s.Taken r.day ∨ s.Holds r ∨
    (r.day < c ∧ s.Opened r.day ∧ s.Due r.day)

def AllSecure (s : Daily H) : Prop :=
  ∀ p ∈ s.commits, s.Secure p.1 p.2

instance
    (s : Daily H) :
    Decidable s.AllSecure := by
  unfold AllSecure Secure Taken Holds Opened Due
  infer_instance

end Daily

/-
  Under the name a run is to write there is nothing, or only
  the file it would put, or all three files of that export.
-/
def Adoptable
    (sha : Blob H → H)
    (s : Site H)
    (w : Writing H) : Bool :=
  match s.archive.get? w.manifestName with
  | none =>
      (s.archive.get? w.fileName).all (fun b => b = .rows w.rows)
  | some (.manifest m) =>
      s.archive.stores w.manifestName.sig && w.describes sha m
  | some _ => false

/-
  What the days bring leaves each row within reach of a run,
  and a run finds what it can adopt.
-/
def Recoverable
    (cfg : Config H)
    (s : Daily H) :
    DailyAct → Prop
| .insert r => (s.step cfg (.insert r)).AllSecure
| .newDay => (s.step cfg .newDay).AllSecure
| .crash => (s.step cfg .crash).AllSecure
| .step _ =>
    match s.job with
    | some (.write w .look) => Adoptable cfg.sha s.site w
    | _ => True
| .purge _ _ => True
| .start => True

instance
    (cfg : Config H)
    (s : Daily H)
    (a : DailyAct) :
    Decidable (Recoverable cfg s a) := by
  unfold Recoverable
  repeat' split
  all_goals infer_instance

/-
  No run raises, each step of one has less left to do, the
  exports form one chain, and once a run is done all that was
  committed two days before it has been exported.
-/
structure Recovered
    (cfg : Config H)
    (s : Daily H) : Prop where
  quiet : ∀ e, s.job ≠ some (.raised e)
  ends : ∀ job, s.job = some job → job.running = true →
    ∀ now, ExportJob.Sooner
      (job.next cfg.sha cfg.key now s.site).2 job
  chain : byManifest.Linked s.site.exports ∧
    (s.site.exports.map Export.manifestSha).Nodup
  exported : ∀ today, s.job = some (.done today) →
    ∀ p ∈ s.commits, p.2 + 2 ≤ today →
      Exported cfg.sha cfg.key s.site p.1

end AuditLog

end TrueNorth
