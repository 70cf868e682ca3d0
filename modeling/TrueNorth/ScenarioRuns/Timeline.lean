import Mathlib.Data.List.Basic

/-
  The timeline of a scenario run, the rows its deliveries
  share and the statements on them
  (worker/exercise_run.py, worker/db_ops.py,
  app/scenario_runs/runs.py).

  Key definitions include:
    * `parseEvent`
    * `ExerciseRun`, `InjectRecord`
    * `claimEvent`
    * `resume`
-/

--------
-- Timeline Events
--------

namespace TrueNorth

namespace ScenarioRuns

/-
  A timeline event.  `t` is split at its colons: `parts` are
  its integers, or `none` where one of them is none.
-/
inductive TimelineEvent where
| notMapping
| mapping
    (action : Option String)
    (paramsIsMapping : Bool)
    (parts : Option (List Int))
deriving DecidableEq

/- What is wrong with an event that is not run. -/
inductive Problem where
| notMapping
| noAction
| params
| offset
deriving DecidableEq

/- `str.isspace`. -/
def isSpace (c : Char) : Bool :=
  let n := c.toNat
  (9 ≤ n && n ≤ 13) || (28 ≤ n && n ≤ 32) ||
    n = 0x85 || n = 0xa0 || n = 0x1680 ||
    (0x2000 ≤ n && n ≤ 0x200a) ||
    n = 0x2028 || n = 0x2029 || n = 0x202f ||
    n = 0x205f || n = 0x3000

/- `_offset_seconds`. -/
def offsetSeconds (parts : Option (List Int)) :
    Option Int :=
  match parts with
  | none => none
  | some parts =>
      if parts.any (fun p => p < 0) then none
      else
        match parts with
        | [s] => some s
        | [m, s] => some (m * 60 + s)
        | [h, m, s] => some (h * 3600 + m * 60 + s)
        | _ => none

/- `_parse_event`: the problem with an event, if any. -/
def parseEvent :
    TimelineEvent → Option Problem
| .notMapping => some .notMapping
| .mapping action paramsIsMapping parts =>
    if (action.getD "").toList.all isSpace then
      some .noAction
    else if !paramsIsMapping then some .params
    else if offsetSeconds parts = none then some .offset
    else none

--------
-- Rows
--------

inductive ExerciseState where
| pending
| running
| paused
| completed
| cancelled
deriving DecidableEq

inductive InjectStatus where
| fired
| failed
| skipped
deriving DecidableEq

/- The outcome of one timeline event of a run. -/
structure InjectRecord where
  runId : String
  seq : Nat
  status : InjectStatus
  createdAt : Nat
deriving DecidableEq

/- The current run of the exercise's timeline. -/
structure ExerciseRun where
  runId : String
  lease : String
  nextSeq : Nat
  resumeFrom : Nat
deriving DecidableEq

--------
-- Statements
--------

/- `recorded_seqs`. -/
def recordedSeqs
    (records : List InjectRecord)
    (runId : String) : List Nat :=
  (records.filter (fun r => r.runId = runId)).map
    InjectRecord.seq

theorem mem_recordedSeqs
    {records : List InjectRecord}
    {runId : String}
    {seq : Nat} :
    seq ∈ recordedSeqs records runId ↔
      ∃ r ∈ records, r.runId = runId ∧ r.seq = seq := by
  simp [recordedSeqs, and_assoc]

theorem mem_recordedSeqs_snoc
    {records : List InjectRecord}
    {r : InjectRecord}
    {runId : String}
    {seq : Nat} :
    seq ∈ recordedSeqs (records ++ [r]) runId ↔
      seq ∈ recordedSeqs records runId ∨
        (r.runId = runId ∧ r.seq = seq) := by
  simp only [mem_recordedSeqs, List.mem_append,
    List.mem_singleton]
  constructor
  · rintro ⟨other, hOld | rfl, hSame⟩
    · exact .inl ⟨other, hOld, hSame⟩
    · exact .inr hSame
  · rintro (⟨other, hOld, hSame⟩ | hSame)
    · exact ⟨other, .inl hOld, hSame⟩
    · exact ⟨r, .inr rfl, hSame⟩

/- `claim_event`, and whether it matched the row. -/
def claimEvent
    (run : Option ExerciseRun)
    (state : ExerciseState)
    (lease : String)
    (seq : Nat) : Option ExerciseRun × Bool :=
  match run with
  | none => (none, false)
  | some row =>
      if row.lease = lease ∧ state = .running then
        (some { row with nextSeq := seq + 1 }, true)
      else (some row, false)

/- `begin`: a new run from the first event. -/
def beginRun
    (runId lease : String) : ExerciseRun where
  runId := runId
  lease := lease
  nextSeq := 0
  resumeFrom := 0

/- The run that recorded last since the exercise started. -/
def lastRun
    (records : List InjectRecord)
    (startedAt : Option Nat) : Option String :=
  let since :=
    match startedAt with
    | none => records
    | some time =>
        records.filter (fun r => time ≤ r.createdAt)
  since.getLast?.map InjectRecord.runId

/-
  `resume`: the lease is swapped and the run goes on at the
  claim cursor.  An exercise without a row takes over the
  run that recorded last, or draws a new one.
-/
def resume
    (run : Option ExerciseRun)
    (records : List InjectRecord)
    (startedAt : Option Nat)
    (lease token : String) : ExerciseRun :=
  match run with
  | some row =>
      { row with
        lease := lease
        resumeFrom := row.nextSeq }
  | none =>
      beginRun ((lastRun records startedAt).getD token) lease

theorem lastRun_recorded
    {records : List InjectRecord}
    {startedAt : Option Nat}
    {runId : String}
    (hLast : lastRun records startedAt = some runId) :
    ∃ r ∈ records, r.runId = runId := by
  unfold lastRun at hLast
  rcases Option.map_eq_some_iff.mp hLast with ⟨r, hR, hId⟩
  refine ⟨r, ?_, hId⟩
  have hMem := List.mem_of_getLast? hR
  cases startedAt with
  | none => exact hMem
  | some time => exact List.mem_of_mem_filter hMem

end ScenarioRuns

end TrueNorth
