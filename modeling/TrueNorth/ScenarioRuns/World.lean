import TrueNorth.Lib.Runs
import TrueNorth.ScenarioRuns.Timeline

/-
  One exercise, its run's row and the deliveries of its run
  task, transaction by transaction (worker/exercise_run.py
  `run_scenario_v2`, app/routers/exercises.py).

  A delivery claims an event, reads the exercise's state,
  runs the inject and records the outcome in steps of their
  own: steps of other deliveries and of the API land in
  between, and a worker may die after any of them.

  Key definitions include:
    * `Delivery`
    * `World`
    * `World.step`
    * `World.fired`
-/

--------
-- Deliveries
--------

namespace TrueNorth

namespace ScenarioRuns

/- Where a delivery is. -/
inductive Place where
-- the lease is checked, the exercise to be started
| starting
-- at the head of the loop
| looping
-- the event is claimed, or not; the state is to be read
| checking (claimed : Bool)
| firing
-- the inject was run; its outcome is to be recorded
| recording (status : InjectStatus)
| ended
deriving DecidableEq

structure Delivery where
  runId : String
  lease : Option String
  resumeFrom : Nat
  timeline : List TimelineEvent
  done : List Nat
  idx : Nat
  place : Place
deriving DecidableEq

/- What the dispatch of an inject comes to. -/
inductive Dispatch where
-- no range, or no engine in this worker
| notRun
| ran (status : InjectStatus)
deriving DecidableEq

inductive DeliveryStep where
| start
| next
| check
| fire (dispatch : Dispatch)
| record
-- an exception; `final` when no retry follows
| fail (final : Bool)
| die
deriving DecidableEq

/- An inject that `run_inject` ran. -/
structure Execution where
  worker : Nat
  runId : String
  seq : Nat
deriving DecidableEq

--------
-- Worlds
--------

/-
  `executed` is what happened on the range.  `drawn` are the
  random ids drawn or seen so far: one drawn later is none
  of them.
-/
structure World where
  now : Nat
  state : ExerciseState
  startedAt : Option Nat
  run : Option ExerciseRun
  records : List InjectRecord
  workers : List Delivery
  executed : List Execution
  drawn : List String
deriving DecidableEq

/-
  `start`, `reset` and `pause` read the exercise unlocked
  and write later: `seen` is the state they read.
-/
inductive Action where
| tick (seconds : Nat)
| start
    (seen : ExerciseState)
    (runId lease : String)
| reset (seen : ExerciseState)
| pause (seen : ExerciseState)
| resume (lease token : String)
| close
| withdraw
| deliver
    (taskId : String)
    (lease : Option String)
    (timeline : List TimelineEvent)
| delivery (i : Nat) (step : DeliveryStep)
deriving DecidableEq

namespace World

/- An exercise that has not started. -/
def fresh : World where
  now := 0
  state := .pending
  startedAt := none
  run := none
  records := []
  workers := []
  executed := []
  drawn := []

/- Replace the `i`-th delivery. -/
def put
    (w : World)
    (i : Nat)
    (d : Delivery) : World :=
  { w with workers := w.workers.set i d }

def recorded
    (w : World)
    (runId : String) : List Nat :=
  recordedSeqs w.records runId

/- `record_inject`, for the event the delivery is at. -/
def recordInject
    (w : World)
    (d : Delivery)
    (status : InjectStatus) : World :=
  { w with
    records := w.records ++
      [{ runId := d.runId
         seq := d.idx
         status := status
         createdAt := w.now }] }

/- `run_inject`, for the event the delivery is at. -/
def runInject
    (w : World)
    (i : Nat)
    (d : Delivery) : World :=
  { w with
    executed := w.executed ++
      [{ worker := i
         runId := d.runId
         seq := d.idx }] }

/- The steps of a run executed so far, in order. -/
def fired
    (w : World)
    (runId : String) : List Nat :=
  (w.executed.filter (fun e => e.runId = runId)).map
    Execution.seq

end World

end ScenarioRuns

end TrueNorth

--------
-- Steps
--------

namespace TrueNorth

namespace ScenarioRuns

/- `start_exercise` and `cancel_exercise` move only these. -/
def ExerciseState.isStartable (state : ExerciseState) :
    Bool :=
  state = .pending || state = .running

namespace World

/- `start_exercise`, then what the run has recorded. -/
def startDelivery
    (w : World)
    (i : Nat)
    (d : Delivery) : World :=
  if w.state.isStartable then
    { w with
      state := .running
      startedAt := some (w.startedAt.getD w.now) }.put i
      { d with
        done :=
          w.recorded d.runId ++ List.range d.resumeFrom
        place := .looping }
  else w.put i { d with place := .ended }

/- The head of the loop: pass a done event, claim another. -/
def nextEvent
    (w : World)
    (i : Nat)
    (d : Delivery) : World :=
  if d.idx < d.timeline.length then
    if d.idx ∈ d.done then
      w.put i { d with idx := d.idx + 1 }
    else
      match d.lease with
      | none => w.put i { d with place := .checking true }
      | some lease =>
          match claimEvent w.run w.state lease d.idx with
          | (run, claimed) =>
              { w with run := run }.put i
                { d with place := .checking claimed }
  else w.put i { d with place := .ended }

/- `exercise_state`, after the claim. -/
def checkEvent
    (w : World)
    (i : Nat)
    (d : Delivery)
    (claimed : Bool) : World :=
  if w.state = .running ∧ claimed then
    w.put i { d with place := .firing }
  else w.put i { d with place := .ended }

/- `_fire_event`: a malformed event is recorded, not run. -/
def fireEvent
    (w : World)
    (i : Nat)
    (d : Delivery)
    (event : TimelineEvent)
    (dispatch : Dispatch) : World :=
  match parseEvent event with
  | some _ =>
      (w.recordInject d .failed).put i
        { d with
          idx := d.idx + 1
          place := .looping }
  | none =>
      match dispatch with
      | .notRun =>
          w.put i { d with place := .recording .failed }
      | .ran status =>
          (w.runInject i d).put i
            { d with place := .recording status }

/- The end of `dispatch_inject`: the outcome is recorded. -/
def recordEvent
    (w : World)
    (i : Nat)
    (d : Delivery)
    (status : InjectStatus) : World :=
  (w.recordInject d status).put i
    { d with
      idx := d.idx + 1
      place := .looping }

/- `cancel_exercise`. -/
def cancelExercise (w : World) : World :=
  if w.state.isStartable then
    { w with state := .cancelled }
  else w

/- An exception ends the delivery; the loop's may cancel. -/
def failDelivery
    (w : World)
    (i : Nat)
    (d : Delivery)
    (final : Bool) : World :=
  if final ∧ d.place ≠ .starting ∧ d.place ≠ .ended then
    w.cancelExercise.put i { d with place := .ended }
  else w.put i { d with place := .ended }

def deliveryStep
    (w : World)
    (i : Nat)
    (d : Delivery)
    (step : DeliveryStep) : World :=
  match step with
  | .start =>
      if d.place = .starting then w.startDelivery i d else w
  | .next =>
      if d.place = .looping then w.nextEvent i d else w
  | .check =>
      match d.place with
      | .checking claimed => w.checkEvent i d claimed
      | _ => w
  | .fire dispatch =>
      match d.timeline[d.idx]? with
      | some event =>
          if d.place = .firing then
            w.fireEvent i d event dispatch
          else w
      | none => w
  | .record =>
      match d.place with
      | .recording status => w.recordEvent i d status
      | _ => w
  | .fail final => w.failDelivery i d final
  | .die => w.put i { d with place := .ended }

/-
  A delivery with a lease is superseded unless the row has
  it; one without runs under its task's id.
-/
def deliver
    (w : World)
    (taskId : String)
    (lease : Option String)
    (timeline : List TimelineEvent) : World :=
  let join (runId : String) (lease : Option String)
      (resumeFrom : Nat) : World :=
    { w with
      drawn := taskId :: w.drawn
      workers := w.workers ++
        [{ runId := runId
           lease := lease
           resumeFrom := resumeFrom
           timeline := timeline
           done := []
           idx := 0
           place := .starting }] }
  match lease.filter (fun l => l ≠ "") with
  | none => join taskId none 0
  | some lease =>
      match w.run with
      | none => w
      | some run =>
          if run.lease = lease then
            join run.runId (some lease) run.resumeFrom
          else w

/- Refused requests change nothing. -/
def step (w : World) : Action → World
| .tick seconds => { w with now := w.now + seconds }
| .start seen runId lease =>
    if seen = .pending ∧ runId ∉ w.drawn ∧
        lease ∉ w.drawn then
      { w with
        state := .running
        startedAt := some w.now
        run := some (beginRun runId lease)
        drawn := runId :: lease :: w.drawn }
    else w
| .reset seen =>
    if seen = .completed ∨ seen = .cancelled then
      { w with state := .pending }
    else w
| .pause seen =>
    if seen = .running then { w with state := .paused }
    else w
| .resume lease token =>
    if w.state = .paused ∧ lease ∉ w.drawn ∧
        token ∉ w.drawn then
      { w with
        state := .running
        run := some (ScenarioRuns.resume w.run w.records
          w.startedAt lease token)
        drawn := token :: lease :: w.drawn }
    else w
| .close =>
    if w.state = .running ∨ w.state = .paused then
      { w with state := .completed }
    else w
| .withdraw =>
    if w.state = .pending then { w with state := .cancelled }
    else w
| .deliver taskId lease timeline =>
    w.deliver taskId lease timeline
| .delivery i step =>
    match w.workers[i]? with
    | some d => w.deliveryStep i d step
    | none => w

end World

end ScenarioRuns

end TrueNorth
