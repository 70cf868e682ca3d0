import TrueNorth.Lib.Checks
import TrueNorth.Scheduler.Release

/-
  What the API does with a booking (scheduler/router.py,
  scheduler/approval.py), checked as the source checks it,
  under the booking lock.

  Who may ask, and the checks of a request that read nothing
  of the bookings and ranges, are an answer the operation is
  given, and so is whether the cluster has room.

  Key definitions include:
    * `World.conflicts`
    * `World.create`
    * `World.update`
    * `World.schedule`
    * `World.approve`
    * `World.accept`
    * `World.cancel`
-/

--------
-- Requests
--------

namespace TrueNorth

namespace Scheduler

/- `EventIn`, and the caller's tenant. -/
structure EventIn where
  tenantId : Nat
  startTime : Instant
  endTime : Instant
  rangeId : Option Nat
  exerciseId : Option Nat
  templateId : Option Nat
  scenarioId : Option Nat
  instructorId : Option Nat
  classId : Option Nat
  rangeMode : Option RangeMode
  draft : Bool
deriving DecidableEq

structure Answers where
  -- the checks made elsewhere pass
  allowed : Bool
  -- it fits the cluster, or the policy is to warn
  room : Bool
  -- who teaches when the request names no one
  teacher : Option Nat
  -- the mode of the class's course
  courseMode : RangeMode
  -- what `demand_for` and `session_demand` come to
  demand : Resources
deriving DecidableEq

/- Why another booking stands in the way. -/
inductive Clash where
| range (id : Nat)
| instructor (id : Nat)
deriving DecidableEq

inductive Refusal where
| times
| refused
| notFound
| destroyed
| lab
| otherRange
| mode
| otherClass
| state (s : EventState)
| clash (clashes : List Clash)
| noRoom
| noApproval
| noProposal
| over
deriving DecidableEq

--------
-- Checks
--------

open Checks

namespace World

variable (cfg : Settings)

/- The bookings that hold what they name, by start. -/
def others
    (w : World)
    (exclude : Option Nat) : List (Nat × ScheduledEvent) :=
  (w.events.entries.filter (fun entry =>
    entry.2.state.holding && some entry.1 ≠ exclude)).mergeSort
      (fun e f => e.2.startTime ≤ f.2.startTime)

/- `conflicts`: double bookings. -/
def conflicts
    (w : World)
    (start stop : Instant)
    (rangeId instructorId exclude : Option Nat) :
    List Clash :=
  (match rangeId with
  | none => []
  | some rangeId =>
      ((w.others exclude).filter (fun entry =>
        entry.2.rangeId = some rangeId &&
          entry.2.startTime < stop + cfg.reach &&
          entry.2.endTime > start - cfg.reach)).map
            (fun entry => Clash.range entry.1)) ++
  (match instructorId with
  | none => []
  | some instructorId =>
      ((w.others exclude).filter (fun entry =>
        entry.2.instructorId = some instructorId &&
          entry.2.startTime < stop &&
          entry.2.endTime > start)).map
            (fun entry => Clash.instructor entry.1))

/- `_admit` in the router. -/
def admitBooking
    (w : World)
    (start stop : Instant)
    (rangeId instructorId exclude : Option Nat)
    (room : Bool) : Except Refusal Unit := do
  let clash :=
    w.conflicts cfg start stop rangeId instructorId exclude
  refuseIf (clash ≠ []) (.clash clash)
  refuseIf (!room) .noRoom

/- `resolve_range`, of a range no class owns. -/
def resolveRange
    (w : World)
    (tenantId : Nat) :
    Option Nat → Except Refusal Unit
| none => .ok ()
| some id =>
    match w.ranges.get? id with
    | none => .error .notFound
    | some rng => do
        refuseIf (rng.tenantId ≠ tenantId) .notFound
        refuseIf
          (rng.state = .destroying || rng.state = .destroyed)
          .destroyed
        refuseIf rng.lab .lab

/- `resolve_exercise`: a linked exercise brings its range. -/
def resolveExercise
    (w : World)
    (tenantId : Nat)
    (exerciseId rangeId : Option Nat) :
    Except Refusal (Option Nat) :=
  match exerciseId with
  | none => .ok rangeId
  | some id =>
      match w.exercises.get? id with
      | none => .error .notFound
      | some ex => do
          refuseIf (ex.tenantId ≠ tenantId) .notFound
          refuseIf (rangeId.isSome && rangeId ≠ ex.rangeId)
            .otherRange
          .ok ex.rangeId

/- The range a request books, the exercise's included. -/
def bookedRange
    (w : World)
    (body : EventIn) : Except Refusal (Option Nat) := do
  w.resolveRange body.tenantId body.rangeId
  let rangeId ←
    w.resolveExercise body.tenantId body.exerciseId
      body.rangeId
  w.resolveRange body.tenantId rangeId
  .ok rangeId

/- `check_mode`, of the mode a class session is to have. -/
def checkMode
    (body : EventIn)
    (rangeId : Option Nat) :
    Option RangeMode → Except Refusal Unit
| some .individual => do
    refuseIf body.templateId.isNone .mode
    refuseIf
      (rangeId.isSome || body.exerciseId.isSome ||
        body.scenarioId.isSome) .mode
| _ => .ok ()

/- A booking of the caller's tenant. -/
def owned
    (w : World)
    (tenantId id : Nat) : Except Refusal ScheduledEvent :=
  match w.events.get? id with
  | none => .error .notFound
  | some evt =>
      if evt.tenantId = tenantId then .ok evt
      else .error .notFound

end World

end Scheduler

end TrueNorth

--------
-- Bookings
--------

namespace TrueNorth

namespace Scheduler

open Checks

namespace World

variable (cfg : Settings)

/- What `create_event` books. -/
def newEvent
    (body : EventIn)
    (ans : Answers)
    (rangeId : Option Nat) : ScheduledEvent :=
  { tenantId := body.tenantId
    state :=
      if body.draft then .draft
      else if body.classId.isSome then .pendingApproval
      else .scheduled
    startTime := body.startTime
    endTime := body.endTime
    rangeId := rangeId
    templateId := body.templateId
    instructorId := body.instructorId.or ans.teacher
    scenarioId := body.scenarioId
    exerciseId := body.exerciseId
    session :=
      body.classId.map
        (fun cls => ⟨cls, body.rangeMode.getD ans.courseMode⟩)
    approval := body.classId.map (fun _ => ⟨none⟩)
    size := ans.demand
    autoProvisioned := false }

/- `create_event`, under a new id. -/
def create
    (w : World)
    (id : Nat)
    (body : EventIn)
    (ans : Answers) : Except Refusal World := do
  refuseIf (body.endTime ≤ body.startTime) .times
  refuseIf (!ans.allowed) .refused
  let rangeId ← w.bookedRange body
  refuseIf (body.classId.isNone && body.rangeMode.isSome) .mode
  let evt := newEvent body ans rangeId
  checkMode body rangeId (evt.session.map ClassSession.rangeMode)
  -- nothing is checked or held for a draft or a class session
  only (!body.draft && body.classId.isNone)
    (w.admitBooking cfg body.startTime body.endTime rangeId
      evt.instructorId none ans.room)
  .ok (w.setEvent id evt)

/- What `update_event` makes of a booking. -/
def edited
    (evt : ScheduledEvent)
    (body : EventIn)
    (ans : Answers)
    (rangeId : Option Nat) : ScheduledEvent :=
  { evt with
    startTime := body.startTime
    endTime := body.endTime
    rangeId := rangeId
    templateId := body.templateId
    instructorId := body.instructorId.or evt.instructorId
    scenarioId := body.scenarioId
    exerciseId := body.exerciseId
    session :=
      evt.session.map (fun s =>
        { s with rangeMode := body.rangeMode.getD s.rangeMode })
    size := ans.demand }

/-
  `_held_change`, the mode included: what an edit changes
  that a booking holds.
-/
def heldChange (evt evt' : ScheduledEvent) : Bool :=
  evt.startTime ≠ evt'.startTime || evt.endTime ≠ evt'.endTime ||
    evt.size ≠ evt'.size || evt.templateId ≠ evt'.templateId ||
    evt.rangeId ≠ evt'.rangeId ||
    evt.instructorId ≠ evt'.instructorId ||
    evt.session ≠ evt'.session

/- `withdraw_proposal`: an open proposal is moot. -/
def withdrawn (evt : ScheduledEvent) : ScheduledEvent :=
  { evt with approval := evt.approval.map (fun _ => ⟨none⟩) }

/- `back_to_approval`. -/
def backToApproval
    (evt : ScheduledEvent) : Except Refusal ScheduledEvent :=
  match evt.approval with
  | none => .error .noApproval
  | some _ =>
      match transition evt .pendingApproval with
      | none => .error (.state evt.state)
      | some evt' => .ok evt'

/- The edit of an approved session that asks again. -/
def reapproves (evt evt' : ScheduledEvent) : Bool :=
  evt.session.isSome && evt.state = .scheduled &&
    heldChange evt evt'

/- `update_event`. -/
def update
    (w : World)
    (id : Nat)
    (body : EventIn)
    (ans : Answers) : Except Refusal World := do
  refuseIf (body.endTime ≤ body.startTime) .times
  let evt ← w.owned body.tenantId id
  refuseIf (!ans.allowed) .refused
  refuseIf (!evt.state.editable) (.state evt.state)
  refuseIf
    (body.classId.isSome &&
      body.classId ≠ evt.session.map ClassSession.classId)
    .otherClass
  let rangeId ← w.bookedRange body
  refuseIf (evt.session.isNone && body.rangeMode.isSome) .mode
  let evt' := edited evt body ans rangeId
  checkMode body rangeId
    (evt'.session.map ClassSession.rangeMode)
  only (evt.state = .scheduled && !reapproves evt evt')
    (w.admitBooking cfg body.startTime body.endTime rangeId
      evt'.instructorId (some id) ans.room)
  let evt'' ←
    if reapproves evt evt' then backToApproval evt'
    else if evt.state = .pendingApproval && heldChange evt evt'
    then .ok (withdrawn evt')
    else .ok evt'
  .ok (w.setEvent id evt'')

/- `_move`, to a state other than cancelled. -/
def move
    (w : World)
    (id : Nat)
    (evt : ScheduledEvent)
    (target : EventState) : Except Refusal World :=
  match transition evt target with
  | none => .error (.state evt.state)
  | some evt' => .ok (w.setEvent id evt')

/- `schedule_event`. -/
def schedule
    (w : World)
    (tenantId id : Nat)
    (ans : Answers) : Except Refusal World := do
  let evt ← w.owned tenantId id
  refuseIf (!ans.allowed) .refused
  if evt.approval.isSome then
    if evt.state = .pendingApproval || evt.state = .scheduled
    then .ok w
    else w.move id evt .pendingApproval
  else
    only (evt.state = .draft) (do
      w.resolveRange tenantId evt.rangeId
      w.admitBooking cfg evt.startTime evt.endTime evt.rangeId
        evt.instructorId (some id) ans.room)
    w.move id evt .scheduled

/- `activate_event`. -/
def activate
    (w : World)
    (tenantId id : Nat)
    (allowed : Bool) : Except Refusal World := do
  let evt ← w.owned tenantId id
  refuseIf (!allowed) .refused
  w.move id evt .active

/- `complete_event`: the range is left to the clock. -/
def complete
    (w : World)
    (tenantId id : Nat)
    (allowed : Bool) : Except Refusal World := do
  let evt ← w.owned tenantId id
  refuseIf (!allowed) .refused
  w.move id evt .completed

/- `cancel_event`: what the clock built is torn down. -/
def cancel
    (w : World)
    (tenantId id : Nat)
    (allowed accepted : Bool) : Except Refusal World := do
  let evt ← w.owned tenantId id
  refuseIf (!allowed) .refused
  let w' ← w.move id evt .cancelled
  .ok
    (if evt.state = .cancelled then w'
    else w'.releaseRange id accepted)

end World

end Scheduler

end TrueNorth

--------
-- Approvals
--------

namespace TrueNorth

namespace Scheduler

open Checks

namespace World

variable (cfg : Settings)

/- The range of a session to approve can be built. -/
def approvableRange
    (w : World) :
    Option Nat → Except Refusal Unit
| none => .ok ()
| some id =>
    match w.ranges.get? id with
    | none => .error .destroyed
    | some rng => do
        refuseIf
          (rng.state = .destroying || rng.state = .destroyed)
          .destroyed
        refuseIf rng.lab .lab

/-
  `_admit` in approval.py.  `clear`: inside the class's dates
  and of no maintenance window, asked for a proposed time.
-/
def admitApproval
    (w : World)
    (id : Nat)
    (evt : ScheduledEvent)
    (now start stop : Instant)
    (clear room : Bool) : Except Refusal Unit := do
  refuseIf (stop ≤ now) .over
  w.approvableRange evt.rangeId
  let clash :=
    w.conflicts cfg start stop evt.rangeId evt.instructorId
      (some id)
  refuseIf (clash ≠ [] || !clear) (.clash clash)
  refuseIf (!room) .noRoom

/- A booking that awaits approval, and its approval. -/
def pending
    (evt : ScheduledEvent) : Except Refusal BookingApproval :=
  match evt.approval with
  | none => .error .noApproval
  | some approval =>
      if evt.state = .pendingApproval then .ok approval
      else .error (.state evt.state)

/- `_size`: an individual session's, by the roll call now. -/
def sized
    (evt : ScheduledEvent)
    (demand : Resources) : ScheduledEvent :=
  if evt.session.map ClassSession.rangeMode = some .individual
  then { evt with size := demand }
  else evt

/- `approve`. -/
def approve
    (w : World)
    (tenantId id : Nat)
    (now : Instant)
    (ans : Answers) : Except Refusal World := do
  let evt ← w.owned tenantId id
  if evt.approval.isSome && evt.state = .scheduled then
    .ok w
  else
    let _ ← pending evt
    refuseIf (!ans.allowed) .refused
    let evt := sized evt ans.demand
    w.admitApproval cfg id evt now evt.startTime evt.endTime
      true ans.room
    w.move id (withdrawn evt) .scheduled

/- `reject`. -/
def reject
    (w : World)
    (tenantId id : Nat)
    (allowed : Bool) : Except Refusal World := do
  let evt ← w.owned tenantId id
  refuseIf (!allowed) .refused
  if evt.approval.isSome && evt.state = .rejected then
    .ok w
  else
    let _ ← pending evt
    w.move id (withdrawn evt) .rejected

/- `propose`. -/
def propose
    (w : World)
    (tenantId id : Nat)
    (now start stop : Instant)
    (clear : Bool)
    (ans : Answers) : Except Refusal World := do
  let evt ← w.owned tenantId id
  let _ ← pending evt
  refuseIf (!ans.allowed) .refused
  refuseIf (stop ≤ start || start ≤ now) .times
  w.admitApproval cfg id evt now start stop clear ans.room
  .ok
    (w.setEvent id
      { evt with approval := some ⟨some (start, stop)⟩ })

/- `accept`: the session moves to the proposed time. -/
def accept
    (w : World)
    (tenantId id : Nat)
    (now : Instant)
    (ans : Answers) : Except Refusal World := do
  let evt ← w.owned tenantId id
  let approval ← pending evt
  match approval.proposed with
  | none => .error .noProposal
  | some (start, stop) => do
      refuseIf (!ans.allowed) .refused
      let evt := sized evt ans.demand
      w.admitApproval cfg id evt now start stop true ans.room
      w.move id
        { withdrawn evt with
          startTime := start
          endTime := stop } .scheduled

/- `decline`. -/
def decline
    (w : World)
    (tenantId id : Nat)
    (allowed : Bool) : Except Refusal World := do
  let evt ← w.owned tenantId id
  let approval ← pending evt
  refuseIf (!allowed) .refused
  refuseIf approval.proposed.isNone .noProposal
  .ok (w.setEvent id (withdrawn evt))

end World

end Scheduler

end TrueNorth
