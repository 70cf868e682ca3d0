import TrueNorth.Scheduler.Clock

/-
  The ranges a class owns (classes/ranges.py), which its
  sessions are built on and no other booking may name, and
  runs of the API, the workers and the clock with them.

  Step 00 of the clock's pass builds a class's ranges and
  points a collective session that has none at the shared
  one; a class's range is torn down by its class alone.

  Key definitions include:
    * `ClassRange`, `ClassWorld`
    * `ClassWorld.update`
    * `ClassWorld.attachRange`
    * `ClassWorld.classTick`
    * `ClassWorld.step`
-/

--------
-- The Ranges of a Class
--------

namespace TrueNorth

namespace Scheduler

open RangeOps (RangeState)

/- One row for each class, template and seat. -/
structure ClassRange where
  classId : Nat
  templateId : Nat
  -- the Student's entry; none for the shared range
  seat : Option Nat
  rangeId : Option Nat
  tornDown : Bool
deriving DecidableEq

structure ClassWorld where
  world : World
  classRanges : List ClassRange

namespace ClassWorld

/- No booking and no class range yet. -/
def fresh
    (ranges : Dict Nat Range)
    (exercises : Dict Nat Exercise) : ClassWorld where
  world := .fresh ranges exercises
  classRanges := []

/- `is_class_range`: built for a class and not torn down. -/
def isClassRange (cw : ClassWorld) : Option Nat → Bool
| none => false
| some rangeId =>
    cw.classRanges.any (fun row =>
      row.rangeId = some rangeId && !row.tornDown)

/- `_of_class`: one of this class's ranges. -/
def ofClass
    (cw : ClassWorld)
    (classId : Nat)
    (rangeId : Option Nat) : Bool :=
  rangeId.isSome && cw.classRanges.any (fun row =>
    row.classId = classId && row.rangeId = rangeId)

/- The row of a seat, or of the shared range. -/
def row
    (cw : ClassWorld)
    (classId templateId : Nat)
    (seat : Option Nat) : Option ClassRange :=
  cw.classRanges.find? (fun row =>
    row.classId = classId && row.templateId = templateId &&
      row.seat = seat)

/- The row in the place of the one of its seat. -/
def setRow
    (cw : ClassWorld)
    (new : ClassRange) : ClassWorld :=
  { cw with
    classRanges :=
      new :: cw.classRanges.filter (fun row =>
        !(row.classId = new.classId &&
          row.templateId = new.templateId &&
          row.seat = new.seat)) }

def setRange
    (cw : ClassWorld)
    (rangeId : Nat)
    (rng : Range) : ClassWorld :=
  { cw with
    world :=
      { cw.world with
        ranges := cw.world.ranges.set rangeId rng } }

end ClassWorld

end Scheduler

end TrueNorth

--------
-- Bookings Beside Class Ranges
--------

namespace TrueNorth

namespace Scheduler

open Checks

namespace ClassWorld

variable (cfg : Settings)

/- `resolve_range`: `keep` is the one a session uses. -/
def resolveRange
    (cw : ClassWorld)
    (tenantId : Nat)
    (keep rangeId : Option Nat) : Except Refusal Unit := do
  cw.world.resolveRange tenantId rangeId
  refuseIf (rangeId ≠ keep && cw.isClassRange rangeId) .refused

/- The range a request books, the exercise's included. -/
def bookedRange
    (cw : ClassWorld)
    (keep : Option Nat)
    (body : EventIn) : Except Refusal (Option Nat) := do
  cw.resolveRange body.tenantId keep body.rangeId
  let rangeId ←
    cw.world.resolveExercise body.tenantId body.exerciseId
      body.rangeId
  cw.resolveRange body.tenantId keep rangeId
  .ok rangeId

def withWorld
    (cw : ClassWorld)
    (w : World) : ClassWorld :=
  { cw with world := w }

/- `create_event`, which keeps no class's range. -/
def create
    (cw : ClassWorld)
    (id : Nat)
    (body : EventIn)
    (ans : Answers) : Except Refusal ClassWorld := do
  let _ ← cw.bookedRange none body
  let w ← cw.world.create cfg id body ans
  .ok (cw.withWorld w)

/- `schedule_event`. -/
def schedule
    (cw : ClassWorld)
    (tenantId id : Nat)
    (ans : Answers) : Except Refusal ClassWorld := do
  let evt ← cw.world.owned tenantId id
  refuseIf
    (evt.approval.isNone && evt.state = .draft &&
      cw.isClassRange evt.rangeId) .refused
  let w ← cw.world.schedule cfg tenantId id ans
  .ok (cw.withWorld w)

/-
  `_updated_mode`, the range: an individual session lets go
  of its class's shared range, a collective one keeps it
  unless the edit names another.
-/
def keptRange
    (cw : ClassWorld)
    (evt : ScheduledEvent)
    (body : EventIn)
    (rangeId : Option Nat) :
    Option RangeMode → Option Nat
| none => rangeId
| some .individual =>
    if rangeId = evt.rangeId && cw.isClassRange rangeId then
      none
    else rangeId
| some .collective =>
    if body.rangeId.isNone && body.exerciseId.isNone &&
        cw.isClassRange evt.rangeId then
      evt.rangeId
    else rangeId

/- The mode an edit leaves a class session. -/
def updatedMode
    (evt : ScheduledEvent)
    (body : EventIn) : Option RangeMode :=
  evt.session.map (fun s => body.rangeMode.getD s.rangeMode)

/- What an edit writes: one that asks again, or is moot. -/
def editWritten
    (evt evt' : ScheduledEvent) :
    Except Refusal ScheduledEvent :=
  if World.reapproves evt evt' then World.backToApproval evt'
  else if evt.state = .pendingApproval &&
      World.heldChange evt evt' then
    .ok (World.withdrawn evt')
  else .ok evt'

/- `update_event`. -/
def update
    (cw : ClassWorld)
    (id : Nat)
    (body : EventIn)
    (ans : Answers) : Except Refusal ClassWorld := do
  refuseIf (body.endTime ≤ body.startTime) .times
  let evt ← cw.world.owned body.tenantId id
  refuseIf (!ans.allowed) .refused
  refuseIf (!evt.state.editable) (.state evt.state)
  refuseIf
    (body.classId.isSome &&
      body.classId ≠ evt.session.map ClassSession.classId)
    .otherClass
  let named ← cw.bookedRange evt.rangeId body
  refuseIf (evt.session.isNone && body.rangeMode.isSome) .mode
  let rangeId :=
    cw.keptRange evt body named (updatedMode evt body)
  let evt' := World.edited evt body ans rangeId
  World.checkMode body rangeId
    (evt'.session.map ClassSession.rangeMode)
  only (evt.state = .scheduled && !World.reapproves evt evt')
    (cw.world.admitBooking cfg body.startTime body.endTime
      rangeId evt'.instructorId (some id) ans.room)
  let evt'' ← editWritten evt evt'
  .ok (cw.withWorld (cw.world.setEvent id evt''))

/- `release_range`: a class's range outlives its sessions. -/
def releaseRange
    (cw : ClassWorld)
    (w : World)
    (id : Nat)
    (accepted : Bool) : World :=
  match w.events.get? id with
  | none => w
  | some evt =>
      if evt.autoProvisioned && cw.isClassRange evt.rangeId then
        w.disown id
      else w.releaseRange id accepted

/- `cancel_event`. -/
def cancel
    (cw : ClassWorld)
    (tenantId id : Nat)
    (allowed accepted : Bool) :
    Except Refusal ClassWorld := do
  let evt ← cw.world.owned tenantId id
  refuseIf (!allowed) .refused
  let w' ← cw.world.move id evt .cancelled
  .ok (cw.withWorld
    (if evt.state = .cancelled then w'
    else cw.releaseRange w' id accepted))

/- One booking of a step of the pass. -/
def clock
    (cw : ClassWorld)
    (now : Instant)
    (id : Nat)
    (pass : Pass) : ClassWorld :=
  match pass, cw.world.events.get? id with
  | .complete accepted, some evt =>
      if pass.due cfg now evt then
        cw.withWorld
          (cw.releaseRange (cw.world.claim id evt .completed) id
            accepted)
      else cw
  | .retry accepted, some evt =>
      if pass.due cfg now evt then
        cw.withWorld (cw.releaseRange cw.world id accepted)
      else cw
  | _, _ => cw.withWorld (cw.world.clock cfg now id pass)

end ClassWorld

end Scheduler

end TrueNorth

--------
-- The Class Clock
--------

namespace TrueNorth

namespace Scheduler

open RangeOps (RangeState)

/-
  Step 00 for one session of an open class: its shared range,
  or the seat of one Student.  `newRange` is none when the
  tick builds no more.
-/
inductive ClassPass where
| shared (newRange : Option Nat) (accepted : Bool)
| seat
    (entryId : Nat)
    (newRange : Option Nat)
    (accepted : Bool)
deriving DecidableEq

namespace ClassWorld

/- An id that no row mentions, as a random one does not. -/
def unusedRange
    (cw : ClassWorld)
    (rangeId : Nat) : Bool :=
  cw.world.unusedRange rangeId &&
    cw.classRanges.all (fun row => row.rangeId ≠ some rangeId)

/- The row's range, when it stands. -/
def standing
    (cw : ClassWorld)
    (row : ClassRange) : Option (Nat × Range) :=
  match row.rangeId with
  | none => none
  | some rangeId =>
      match cw.world.ranges.get? rangeId with
      | none => none
      | some rng =>
          if row.tornDown || rng.state = .destroying ||
              rng.state = .destroyed then none
          else some (rangeId, rng)

/- `_provision`: a build, or a refusal that waits. -/
def provisionRow
    (cw : ClassWorld)
    (rangeId : Nat)
    (rng : Range)
    (accepted : Bool) : ClassWorld :=
  if buildable rng.state && !rng.lab && accepted then
    cw.setRange rangeId { rng with state := .provisioning }
  else cw

/- `_row`: the row of a seat, made when there is none. -/
def rowOrNew
    (cw : ClassWorld)
    (classId templateId : Nat)
    (seat : Option Nat) : ClassRange :=
  (cw.row classId templateId seat).getD
    { classId := classId
      templateId := templateId
      seat := seat
      rangeId := none
      tornDown := false }

/- `_ensure`: the row's range standing, or being built. -/
def ensure
    (cw : ClassWorld)
    (tenantId : Nat)
    (row : ClassRange)
    (newRange : Option Nat)
    (accepted : Bool) : ClassWorld :=
  match cw.standing row with
  | some (rangeId, rng) =>
      if rng.state = .created then
        cw.provisionRow rangeId rng accepted
      else cw
  | none =>
      match newRange with
      | none => cw.setRow row
      | some rangeId =>
          if cw.unusedRange rangeId then
            let rng : Range :=
              { tenantId := tenantId
                state := .created
                lab := false }
            ((cw.setRow
              { row with
                rangeId := some rangeId
                tornDown := false }).setRange rangeId
                  rng).provisionRow rangeId rng accepted
          else cw

/- `attach_range`: an edit that set one first wins. -/
def attachRange
    (cw : ClassWorld)
    (id rangeId : Nat) : ClassWorld :=
  match cw.world.events.get? id with
  | none => cw
  | some evt =>
      if evt.rangeId.isNone && evt.state.holding then
        cw.withWorld
          (cw.world.setEvent id
            { evt with rangeId := some rangeId })
      else cw

/- `_due`: approved, its lead reached, and not over. -/
def classDue
    (cfg : Settings)
    (now : Instant)
    (evt : ScheduledEvent) : Bool :=
  evt.state.holding && evt.endTime > now &&
    evt.startTime ≤ now + cfg.lead

/- The shared range ensured, and the session pointed at it. -/
def shareRange
    (cw : ClassWorld)
    (id tenantId classId templateId : Nat)
    (newRange : Option Nat)
    (accepted : Bool) : ClassWorld :=
  let cw' := cw.ensure tenantId
    (cw.rowOrNew classId templateId none) newRange accepted
  match cw'.row classId templateId none with
  | none => cw'
  | some row =>
      match row.rangeId with
      | none => cw'
      | some rangeId => cw'.attachRange id rangeId

/- `tick`, of one session. -/
def classTick
    (cfg : Settings)
    (cw : ClassWorld)
    (now : Instant)
    (id : Nat)
    (pass : ClassPass) : ClassWorld :=
  match cw.world.events.get? id with
  | none => cw
  | some evt =>
      match evt.session, evt.templateId with
      | some link, some templateId =>
          if classDue cfg now evt then
            match link.rangeMode, pass with
            | .individual, .seat entryId newRange accepted =>
                cw.ensure evt.tenantId
                  (cw.rowOrNew link.classId templateId
                    (some entryId)) newRange accepted
            | .collective, .shared newRange accepted =>
                if evt.rangeId.isNone ||
                    cw.ofClass link.classId evt.rangeId then
                  cw.shareRange id evt.tenantId link.classId
                    templateId newRange accepted
                else cw
            | _, _ => cw
          else cw
      | _, _ => cw

/-
  `_teardown_if_done`, of a row no session needs any more: a
  range never built is retired, one that stands is sent to
  be destroyed.
-/
def teardown
    (cw : ClassWorld)
    (row : ClassRange)
    (accepted : Bool) : ClassWorld :=
  match row.rangeId with
  | none => cw
  | some rangeId =>
      if row.tornDown || !cw.classRanges.contains row then cw
      else
        let done := cw.setRow { row with tornDown := true }
        match cw.world.ranges.get? rangeId with
        | none => done
        | some rng =>
            if rng.state = .created then
              done.setRange rangeId
                { rng with state := .destroyed }
            else if rng.state = .destroying ||
                rng.state = .destroyed then done
            else if rng.lab || !accepted then cw
            else
              done.setRange rangeId
                { rng with state := .destroying }

end ClassWorld

end Scheduler

end TrueNorth

--------
-- Runs
--------

namespace TrueNorth

namespace Scheduler

inductive ClassAction where
| act (action : Action)
| classTick (now : Instant) (id : Nat) (pass : ClassPass)
| teardown (row : ClassRange) (accepted : Bool)
deriving DecidableEq

namespace ClassWorld

variable (cfg : Settings)

/- What a request answers; a refusal changes nothing. -/
def settle
    (cw : ClassWorld) :
    Except Refusal ClassWorld → ClassWorld
| .ok cw' => cw'
| .error _ => cw

def step
    (cw : ClassWorld) :
    ClassAction → ClassWorld
| .act (.create id body ans) =>
    if (cw.world.events.get? id).isSome then cw
    else cw.settle (cw.create cfg id body ans)
| .act (.update id body ans) =>
    cw.settle (cw.update cfg id body ans)
| .act (.schedule tenantId id ans) =>
    cw.settle (cw.schedule cfg tenantId id ans)
| .act (.cancel tenantId id allowed accepted) =>
    cw.settle (cw.cancel tenantId id allowed accepted)
| .act (.clock now id pass) => cw.clock cfg now id pass
| .act action => cw.withWorld (cw.world.step cfg action)
| .classTick now id pass => cw.classTick cfg now id pass
| .teardown row accepted => cw.teardown row accepted

end ClassWorld

end Scheduler

end TrueNorth
