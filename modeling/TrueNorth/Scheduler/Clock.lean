import TrueNorth.Lib.Runs
import TrueNorth.Scheduler.Bookings

/-
  The scheduler's clock (scheduler/clock.py `tick`), and runs
  of the clock, the API and the workers.

  A pass of the clock commits after each booking, so each
  booking it handles is a step of its own.  `tickActions`
  are the steps of a whole pass.

  Key definitions include:
    * `Pass`
    * `World.clock`
    * `Action`
    * `World.step`
    * `World.tickActions`
-/

--------
-- One Booking of a Pass
--------

namespace TrueNorth

namespace Scheduler

/-
  The steps of a pass, each with what it is told for one
  booking: a new id, whether a maintenance window holds the
  build, and whether the range operation is accepted.
-/
inductive Pass where
| createRange (rangeId : Nat)
| provision
    (held accepted : Bool)
    (exerciseId : Nat)
| buildActive (held accepted : Bool)
| activate (held : Bool)
| complete (accepted : Bool)
| retry (accepted : Bool)
| lapse
deriving DecidableEq

/- The bookings a step of the pass is for. -/
def Pass.due
    (cfg : Settings)
    (now : Instant)
    (evt : ScheduledEvent) :
    Pass → Bool
| .createRange _ =>
    evt.state = .scheduled && evt.rangeId.isNone &&
      evt.templateId.isSome &&
      evt.startTime ≤ now + cfg.lead && evt.endTime > now &&
      evt.session.isNone
| .provision .. =>
    evt.state = .scheduled && evt.rangeId.isSome &&
      evt.startTime ≤ now + cfg.lead && evt.endTime > now
| .buildActive .. =>
    evt.state = .active && evt.rangeId.isSome &&
      evt.endTime > now
| .activate _ =>
    (evt.state = .scheduled || evt.state = .provisioning) &&
      evt.startTime ≤ now
| .complete _ =>
    evt.state = .active && evt.endTime ≤ now - cfg.grace
| .retry _ =>
    (evt.state = .completed || evt.state = .cancelled) &&
      evt.autoProvisioned && evt.rangeId.isSome
| .lapse =>
    evt.state = .pendingApproval && evt.endTime ≤ now

namespace World

/- An id that no row mentions, as a random one does not. -/
def unusedRange
    (w : World)
    (rangeId : Nat) : Bool :=
  (w.ranges.get? rangeId).isNone &&
    !w.built.contains rangeId &&
    w.events.entries.all (fun entry =>
      entry.2.rangeId ≠ some rangeId) &&
    w.exercises.entries.all (fun entry =>
      entry.2.rangeId ≠ some rangeId)

/- Step 0: a range of the booking's template. -/
def createRange
    (w : World)
    (id rangeId : Nat)
    (evt : ScheduledEvent) : World :=
  if w.unusedRange rangeId then
    { w with
      ranges :=
        w.ranges.set rangeId
          { tenantId := evt.tenantId
            state := .created
            lab := false }
      events :=
        w.events.set id { evt with rangeId := some rangeId } }
  else
    w

/- The exercise of a booking's scenario, once. -/
def createExercise
    (w : World)
    (id exerciseId : Nat) : World :=
  match w.events.get? id with
  | none => w
  | some evt =>
      if evt.scenarioId.isSome && evt.exerciseId.isNone &&
          (w.exercises.get? exerciseId).isNone then
        { w with
          exercises :=
            w.exercises.set exerciseId
              { tenantId := evt.tenantId
                rangeId := evt.rangeId }
          events :=
            w.events.set id
              { evt with exerciseId := some exerciseId } }
      else
        w

/- The window holds a build; a range that is up needs none. -/
def heldByWindow
    (w : World)
    (rangeId : Nat)
    (held : Bool) : Bool :=
  match w.ranges.get? rangeId with
  | none => held
  | some rng => !up rng.state && held

/- Step 1: the range of a booking is built. -/
def provision
    (w : World)
    (id rangeId : Nat)
    (evt : ScheduledEvent)
    (held accepted : Bool)
    (exerciseId : Nat) : World :=
  if w.heldByWindow rangeId held then
    w
  else
    match transition evt .provisioning with
    | none => w
    | some evt' =>
        (((w.setEvent id evt').provisionForBooking id rangeId
          accepted).1).createExercise id exerciseId

/- Step 1b: a booking under way whose range is not built. -/
def buildActive
    (w : World)
    (id rangeId : Nat)
    (held accepted : Bool) : World :=
  match w.ranges.get? rangeId with
  | none => w
  | some rng =>
      if rng.state ≠ .created || w.heldByWindow rangeId held
      then w
      else (w.provisionForBooking id rangeId accepted).1

/- A move of the clock; whoever was first has won. -/
def claim
    (w : World)
    (id : Nat)
    (evt : ScheduledEvent)
    (target : EventState) : World :=
  match transition evt target with
  | none => w
  | some evt' => w.setEvent id evt'

/- One booking of a step of the pass. -/
def clock
    (cfg : Settings)
    (w : World)
    (now : Instant)
    (id : Nat)
    (pass : Pass) : World :=
  match w.events.get? id with
  | none => w
  | some evt =>
      if !pass.due cfg now evt then
        w
      else
        match pass, evt.rangeId with
        | .createRange rangeId, _ =>
            w.createRange id rangeId evt
        | .provision held accepted exerciseId, some rangeId =>
            w.provision id rangeId evt held accepted exerciseId
        | .buildActive held accepted, some rangeId =>
            w.buildActive id rangeId held accepted
        | .activate held, _ =>
            if held && evt.state = .scheduled &&
                evt.endTime > now then
              w
            else
              w.claim id evt .active
        | .complete accepted, _ =>
            (w.claim id evt .completed).releaseRange id accepted
        | .retry accepted, _ => w.releaseRange id accepted
        | .lapse, _ => w.claim id evt .cancelled
        | .provision .., none => w
        | .buildActive .., none => w

end World

end Scheduler

end TrueNorth

--------
-- Runs
--------

namespace TrueNorth

namespace Scheduler

inductive Action where
| create (id : Nat) (body : EventIn) (ans : Answers)
| update (id : Nat) (body : EventIn) (ans : Answers)
| schedule (tenantId id : Nat) (ans : Answers)
| activate (tenantId id : Nat) (allowed : Bool)
| complete (tenantId id : Nat) (allowed : Bool)
| cancel (tenantId id : Nat) (allowed accepted : Bool)
| approve
    (tenantId id : Nat)
    (now : Instant)
    (ans : Answers)
| reject (tenantId id : Nat) (allowed : Bool)
| propose
    (tenantId id : Nat)
    (now start stop : Instant)
    (clear : Bool)
    (ans : Answers)
| accept
    (tenantId id : Nat)
    (now : Instant)
    (ans : Answers)
| decline (tenantId id : Nat) (allowed : Bool)
| clock (now : Instant) (id : Nat) (pass : Pass)
| worker (rangeId : Nat) (state : RangeOps.RangeState)
deriving DecidableEq

namespace World

variable (cfg : Settings)

/- What a request answers; a refusal changes nothing. -/
def settle
    (w : World) :
    Except Refusal World → World
| .ok w' => w'
| .error _ => w

def step
    (w : World) :
    Action → World
| .create id body ans =>
    if (w.events.get? id).isSome then w
    else w.settle (w.create cfg id body ans)
| .update id body ans => w.settle (w.update cfg id body ans)
| .schedule tenantId id ans =>
    w.settle (w.schedule cfg tenantId id ans)
| .activate tenantId id allowed =>
    w.settle (w.activate tenantId id allowed)
| .complete tenantId id allowed =>
    w.settle (w.complete tenantId id allowed)
| .cancel tenantId id allowed accepted =>
    w.settle (w.cancel tenantId id allowed accepted)
| .approve tenantId id now ans =>
    w.settle (w.approve cfg tenantId id now ans)
| .reject tenantId id allowed =>
    w.settle (w.reject tenantId id allowed)
| .propose tenantId id now start stop clear ans =>
    w.settle
      (w.propose cfg tenantId id now start stop clear ans)
| .accept tenantId id now ans =>
    w.settle (w.accept cfg tenantId id now ans)
| .decline tenantId id allowed =>
    w.settle (w.decline tenantId id allowed)
| .clock now id pass => w.clock cfg now id pass
| .worker rangeId state => w.workerReports rangeId state

--------
-- Whole Passes
--------

variable (cfg : Settings)

/- `_due`: at most 500 bookings, by start. -/
def due
    (w : World)
    (now : Instant)
    (pass : Nat → Pass) : List Nat :=
  (((w.events.entries.filter (fun entry =>
    (pass entry.1).due cfg now entry.2)).mergeSort
      (fun e f => e.2.startTime ≤ f.2.startTime)).take
        500).map Prod.fst

/- The actions of the steps of a pass, one after another. -/
def passActions
    (now : Instant) :
    World → List (Nat → Pass) → List Action
| _, [] => []
| w, pass :: passes =>
    let actions := (w.due cfg now pass).map
      (fun id => Action.clock now id (pass id))
    actions ++
      passActions now (Runs.run (step cfg) w actions) passes

/-
  What a pass is told of each booking: an answer for each of
  its steps.
-/
structure TickAnswers where
  newRange : Nat → Nat
  newExercise : Nat → Nat
  held : Nat → Bool
  accepts : Nat → Bool
  acceptsActive : Nat → Bool
  acceptsCompleted : Nat → Bool
  acceptsRetry : Nat → Bool

/-
  `tick`: the steps of the pass, in the source's order.  A
  booking due to be built and still scheduled after step 1
  is one a maintenance window holds (`held`).
-/
def tickActions
    (w : World)
    (now : Instant)
    (ans : TickAnswers) : List Action :=
  let provision := fun id =>
    Pass.provision (ans.held id) (ans.accepts id)
      (ans.newExercise id)
  let created := passActions cfg now w
    [fun id => .createRange (ans.newRange id)]
  let w' := Runs.run (step cfg) w created
  let held := w'.due cfg now provision
  created ++ passActions cfg now w'
    [provision,
      fun id =>
        .buildActive (ans.held id) (ans.acceptsActive id),
      fun id => .activate (held.contains id),
      fun id => .complete (ans.acceptsCompleted id),
      fun id => .retry (ans.acceptsRetry id),
      fun _ => .lapse]

end World

/- A step of the API, of a worker or of the clock, or a pass. -/
inductive Command where
| act (action : Action)
| tick (now : Instant) (ans : World.TickAnswers)

namespace World

variable (cfg : Settings)

/- The actions a command comes to. -/
def actions
    (w : World) :
    Command → List Action
| .act action => [action]
| .tick now ans => w.tickActions cfg now ans

def exec
    (w : World)
    (c : Command) : World :=
  Runs.run (step cfg) w (w.actions cfg c)

/- What every action preserves, every command preserves. -/
theorem exec_invariant
    (Inv : World → Prop)
    (hStep : ∀ w a, Inv w → Inv (step cfg w a))
    (w : World)
    (c : Command)
    (hInv : Inv w) :
    Inv (exec cfg w c) :=
  Runs.run_invariant Inv hStep hInv _

end World

end Scheduler

end TrueNorth
