import TrueNorth.Scheduler.Lifecycle

/-
  Building and tearing down a booked range on the
  scheduler's behalf (range_lifecycle.py, scheduler/service.py
  `release_range`), and what a worker may report of a range.

  Whether a range operation is accepted is range_ops' to say
  (its windows, operations in flight and recorded VMs): an
  answer the scheduler is given.

  Key definitions include:
    * `World.provisionForBooking`
    * `World.destroyForBooking`
    * `World.releaseRange`
    * `World.workerReports`
-/

--------
-- Builds and Teardowns
--------

namespace TrueNorth

namespace Scheduler

open RangeOps (RangeState)

/- `UP_STATES`: built already, and used as it is. -/
def up (s : RangeState) : Bool :=
  s = .ready || s = .running || s = .stopped ||
    s = .provisioning

/- A build may be asked for. -/
def buildable (s : RangeState) : Bool :=
  !up s && s.canTransitionTo .provisioning

/- The bookings of a range that hold it, without one. -/
def World.holders
    (w : World)
    (rangeId : Nat)
    (exclude : Nat) : List (Nat × ScheduledEvent) :=
  (w.events.entries.filter (fun entry =>
    entry.2.state.holding && entry.2.rangeId = some rangeId &&
      entry.1 ≠ exclude)).mergeSort
        (fun e f => e.2.startTime ≤ f.2.startTime)

namespace World

/-
  `provision_for_booking`, the booking recorded as the owner
  in the same transaction.  The result says whether a build
  was sent.
-/
def provisionForBooking
    (w : World)
    (id rangeId : Nat)
    (accepted : Bool) : World × Bool :=
  match w.ranges.get? rangeId, w.events.get? id with
  | some rng, some evt =>
      if buildable rng.state && !rng.lab && accepted then
        ({ w with
            ranges :=
              w.ranges.set rangeId
                { rng with state := .provisioning }
            events :=
              w.events.set id
                { evt with autoProvisioned := true }
            built := rangeId :: w.built }, true)
      else
        (w, false)
  | _, _ => (w, false)

/-
  `destroy_for_booking`.  Settled: nothing is left for the
  booking to tear down.
-/
def destroyForBooking
    (w : World)
    (id rangeId : Nat)
    (accepted : Bool) : World × Bool :=
  match w.ranges.get? rangeId with
  | none => (w, true)
  | some rng =>
      if rng.state = .destroying || rng.state = .destroyed then
        (w, true)
      else if rng.lab || !accepted then
        (w, false)
      else
        ({ w with
            ranges :=
              w.ranges.set rangeId
                { rng with state := .destroying }
            built := w.built.filter (· ≠ rangeId)
            teardowns :=
              w.teardowns ++
                [{ rangeId := rangeId
                   eventId := id
                   clockBuilt := w.built.contains rangeId
                   shared := w.holders rangeId id ≠ [] }] },
          true)

/- The booking does not own its range any more. -/
def disown
    (w : World)
    (id : Nat) : World :=
  match w.events.get? id with
  | none => w
  | some evt =>
      w.setEvent id { evt with autoProvisioned := false }

/-
  `release_range`: the earliest other booking that holds the
  range takes it over, or it is torn down.
-/
def releaseRange
    (w : World)
    (id : Nat)
    (accepted : Bool) : World :=
  match w.events.get? id with
  | none => w
  | some evt =>
      match evt.autoProvisioned, evt.rangeId with
      | true, some rangeId =>
          match (w.holders rangeId id).head? with
          | some (heirId, heir) =>
              (w.setEvent heirId
                { heir with autoProvisioned := true }).disown
                  id
          | none =>
              match w.destroyForBooking id rangeId accepted with
              | (w', true) => w'.disown id
              | (w', false) => w'
      | _, _ => w

end World

end Scheduler

end TrueNorth

--------
-- Reports
--------

namespace TrueNorth

namespace Scheduler

open RangeOps (RangeState)

/-
  What may become of a range's state without the scheduler:
  the outcome of a build or a teardown, and stops, starts
  and failures of a range that stands.  A build or a
  teardown is not begun by a report.
-/
def reportable : RangeState → RangeState → Bool
| .destroyed, _ => false
| .destroying, s => s = .destroyed || s = .failed
| _, .provisioning => false
| _, .destroying => false
| _, .destroyed => false
| _, _ => true

namespace World

def workerReports
    (w : World)
    (rangeId : Nat)
    (s : RangeState) : World :=
  match w.ranges.get? rangeId with
  | none => w
  | some rng =>
      if reportable rng.state s then
        { w with
          ranges := w.ranges.set rangeId { rng with state := s } }
      else
        w

end World

end Scheduler

end TrueNorth
