import TrueNorth.Lib.Dict
import TrueNorth.RangeOps.States

/-
  Bookings and their lifecycle (scheduler/models.py,
  scheduler/lifecycle.py), and the ranges and exercises a
  booking can point at.

  Key definitions include:
    * `EventState.sources`
    * `EventState.holding`
    * `ScheduledEvent`
    * `World`
    * `World.transition`
-/

--------
-- States
--------

namespace TrueNorth

namespace Scheduler

inductive EventState where
| draft
| pendingApproval
| scheduled
| provisioning
| active
| completed
| cancelled
| rejected
deriving DecidableEq

namespace EventState

/- `SOURCES`: the states a state may be reached from. -/
def sources : EventState → List EventState
| pendingApproval => [draft, scheduled]
| scheduled => [draft, pendingApproval]
| rejected => [pendingApproval]
| provisioning => [scheduled]
| active => [scheduled, provisioning]
| completed => [active]
| cancelled =>
    [draft, pendingApproval, scheduled, provisioning, active]
| draft => []

/- `EDITABLE`: not yet being built. -/
def editable (s : EventState) : Bool :=
  [draft, pendingApproval, scheduled].contains s

/- `HOLDING`: capacity, the range and the instructor. -/
def holding (s : EventState) : Bool :=
  [scheduled, provisioning, active].contains s

end EventState

end Scheduler

end TrueNorth

--------
-- Rows
--------

namespace TrueNorth

namespace Scheduler

open RangeOps (RangeState)

/- An instant, in microseconds. -/
abbrev Instant : Type := Int

@[ext] structure Resources where
  vcpu : Nat
  ramMb : Nat
  diskGb : Nat
deriving DecidableEq

/- How a class session uses its class's ranges. -/
inductive RangeMode where
| individual
| collective
deriving DecidableEq

/- The class a booking is a session of (`ClassSession`). -/
structure ClassSession where
  classId : Nat
  rangeMode : RangeMode
deriving DecidableEq

/- What an approver has put to a booking. -/
structure BookingApproval where
  proposed : Option (Instant × Instant)
deriving DecidableEq

structure ScheduledEvent where
  tenantId : Nat
  state : EventState
  startTime : Instant
  endTime : Instant
  rangeId : Option Nat
  templateId : Option Nat
  instructorId : Option Nat
  scenarioId : Option Nat
  exerciseId : Option Nat
  session : Option ClassSession
  approval : Option BookingApproval
  size : Resources
  autoProvisioned : Bool
deriving DecidableEq

/- `lab`: a range only a Student's lab session drives. -/
structure Range where
  tenantId : Nat
  state : RangeState
  lab : Bool
deriving DecidableEq

structure Exercise where
  tenantId : Nat
  rangeId : Option Nat
deriving DecidableEq

--------
-- Worlds
--------

/- A range a booking tore down, as it was found then. -/
structure Teardown where
  rangeId : Nat
  eventId : Nat
  -- the clock had built it, and no teardown was sent since
  clockBuilt : Bool
  -- another booking of the range held it
  shared : Bool
deriving DecidableEq

/-
  `built` and `teardowns` are what happened, which no code
  reads: the ranges the clock sent to be built and whose
  teardown no booking has sent since, and the teardowns
  bookings have sent.
-/
structure World where
  events : Dict Nat ScheduledEvent
  ranges : Dict Nat Range
  exercises : Dict Nat Exercise
  built : List Nat
  teardowns : List Teardown

/- `PROVISION_LEAD` and `TEARDOWN_GRACE`, a site's own. -/
structure Settings where
  lead : Int
  grace : Int

/- The room two bookings of a range need between them. -/
def Settings.reach (cfg : Settings) : Int :=
  cfg.lead + cfg.grace

namespace World

/- No booking yet, over a site's ranges and exercises. -/
def fresh
    (ranges : Dict Nat Range)
    (exercises : Dict Nat Exercise) : World where
  events := .empty
  ranges := ranges
  exercises := exercises
  built := []
  teardowns := []

def setEvent
    (w : World)
    (id : Nat)
    (evt : ScheduledEvent) : World :=
  { w with events := w.events.set id evt }

/-
  `transition`: the guarded update.  `none` for its 409; a
  booking already there is left alone.
-/
def transition
    (evt : ScheduledEvent)
    (target : EventState) : Option ScheduledEvent :=
  if evt.state = target then some evt
  else if target.sources.contains evt.state then
    some { evt with state := target }
  else none

/- What a transition leaves, and where it came from. -/
theorem transition_cases
    {evt evt' : ScheduledEvent}
    {target : EventState}
    (hMove : transition evt target = some evt') :
    evt' = { evt with state := target } ∧
      (evt.state = target ∨ evt.state ∈ target.sources) := by
  unfold transition at hMove
  by_cases hSame : evt.state = target
  · rw [if_pos hSame] at hMove
    cases hMove
    exact ⟨by rw [← hSame], .inl hSame⟩
  · rw [if_neg hSame] at hMove
    by_cases hSource : target.sources.contains evt.state = true
    · rw [if_pos hSource] at hMove
      cases hMove
      exact ⟨rfl, .inr (List.contains_iff_mem.mp hSource)⟩
    · rw [if_neg hSource] at hMove
      cases hMove

end World

end Scheduler

end TrueNorth
