import Mathlib.Data.List.Basic

/-
  Range states, range actions and operation statuses
  (models.py, state_machines.py, range_ops/models.py,
  maintenance_windows/policy.py).

  Key definitions include:
    * `RangeState.canTransitionTo`
    * `RangeAction.inProgress`
    * `RangeAction.outcome`
    * `OpStatus.inFlight`
-/

--------
-- Range States
--------

namespace TrueNorth

namespace RangeOps

inductive RangeState where
| created
| provisioning
| ready
| running
| stopping
| stopped
| starting
| destroying
| destroyed
| failed
deriving DecidableEq

namespace RangeState

def value : RangeState → String
| created => "created"
| provisioning => "provisioning"
| ready => "ready"
| running => "running"
| stopping => "stopping"
| stopped => "stopped"
| starting => "starting"
| destroying => "destroying"
| destroyed => "destroyed"
| failed => "failed"

/- `_RANGE_TRANSITIONS`. -/
def transitions : RangeState → List RangeState
| created => [provisioning, destroyed]
| provisioning => [ready, failed]
| ready => [running, stopping, destroying, failed]
| running => [stopping, destroying]
| stopping => [stopped, failed, destroying]
| stopped => [starting, destroying]
| starting => [running, failed, destroying]
| destroying => [destroyed, failed]
| destroyed => []
| failed => [provisioning, destroying, destroyed]

def canTransitionTo
    (state target : RangeState) : Bool :=
  state.transitions.contains target

end RangeState

end RangeOps

end TrueNorth

--------
-- Operations
--------

namespace TrueNorth

namespace RangeOps

/- `OP_STATUSES`. -/
inductive OpStatus where
| pending
| dispatched
| held
| succeeded
| failed
| superseded
deriving DecidableEq

namespace OpStatus

def value : OpStatus → String
| pending => "pending"
| dispatched => "dispatched"
| held => "held"
| succeeded => "succeeded"
| failed => "failed"
| superseded => "superseded"

/- `IN_FLIGHT`. -/
def inFlight : OpStatus → Bool
| pending => true
| dispatched => true
| held => true
| succeeded => false
| failed => false
| superseded => false

end OpStatus

/- The keys of `ACTIONS`. -/
inductive RangeAction where
| provision
| destroy
| stop
| start
deriving DecidableEq

namespace RangeAction

def name : RangeAction → String
| provision => "provision"
| destroy => "destroy"
| stop => "stop"
| start => "start"

def task : RangeAction → String
| provision => "provision_range"
| destroy => "destroy_range"
| stop => "stop_range"
| start => "start_range"

def inProgress : RangeAction → RangeState
| provision => .provisioning
| destroy => .destroying
| stop => .stopping
| start => .starting

/- `outcomes`: what an observed range state settles. -/
def outcome : RangeAction → RangeState → Option OpStatus
| provision, .ready => some .succeeded
| destroy, .destroyed => some .succeeded
| stop, .stopped => some .succeeded
| start, .running => some .succeeded
| _, .failed => some .failed
| _, _ => none

/- `REFUSED_ACTIONS`, among the range's own actions. -/
def refusedInside : RangeAction → Bool
| provision => true
| destroy => true
| stop => false
| start => false

end RangeAction

/- `BYPASS_KINDS`. -/
def bypassKinds : List String :=
  ["emergency", "booking_ended", "canary"]

/- `HELD_MARKER`. -/
def heldMarker : String :=
  "is held by the worker: a maintenance window"

end RangeOps

end TrueNorth
