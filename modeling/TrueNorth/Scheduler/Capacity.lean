import TrueNorth.Lib.Loads
import TrueNorth.Scheduler.Holds

/-
  The scheduler's view of the cluster's capacity
  (scheduler/capacity.py `ClusterCapacity`, and `assess` in
  scheduler/service.py): what is committed in a window, and
  whether a booking fits beside it.

  The ranges that run now, and the labs that draw on a
  booking, are what it is told.

  Key definitions include:
    * `Running`
    * `held`, `sumHeld`, `committed`
    * `slices`, `peakCommitted`
    * `shortfalls`, `assess`
-/

--------
-- What Is Held
--------

namespace TrueNorth

namespace Scheduler

/-
  What else the provider reads: the time, the ranges that run
  and their sizes, when some of them are gone, the labs that
  draw on a booking, and the ranges of a hold that are up.
-/
structure Running where
  now : Instant
  ranges : List (Nat × Resources)
  ends : Nat → Option Instant
  drawing : Nat → List Nat × Resources
  live : HoldKey → List Nat

namespace Resources

def total (xs : List Resources) : Resources where
  vcpu := (xs.map vcpu).sum
  ramMb := (xs.map ramMb).sum
  diskGb := (xs.map diskGb).sum

/- The larger of two, resource by resource. -/
def larger (x y : Resources) : Resources where
  vcpu := max x.vcpu y.vcpu
  ramMb := max x.ramMb y.ramMb
  diskGb := max x.diskGb y.diskGb

end Resources

/- What holds capacity, and the ranges it already counts. -/
structure Held where
  start : Instant
  stop : Instant
  size : Resources
  uses : List Nat
deriving DecidableEq

structure Committed where
  resources : Resources
  -- the bookings, and the ranges that no booking covers
  events : Nat
  ranges : Nat
deriving DecidableEq

def Hold.held (h : Hold) : Held where
  start := h.start
  stop := h.stop
  size := h.resources
  uses := h.ranges

/- `held_window`. -/
def heldWindow
    (cfg : Settings)
    (start stop : Instant) : Instant × Instant :=
  (start - cfg.lead, stop + cfg.grace)

/-
  A booking over its held window, as the larger of what it
  holds and what the labs that draw on it do.
-/
def bookingHeld
    (cfg : Settings)
    (running : Running)
    (id : Nat)
    (evt : ScheduledEvent) : Held where
  start := (heldWindow cfg evt.startTime evt.endTime).1
  stop := (heldWindow cfg evt.startTime evt.endTime).2
  size := evt.size.larger (running.drawing id).2
  uses := evt.rangeId.toList ++ (running.drawing id).1

/- The bookings that `_held` counts one by one. -/
def plainHeld
    (cfg : Settings)
    (running : Running)
    (start stop : Instant)
    (exclude : Option Nat)
    (absorbed : List Nat)
    (entry : Nat × ScheduledEvent) : Option Held :=
  if entry.2.state.holding &&
      entry.2.startTime < stop + cfg.lead &&
      entry.2.endTime > start - cfg.grace &&
      some entry.1 ≠ exclude && !absorbed.contains entry.1 then
    some (bookingHeld cfg running entry.1 entry.2)
  else
    none

/-
  `_held`: what holds capacity in a window, and the ranges of
  the booking that is checked again.  That booking is left
  out, with its class's hold.
-/
def held
    (site : Site)
    (running : Running)
    (events : Dict Nat ScheduledEvent)
    (start stop : Instant)
    (exclude : Option Nat) : List Held × List Nat :=
  let excluded := exclude.bind events.get?
  let key := excluded.bind (holdKey site)
  let found :=
    holds site running.live events (start - site.cfg.grace)
      (stop + site.cfg.lead)
  let own := found.filter (fun h => some h.key = key)
  let skip :=
    (excluded.bind ScheduledEvent.rangeId).toList ++
      (if excluded.isSome then
        exclude.toList.flatMap (fun id =>
          (running.drawing id).1)
      else []) ++
      own.flatMap Hold.ranges
  ((found.filter (fun h => some h.key ≠ key)).map Hold.held ++
    events.entries.filterMap
      (plainHeld site.cfg running start stop exclude
        (found.flatMap Hold.events)), skip)

/-
  `_sum`: all that meets the window, and the running ranges
  that nothing of it covers.
-/
def sumHeld
    (running : Running)
    (held : List Held)
    (t₀ t₁ : Instant)
    (skip : List Nat) : Committed :=
  let now := held.filter (fun h => h.start < t₁ && h.stop > t₀)
  let covered := now.flatMap Held.uses
  let ranges :=
    if running.now < t₁ then
      running.ranges.filter (fun r =>
        !(covered.contains r.1 || skip.contains r.1) &&
          match running.ends r.1 with
          | none => true
          | some gone => gone > t₀)
    else []
  { resources :=
      Resources.total (now.map Held.size ++ ranges.map Prod.snd)
    events := now.length
    ranges := ranges.length }

/- `committed`. -/
def committed
    (site : Site)
    (running : Running)
    (events : Dict Nat ScheduledEvent)
    (start stop : Instant)
    (exclude : Option Nat) : Committed :=
  let (held, skip) :=
    held site running events start stop exclude
  sumHeld running held start stop skip

/- `committed_many`: each window, all read at once. -/
def committedMany
    (site : Site)
    (running : Running)
    (events : Dict Nat ScheduledEvent)
    (windows : List (Instant × Instant))
    (exclude : Option Nat) : List Committed :=
  match windows with
  | [] => []
  | (a, z) :: rest =>
      let (held, skip) :=
        held site running events
          ((rest.map Prod.fst).foldr min a)
          ((rest.map Prod.snd).foldr max z) exclude
      windows.map (fun w =>
        sumHeld running held w.1 w.2 skip)

--------
-- Fit
--------

/- `SLOT_STEP`: 15 minutes, in microseconds. -/
def slotStep : Int := 900000000

/- `_slices`: from the start on, for as long as before stop. -/
def slices (start stop : Instant) : List (Instant × Instant) :=
  (List.range ((stop - start + slotStep - 1) / slotStep).toNat).map
    (fun (i : Nat) =>
      (start + i * slotStep,
        min (start + i * slotStep + slotStep) stop))

/- `_max`: the most, resource by resource. -/
def mostCommitted (rows : List Committed) : Committed where
  resources :=
    { vcpu := Loads.peak (rows.map (fun c => c.resources.vcpu))
      ramMb := Loads.peak (rows.map (fun c => c.resources.ramMb))
      diskGb :=
        Loads.peak (rows.map (fun c => c.resources.diskGb)) }
  events := Loads.peak (rows.map Committed.events)
  ranges := Loads.peak (rows.map Committed.ranges)

/- `peak_committed`. -/
def peakCommitted
    (site : Site)
    (running : Running)
    (events : Dict Nat ScheduledEvent)
    (start stop : Instant)
    (exclude : Option Nat) : Committed :=
  mostCommitted
    (committedMany site running events (slices start stop)
      exclude)

/- `available`: never less than nothing. -/
def available (supply committed : Resources) : Resources where
  vcpu := supply.vcpu - committed.vcpu
  ramMb := supply.ramMb - committed.ramMb
  diskGb := supply.diskGb - committed.diskGb

/- What a reason's text is made of. -/
structure Shortfall where
  resource : Resource
  need : Nat
  free : Nat
  start : Instant
  stop : Instant
deriving DecidableEq

/- `shortfalls`: a reason for each resource that is short. -/
def shortfalls
    (need free : Resources)
    (start stop : Instant) : List Shortfall :=
  ([.vcpu, .ram, .disk].filter (fun r =>
    need.get r > free.get r)).map (fun r =>
      ⟨r, need.get r, free.get r, start, stop⟩)

structure Assessment where
  supply : Resources
  committed : Committed
  free : Resources
  reasons : List Shortfall
deriving DecidableEq

/- `fits`. -/
def Assessment.fits (a : Assessment) : Bool :=
  a.reasons = []

/- `assess`. -/
def assess
    (site : Site)
    (supply : Resources)
    (running : Running)
    (events : Dict Nat ScheduledEvent)
    (start stop : Instant)
    (need : Resources)
    (exclude : Option Nat)
    (peak : Bool) : Assessment :=
  let window := heldWindow site.cfg start stop
  let committed :=
    if peak then
      peakCommitted site running events window.1 window.2
        exclude
    else
      committed site running events window.1 window.2 exclude
  let free := available supply committed.resources
  { supply := supply
    committed := committed
    free := free
    reasons := shortfalls need free window.1 window.2 }

/- `enforce`: the booking goes on, with warnings or without. -/
def enforce
    (site : Site)
    (a : Assessment) : Bool :=
  a.fits || site.policy = .warn

/- `until_class_end`. -/
def untilClassEnd
    (site : Site)
    (evt : ScheduledEvent)
    (stop : Instant) : Instant :=
  match classEnd site evt with
  | none => stop
  | some last => max stop last

/-
  `fit`, of the room: up to its class's end, by the peak, for
  a session that uses its class's ranges.
-/
def fit
    (site : Site)
    (supply : Resources)
    (running : Running)
    (events : Dict Nat ScheduledEvent)
    (id : Nat)
    (evt : ScheduledEvent)
    (start stop : Instant) : Assessment :=
  let spanEnd := untilClassEnd site evt stop
  assess site supply running events start spanEnd evt.size
    (some id) (spanEnd > stop)

end Scheduler

end TrueNorth
