import TrueNorth.Scheduler.Lifecycle

/-
  What a class's ranges hold in the cluster
  (classes/holds.py): one span for each class, kind of range
  and template, from its first approved session to the
  class's end.

  Key definitions include:
    * `Class`, `Site`
    * `holdKey`
    * `Hold`
    * `holds`
    * `classEnd`
-/

--------
-- Sizes
--------

namespace TrueNorth

namespace Scheduler

/- What of the cluster can run short. -/
inductive Resource where
| vcpu
| ram
| disk
deriving DecidableEq

namespace Resources

def get
    (x : Resources) :
    Resource → Nat
| .vcpu => x.vcpu
| .ram => x.ramMb
| .disk => x.diskGb

def zero : Resources where
  vcpu := 0
  ramMb := 0
  diskGb := 0

/- `_scaled`. -/
def scaled
    (x : Resources)
    (n : Nat) : Resources where
  vcpu := x.vcpu * n
  ramMb := x.ramMb * n
  diskGb := x.diskGb * n

end Resources

end Scheduler

end TrueNorth

--------
-- Classes
--------

namespace TrueNorth

namespace Scheduler

/- A day, in microseconds. -/
def day : Int := 86400000000

/-
  What is read of a class: `endDate` is its last day, counted
  in UTC; `seats` are the Students on its roll call; and
  `rangeIds` are the ranges it owns (`ClassRange`).
-/
structure Class where
  tenantId : Nat
  isOpen : Bool
  endDate : Int
  seats : Nat
  rangeIds : List Nat
deriving DecidableEq

inductive OvercapacityPolicy where
| block
| warn
deriving DecidableEq

/-
  A site: its times, its policy, its classes, and the size of
  each template that declares VMs.
-/
structure Site where
  cfg : Settings
  policy : OvercapacityPolicy
  classes : Dict Nat Class
  templates : Dict Nat Resources

/- `last_day_end`. -/
def lastDayEnd (endDate : Int) : Instant :=
  (endDate + 1) * day

inductive ClassRangeKind where
| seat
| shared
deriving DecidableEq

/- `kind_of`. -/
def kindOf : RangeMode → ClassRangeKind
| .individual => .seat
| .collective => .shared

/- `NEEDS_RANGES`: approved, or over. -/
def EventState.needsRanges (s : EventState) : Bool :=
  s.holding || s = .completed

structure HoldKey where
  classId : Nat
  kind : ClassRangeKind
  templateId : Nat
deriving DecidableEq

/- `_uses_class_ranges`. -/
def usesClassRanges
    (cls : Class)
    (link : ClassSession)
    (evt : ScheduledEvent) : Bool :=
  link.rangeMode = .individual ||
    match evt.rangeId with
    | none => true
    | some rangeId => cls.rangeIds.contains rangeId

/- `hold_key`: the hold a class session belongs to. -/
def holdKey
    (site : Site)
    (evt : ScheduledEvent) : Option HoldKey :=
  match evt.session, evt.templateId with
  | some link, some templateId =>
      match site.classes.get? link.classId with
      | none => none
      | some cls =>
          if cls.tenantId = evt.tenantId &&
              usesClassRanges cls link evt then
            some ⟨link.classId, kindOf link.rangeMode, templateId⟩
          else
            none
  | _, _ => none

/- `class_end`. -/
def classEnd
    (site : Site)
    (evt : ScheduledEvent) : Option Instant :=
  match holdKey site evt with
  | none => none
  | some key =>
      (site.classes.get? key.classId).map (fun cls =>
        max (lastDayEnd cls.endDate) evt.endTime)

--------
-- Holds
--------

/- What is read of a session inside a hold. -/
structure Member where
  id : Nat
  holding : Bool
  startTime : Instant
  endTime : Instant
deriving DecidableEq

structure Hold where
  key : HoldKey
  start : Instant
  stop : Instant
  resources : Resources
  -- the class's ranges that are up, and the sessions
  ranges : List Nat
  events : List Nat
deriving DecidableEq

/- The size of a hold: a seat's for each Student, or one. -/
def holdSize
    (site : Site)
    (key : HoldKey) : Option Resources :=
  match site.templates.get? key.templateId,
      site.classes.get? key.classId with
  | some one, some cls =>
      some
        (one.scaled (if key.kind = .seat then cls.seats else 1))
  | _, _ => none

/-
  The hold that a session is inside: of an open class, that
  ends on or after the day `since`, if one is given, and of a
  template whose size is known.
-/
def rowKey
    (site : Site)
    (since : Option Int)
    (evt : ScheduledEvent) : Option HoldKey :=
  match holdKey site evt with
  | none => none
  | some key =>
      match site.classes.get? key.classId with
      | none => none
      | some cls =>
          if cls.isOpen && since.all (· ≤ cls.endDate) &&
              evt.state.needsRanges &&
              (holdSize site key).isSome then
            some key
          else
            none

/- The keys of `groups`, in order. -/
def groupKeys
    (site : Site)
    (since : Option Int)
    (events : Dict Nat ScheduledEvent) : List HoldKey :=
  Dict.fromkeys
    (events.entries.filterMap (fun entry =>
      rowKey site since entry.2))

/- A session, as a member of the hold. -/
def member?
    (site : Site)
    (since : Option Int)
    (key : HoldKey)
    (entry : Nat × ScheduledEvent) : Option Member :=
  if rowKey site since entry.2 = some key then
    some
      { id := entry.1
        holding := entry.2.state.holding
        startTime := entry.2.startTime
        endTime := entry.2.endTime }
  else
    none

/- The sessions of one of the `groups`. -/
def members
    (site : Site)
    (since : Option Int)
    (events : Dict Nat ScheduledEvent)
    (key : HoldKey) : List Member :=
  events.entries.filterMap (member? site since key)

def earliest : List Instant → Instant
| [] => 0
| t :: ts => ts.foldr min t

def latest
    (t : Instant)
    (ts : List Instant) : Instant :=
  ts.foldr max t

/-
  The hold of a group, from the lead of the first session that
  is approved, while there is one.  `live` are the class's
  ranges that are up.
-/
def hold?
    (site : Site)
    (live : HoldKey → List Nat)
    (group : List Member)
    (key : HoldKey) : Option Hold :=
  match holdSize site key, site.classes.get? key.classId with
  | some size, some cls =>
      let approved := group.filter Member.holding
      let counted := if approved = [] then group else approved
      some
        { key := key
          start :=
            earliest (counted.map Member.startTime) -
              site.cfg.lead
          stop :=
            latest (lastDayEnd cls.endDate)
              (group.map Member.endTime) + site.cfg.grace
          resources := size
          ranges := live key
          events := group.map Member.id }
  | _, _ => none

/- `holds`: those that meet the window. -/
def holds
    (site : Site)
    (live : HoldKey → List Nat)
    (events : Dict Nat ScheduledEvent)
    (start stop : Instant) : List Hold :=
  let since := some ((start - site.cfg.grace - day) / day)
  (groupKeys site since events).filterMap (fun key =>
    (hold? site live (members site since events key) key).filter
      (fun h => h.start < stop && h.stop > start))

end Scheduler

end TrueNorth
