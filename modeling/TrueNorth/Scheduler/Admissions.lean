import TrueNorth.Scheduler.Capacity
import TrueNorth.Scheduler.Clock

/-
  Bookings as the cluster's capacity admits them: what the
  API is answered of sizes (classes/sessions.py) and of room
  (scheduler/service.py, scheduler/approval.py), and what the
  bookings and class holds ask of the cluster together.

  Key definitions include:
    * `sessionDemand`
    * `atTime`
    * `World.answer`
    * `Cluster.step`
    * `standing`, `demandAt`
-/

--------
-- Answers
--------

namespace TrueNorth

namespace Scheduler

/- `demand_for`: its template's size, or the typed one. -/
def demandFor
    (site : Site)
    (templateId : Option Nat)
    (typed : Resources) : Option Resources :=
  match templateId with
  | none => some typed
  | some templateId => site.templates.get? templateId

/- `per_seat`. -/
def perSeat
    (site : Site)
    (templateId : Option Nat) : Resources :=
  ((templateId.bind site.templates.get?).getD .zero)

/- `active_seats`. -/
def activeSeats
    (site : Site)
    (classId : Nat) : Nat :=
  match site.classes.get? classId with
  | none => 0
  | some cls => cls.seats

/- `session_demand`, and `size_for_approval`. -/
def sessionDemand
    (site : Site)
    (session : Option ClassSession)
    (templateId : Option Nat)
    (demand : Resources) : Resources :=
  match session with
  | none => demand
  | some link =>
      if link.rangeMode = .individual then
        (perSeat site templateId).scaled
          (activeSeats site link.classId)
      else
        demand

/- `at_time`: the copy to search from names no template. -/
def atTime
    (evt : ScheduledEvent)
    (start stop : Instant) : ScheduledEvent :=
  { evt with
    templateId := none
    startTime := start
    endTime := stop }

namespace World

/- What a request to create or edit is answered. -/
def answerBooking
    (site : Site)
    (supply : Resources)
    (running : Running)
    (w : World)
    (body : EventIn)
    (session : Option ClassSession)
    (exclude : Option Nat)
    (ans : Answers) : Answers :=
  match demandFor site body.templateId ans.demand with
  | none => { ans with allowed := false }
  | some demand =>
      let demand :=
        sessionDemand site session body.templateId demand
      { ans with
        demand := demand
        room :=
          enforce site
            (assess site supply running w.events body.startTime
              body.endTime demand exclude false) }

/-
  The action, with what the code computes of sizes and room
  in the place of its answers.  The demand that a request
  comes with is what it typed.
-/
def answer
    (site : Site)
    (supply : Resources)
    (running : Running)
    (w : World) :
    Action → Action
| .create id body ans =>
    .create id body
      (w.answerBooking site supply running body
        (body.classId.map (fun cls =>
          ⟨cls, body.rangeMode.getD ans.courseMode⟩))
        none ans)
| .update id body ans =>
    match w.events.get? id with
    | none => .update id body ans
    | some evt =>
        .update id body
          (w.answerBooking site supply running body
            (evt.session.map (fun s =>
              { s with
                rangeMode := body.rangeMode.getD s.rangeMode }))
            (some id) ans)
| .schedule tenantId id ans =>
    match w.events.get? id with
    | none => .schedule tenantId id ans
    | some evt =>
        .schedule tenantId id
          { ans with
            room :=
              enforce site
                (assess site supply running w.events
                  evt.startTime evt.endTime evt.size (some id)
                  false) }
| .approve tenantId id now ans =>
    match w.events.get? id with
    | none => .approve tenantId id now ans
    | some evt =>
        let demand :=
          sessionDemand site evt.session evt.templateId evt.size
        .approve tenantId id now
          { ans with
            demand := demand
            room :=
              enforce site
                (fit site supply running w.events id
                  (sized evt demand) evt.startTime
                  evt.endTime) }
| .propose tenantId id now start stop clear ans =>
    match w.events.get? id with
    | none => .propose tenantId id now start stop clear ans
    | some evt =>
        .propose tenantId id now start stop clear
          { ans with
            room :=
              enforce site
                (fit site supply running w.events id evt start
                  stop) }
| .accept tenantId id now ans =>
    match w.events.get? id with
    | none => .accept tenantId id now ans
    | some evt =>
        match evt.approval.bind BookingApproval.proposed with
        | none => .accept tenantId id now ans
        | some (start, stop) =>
            let demand :=
              sessionDemand site evt.session evt.templateId
                evt.size
            .accept tenantId id now
              { ans with
                demand := demand
                room :=
                  enforce site
                    (fit site supply running w.events id
                      (atTime (sized evt demand) start stop)
                      start stop) }
| a => a

/- A class session that holds capacity. -/
def holdsSession
    (w : World)
    (id : Nat) : Bool :=
  match w.events.get? id with
  | none => false
  | some evt => evt.session.isSome && evt.state.holding

/-
  What is done releases plain bookings only: no class session
  that holds is edited, or ends.
-/
def keepsSessions
    (w : World) :
    Action → Bool
| .update id _ _ => !w.holdsSession id
| .complete _ id _ => !w.holdsSession id
| .cancel _ id _ _ => !w.holdsSession id
| .clock _ id (.complete _) => !w.holdsSession id
| _ => true

end World

end Scheduler

end TrueNorth

--------
-- Runs
--------

namespace TrueNorth

namespace Scheduler

/- The bookings, and what the cluster supplies. -/
structure Cluster where
  world : World
  supply : Resources

/- The supply grows, or something is done with bookings. -/
inductive ClusterAction where
| grow (extra : Resources)
| act (running : Running) (action : Action)

namespace Cluster

def step
    (site : Site)
    (c : Cluster) :
    ClusterAction → Cluster
| .grow extra =>
    { c with supply := Resources.total [c.supply, extra] }
| .act running a =>
    if c.world.keepsSessions a then
      { c with
        world :=
          c.world.step site.cfg
            (c.world.answer site c.supply running a) }
    else
      c

end Cluster

end Scheduler

end TrueNorth

--------
-- Demand
--------

namespace TrueNorth

namespace Scheduler

/- A booking that is inside no class hold. -/
def standingPlain
    (site : Site)
    (skipId : Option Nat)
    (entry : Nat × ScheduledEvent) : Option Held :=
  if entry.2.state.holding && rowKey site none entry.2 = none &&
      some entry.1 ≠ skipId then
    some
      { start := entry.2.startTime - site.cfg.lead
        stop := entry.2.endTime + site.cfg.grace
        size := entry.2.size
        uses := [] }
  else
    none

/- The class hold of a key, whatever it is asked for. -/
def standingHold
    (site : Site)
    (events : Dict Nat ScheduledEvent)
    (key : HoldKey) : Option Held :=
  (hold? site (fun _ => []) (members site none events key)
    key).map Hold.held

/-
  All that holds capacity, at any time: the class holds and
  the bookings beside them, but for a booking and a hold that
  may be left out.
-/
def standing
    (site : Site)
    (events : Dict Nat ScheduledEvent)
    (skipId : Option Nat)
    (skipKey : Option HoldKey) : List Held :=
  ((groupKeys site none events).filter (fun key =>
    some key ≠ skipKey)).filterMap (standingHold site events) ++
  events.entries.filterMap (standingPlain site skipId)

/- What is asked of the cluster at an instant. -/
def demandAt
    (site : Site)
    (events : Dict Nat ScheduledEvent)
    (t : Instant) : Resources :=
  Resources.total
    (((standing site events none none).filter (fun h =>
      h.start ≤ t && t < h.stop)).map Held.size)

end Scheduler

end TrueNorth
