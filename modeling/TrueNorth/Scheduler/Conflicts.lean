import TrueNorth.Scheduler.Clock
import TrueNorth.Scheduler.Requests

/-
  What stands in a booking's way: only another booking that
  holds something.

  Key definitions include:
    * `Near`
    * `Action.booking`
    * `World.without`
    * `World.refusal`

  Main theorems:
    * `World.not_near_of_conflicts`
    * `World.refusal_without`
-/

--------
-- Conflicts
--------

namespace TrueNorth

namespace Scheduler

/- Two windows closer than the reach. -/
def Near
    (cfg : Settings)
    (start stop start' stop' : Instant) : Prop :=
  start' < stop + cfg.reach ∧ start < stop' + cfg.reach

theorem Near.symm
    {cfg : Settings}
    {start stop start' stop' : Instant}
    (hNear : Near cfg start stop start' stop') :
    Near cfg start' stop' start stop :=
  ⟨hNear.2, hNear.1⟩

namespace World

variable {cfg : Settings}
variable {w w' : World}

theorem mem_others
    {exclude : Option Nat}
    {id : Nat}
    {evt : ScheduledEvent} :
    (id, evt) ∈ w.others exclude ↔
      w.events.get? id = some evt ∧
        evt.state.holding = true ∧ some id ≠ exclude := by
  unfold others
  rw [List.mem_mergeSort, List.mem_filter,
    Dict.get?_eq_some_iff, Bool.and_eq_true,
    decide_eq_true_eq]

theorem mem_holders
    {rangeId exclude id : Nat}
    {evt : ScheduledEvent} :
    (id, evt) ∈ w.holders rangeId exclude ↔
      w.events.get? id = some evt ∧
        evt.state.holding = true ∧
          evt.rangeId = some rangeId ∧ id ≠ exclude := by
  unfold holders
  rw [List.mem_mergeSort, List.mem_filter,
    Dict.get?_eq_some_iff, Bool.and_eq_true,
    Bool.and_eq_true, decide_eq_true_eq, decide_eq_true_eq,
    and_assoc]

/- Without conflicts, no other booking of the range is near. -/
theorem not_near_of_conflicts
    {start stop : Instant}
    {rangeId : Nat}
    {instructorId exclude : Option Nat}
    (hNone :
      w.conflicts cfg start stop (some rangeId) instructorId
        exclude = [])
    {id : Nat}
    {evt : ScheduledEvent}
    (hGet : w.events.get? id = some evt)
    (hHolding : evt.state.holding = true)
    (hRange : evt.rangeId = some rangeId)
    (hOther : some id ≠ exclude) :
    ¬ Near cfg start stop evt.startTime evt.endTime := by
  rintro ⟨hStart, hEnd⟩
  have hMem : Clash.range id ∈
      w.conflicts cfg start stop (some rangeId) instructorId
        exclude := by
    unfold conflicts
    apply List.mem_append_left
    refine List.mem_map.mpr ⟨(id, evt), ?_, rfl⟩
    refine List.mem_filter.mpr
      ⟨mem_others.mpr ⟨hGet, hHolding, hOther⟩, ?_⟩
    have hBack : start - cfg.reach < evt.endTime :=
      Int.sub_right_lt_of_lt_add hEnd
    simp [hRange, hStart, hBack]
  rw [hNone] at hMem
  cases hMem

end World

end Scheduler

end TrueNorth

--------
-- Bookings That Hold Nothing
--------

namespace TrueNorth

namespace Scheduler

open Checks

/- What a request was refused with, if it was. -/
def refused {A : Type} : Except Refusal A → Option Refusal
| .ok _ => none
| .error e => some e

/- The booking that an action is about. -/
def Action.booking : Action → Option Nat
| .create id .. => some id
| .update id .. => some id
| .schedule _ id _ => some id
| .activate _ id _ => some id
| .complete _ id _ => some id
| .cancel _ id .. => some id
| .approve _ id .. => some id
| .reject _ id _ => some id
| .propose _ id .. => some id
| .accept _ id .. => some id
| .decline _ id _ => some id
| .clock _ id _ => some id
| .worker .. => none

namespace World

variable (cfg : Settings)

/- The world as if a booking had never been made. -/
def without
    (w : World)
    (id : Nat) : World :=
  { w with events := w.events.filter (fun key _ => key ≠ id) }

/- What a request is refused with, if it is. -/
def refusal
    (w : World) :
    Action → Option Refusal
| .create id body ans => refused (w.create cfg id body ans)
| .update id body ans => refused (w.update cfg id body ans)
| .schedule tenantId id ans =>
    refused (w.schedule cfg tenantId id ans)
| .activate tenantId id allowed =>
    refused (w.activate tenantId id allowed)
| .complete tenantId id allowed =>
    refused (w.complete tenantId id allowed)
| .cancel tenantId id allowed accepted =>
    refused (w.cancel tenantId id allowed accepted)
| .approve tenantId id now ans =>
    refused (w.approve cfg tenantId id now ans)
| .reject tenantId id allowed =>
    refused (w.reject tenantId id allowed)
| .propose tenantId id now start stop clear ans =>
    refused (w.propose cfg tenantId id now start stop clear ans)
| .accept tenantId id now ans =>
    refused (w.accept cfg tenantId id now ans)
| .decline tenantId id allowed =>
    refused (w.decline tenantId id allowed)
| .clock .. => none
| .worker .. => none

variable {cfg : Settings}
variable {w : World}

/- The same checks first, and then the same answer. -/
theorem refused_bind
    {A B C : Type}
    {x : Except Refusal A}
    {f : A → Except Refusal B}
    {g : A → Except Refusal C}
    (hSame : ∀ a, refused (f a) = refused (g a)) :
    refused (x >>= f) = refused (x >>= g) := by
  cases x with
  | error e => rfl
  | ok a => exact hSame a

theorem refused_move
    (w w' : World)
    (id : Nat)
    (evt : ScheduledEvent)
    (target : EventState) :
    refused (w.move id evt target) =
      refused (w'.move id evt target) := by
  unfold move
  cases transition evt target with
  | none => rfl
  | some evt' => rfl

/- No request for another booking sees it. -/
theorem others_without
    {id : Nat}
    {evt : ScheduledEvent}
    (hGet : w.events.get? id = some evt)
    (hIdle : evt.state.holding = false)
    (exclude : Option Nat) :
    (w.without id).others exclude = w.others exclude := by
  unfold others
  apply congrArg (fun entries => List.mergeSort entries _)
  have hEntries : (w.without id).events.entries =
      w.events.entries.filter (fun entry => entry.1 ≠ id) := rfl
  rw [hEntries, List.filter_filter]
  apply List.filter_congr
  rintro ⟨key, e⟩ hMem
  by_cases hKey : key = id
  · have hSame := Dict.get?_eq_some_iff.mpr hMem
    rw [hKey, hGet] at hSame
    cases hSame
    simp [hIdle]
  · simp [hKey]

theorem conflicts_without
    {id : Nat}
    {evt : ScheduledEvent}
    (hGet : w.events.get? id = some evt)
    (hIdle : evt.state.holding = false)
    (start stop : Instant)
    (rangeId instructorId exclude : Option Nat) :
    (w.without id).conflicts cfg start stop rangeId
        instructorId exclude =
      w.conflicts cfg start stop rangeId instructorId
        exclude := by
  unfold conflicts
  rw [others_without hGet hIdle]

theorem owned_without
    {id id' : Nat}
    (hNe : id' ≠ id)
    (tenantId : Nat) :
    (w.without id).owned tenantId id' =
      w.owned tenantId id' := by
  unfold owned
  have hGet : (w.without id).events.get? id' =
      w.events.get? id' := by
    apply Option.ext
    intro e
    unfold without
    rw [Dict.get?_filter, decide_eq_true_eq]
    exact and_iff_left hNe
  rw [hGet]

/-
  A booking that holds nothing blocks no other: every
  request for another booking is answered as if it were not
  there.
-/
theorem refusal_without
    {id : Nat}
    {evt : ScheduledEvent}
    (hGet : w.events.get? id = some evt)
    (hIdle : evt.state.holding = false)
    {a : Action}
    (hOther : a.booking ≠ some id) :
    (w.without id).refusal cfg a = w.refusal cfg a := by
  have hNe : ∀ {id'}, a.booking = some id' → id' ≠ id := by
    intro id' hBooking hSame
    rw [hBooking, hSame] at hOther
    exact hOther rfl
  cases a with
  | create id' body ans =>
      simp only [refusal, create, admitBooking,
        conflicts_without hGet hIdle]
      refine refused_bind (fun _ => refused_bind (fun _ => ?_))
      refine refused_bind (fun _ => refused_bind (fun _ => ?_))
      refine refused_bind (fun _ => refused_bind (fun _ => ?_))
      rfl
  | update id' body ans =>
      simp only [refusal, update, admitBooking,
        conflicts_without hGet hIdle, owned_without (hNe rfl)]
      refine refused_bind (fun _ => refused_bind (fun e => ?_))
      refine refused_bind (fun _ => refused_bind (fun _ => ?_))
      refine refused_bind (fun _ => ?_)
      refine refused_bind (fun rangeId => ?_)
      refine refused_bind (fun _ => refused_bind (fun _ => ?_))
      refine refused_bind (fun _ => ?_)
      by_cases hAgain :
          reapproves e (edited e body ans rangeId) = true
      · simp only [if_pos hAgain]
        exact refused_bind (fun _ => rfl)
      · simp only [if_neg hAgain]
        by_cases hMoot :
            (e.state = .pendingApproval &&
              heldChange e (edited e body ans rangeId)) = true
        · simp only [if_pos hMoot]
          rfl
        · simp only [if_neg hMoot]
          rfl
  | schedule tenantId id' ans =>
      simp only [refusal, schedule, admitBooking,
        conflicts_without hGet hIdle, owned_without (hNe rfl)]
      refine refused_bind (fun e => refused_bind (fun _ => ?_))
      by_cases hApproval : e.approval.isSome = true
      · simp only [if_pos hApproval]
        by_cases hThere :
            (e.state = .pendingApproval ||
              e.state = .scheduled) = true
        · simp only [if_pos hThere]
          rfl
        · simp only [if_neg hThere]
          apply refused_move
      · simp only [if_neg hApproval]
        refine refused_bind (fun _ => ?_)
        apply refused_move
  | activate tenantId id' allowed =>
      simp only [refusal, activate, owned_without (hNe rfl)]
      refine refused_bind (fun _ => refused_bind (fun _ => ?_))
      apply refused_move
  | complete tenantId id' allowed =>
      simp only [refusal, complete, owned_without (hNe rfl)]
      refine refused_bind (fun _ => refused_bind (fun _ => ?_))
      apply refused_move
  | cancel tenantId id' allowed accepted =>
      simp only [refusal, cancel, owned_without (hNe rfl)]
      refine refused_bind (fun e => refused_bind (fun _ => ?_))
      unfold move
      cases transition e .cancelled with
      | none => rfl
      | some e' => rfl
  | approve tenantId id' now ans =>
      simp only [refusal, approve, admitApproval,
        conflicts_without hGet hIdle, owned_without (hNe rfl)]
      refine refused_bind (fun e => ?_)
      by_cases hThere :
          (e.approval.isSome && e.state = .scheduled) = true
      · simp only [if_pos hThere]
        rfl
      · simp only [if_neg hThere]
        refine refused_bind (fun _ => refused_bind (fun _ => ?_))
        refine refused_bind (fun _ => ?_)
        apply refused_move
  | reject tenantId id' allowed =>
      simp only [refusal, reject, owned_without (hNe rfl)]
      refine refused_bind (fun e => refused_bind (fun _ => ?_))
      by_cases hThere :
          (e.approval.isSome && e.state = .rejected) = true
      · simp only [if_pos hThere]
        rfl
      · simp only [if_neg hThere]
        refine refused_bind (fun _ => ?_)
        apply refused_move
  | propose tenantId id' now start stop clear ans =>
      simp only [refusal, propose, admitApproval,
        conflicts_without hGet hIdle, owned_without (hNe rfl)]
      refine refused_bind (fun _ => refused_bind (fun _ => ?_))
      refine refused_bind (fun _ => refused_bind (fun _ => ?_))
      exact refused_bind (fun _ => rfl)
  | accept tenantId id' now ans =>
      simp only [refusal, accept, admitApproval,
        conflicts_without hGet hIdle, owned_without (hNe rfl)]
      refine refused_bind (fun e => ?_)
      refine refused_bind (fun approval => ?_)
      cases approval.proposed with
      | none => rfl
      | some window =>
          refine refused_bind (fun _ => ?_)
          refine refused_bind (fun _ => ?_)
          apply refused_move
  | decline tenantId id' allowed =>
      simp only [refusal, decline, owned_without (hNe rfl)]
      refine refused_bind (fun _ => refused_bind (fun _ => ?_))
      refine refused_bind (fun _ => refused_bind (fun _ => ?_))
      rfl
  | clock now id' pass => rfl
  | worker rangeId state => rfl

end World

end Scheduler

end TrueNorth
