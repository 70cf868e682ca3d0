import TrueNorth.Scheduler.Bookings

/-
  What a request that is accepted has done: one lemma for
  each operation of the API, so that no proof about runs
  goes through an operation's checks again.

  Key definitions include:
    * `SameOwner`

  Main theorems:
    * `World.create_cases`
    * `World.update_cases`
    * `World.schedule_cases`
    * `World.approve_cases`
    * `World.accept_cases`
    * `World.cancel_cases`
-/

--------
-- Checks That Passed
--------

namespace TrueNorth

namespace Scheduler

open Checks

/- What a booking's ownership of a range depends on. -/
structure SameOwner (e e' : ScheduledEvent) : Prop where
  rangeId : e'.rangeId = e.rangeId
  autoProvisioned : e'.autoProvisioned = e.autoProvisioned

namespace World

variable {cfg : Settings}
variable {w w' : World}

theorem owned_ok
    {tenantId id : Nat}
    {evt : ScheduledEvent}
    (hOwned : w.owned tenantId id = .ok evt) :
    w.events.get? id = some evt := by
  unfold owned at hOwned
  cases hGet : w.events.get? id with
  | none =>
      rw [hGet] at hOwned
      cases hOwned
  | some e =>
      by_cases hTenant : e.tenantId = tenantId
      · simp only [hGet, if_pos hTenant] at hOwned
        cases hOwned
        rfl
      · simp only [hGet, if_neg hTenant] at hOwned
        cases hOwned

theorem move_ok
    {id : Nat}
    {evt : ScheduledEvent}
    {target : EventState}
    (hMove : w.move id evt target = .ok w') :
    w' = w.setEvent id { evt with state := target } ∧
      (evt.state = target ∨ evt.state ∈ target.sources) := by
  unfold move at hMove
  cases hTo : transition evt target with
  | none =>
      rw [hTo] at hMove
      cases hMove
  | some evt' =>
      rw [hTo] at hMove
      rcases transition_cases hTo with ⟨rfl, hFrom⟩
      cases hMove
      exact ⟨rfl, hFrom⟩

/- An admitted booking has no conflict. -/
theorem admitBooking_ok
    {start stop : Instant}
    {rangeId instructorId exclude : Option Nat}
    {room : Bool}
    {u : Unit}
    (hAdmit :
      w.admitBooking cfg start stop rangeId instructorId
        exclude room = .ok u) :
    w.conflicts cfg start stop rangeId instructorId exclude =
      [] := by
  unfold admitBooking at hAdmit
  rcases bind_eq_ok.mp hAdmit with ⟨_, hClash, _⟩
  rw [refuseIf_eq_ok, decide_eq_false_iff_not, not_not]
    at hClash
  exact hClash

theorem admitApproval_ok
    {id : Nat}
    {evt : ScheduledEvent}
    {now start stop : Instant}
    {clear room : Bool}
    {u : Unit}
    (hAdmit :
      w.admitApproval cfg id evt now start stop clear room =
        .ok u) :
    w.conflicts cfg start stop evt.rangeId evt.instructorId
      (some id) = [] := by
  unfold admitApproval at hAdmit
  rcases bind_eq_ok.mp hAdmit with ⟨_, _, hAdmit⟩
  rcases bind_eq_ok.mp hAdmit with ⟨_, _, hAdmit⟩
  rcases bind_eq_ok.mp hAdmit with ⟨_, hClash, _⟩
  rw [refuseIf_eq_ok, Bool.or_eq_false_iff,
    decide_eq_false_iff_not, not_not] at hClash
  exact hClash.1

theorem pending_ok
    {evt : ScheduledEvent}
    {approval : BookingApproval}
    (hPending : pending evt = .ok approval) :
    evt.approval = some approval ∧
      evt.state = .pendingApproval := by
  unfold pending at hPending
  cases hApproval : evt.approval with
  | none =>
      rw [hApproval] at hPending
      cases hPending
  | some found =>
      by_cases hState : evt.state = .pendingApproval
      · simp only [hApproval, if_pos hState] at hPending
        cases hPending
        exact ⟨rfl, hState⟩
      · simp only [hApproval, if_neg hState] at hPending
        cases hPending

theorem backToApproval_ok
    {evt evt' : ScheduledEvent}
    (hBack : backToApproval evt = .ok evt') :
    evt' = { evt with state := .pendingApproval } ∧
      evt.approval.isSome = true := by
  unfold backToApproval at hBack
  cases hApproval : evt.approval with
  | none =>
      rw [hApproval] at hBack
      cases hBack
  | some approval =>
      rw [hApproval] at hBack
      cases hTo : transition evt .pendingApproval with
      | none =>
          rw [hTo] at hBack
          cases hBack
      | some moved =>
          rw [hTo] at hBack
          cases hBack
          refine ⟨?_, rfl⟩
          rw [← hApproval]
          exact (transition_cases hTo).1

/- Only an individual session's size is taken again. -/
theorem sized_eq
    (evt : ScheduledEvent)
    (demand : Resources) :
    ∃ size, sized evt demand = { evt with size := size } := by
  unfold sized
  by_cases hMode :
      evt.session.map ClassSession.rangeMode = some .individual
  · rw [if_pos hMode]
    exact ⟨demand, rfl⟩
  · rw [if_neg hMode]
    exact ⟨evt.size, rfl⟩

end World

end Scheduler

end TrueNorth

--------
-- Requests That Were Accepted
--------

namespace TrueNorth

namespace Scheduler

open Checks

namespace World

variable {cfg : Settings}
variable {w w' : World}

theorem create_cases
    {id : Nat}
    {body : EventIn}
    {ans : Answers}
    (hCreate : w.create cfg id body ans = .ok w') :
    ∃ rangeId,
      w.bookedRange body = .ok rangeId ∧
      w' = w.setEvent id (newEvent body ans rangeId) ∧
      ((newEvent body ans rangeId).state = .scheduled →
        w.conflicts cfg body.startTime body.endTime rangeId
          (newEvent body ans rangeId).instructorId none =
            []) := by
  unfold create at hCreate
  rcases bind_eq_ok.mp hCreate with ⟨_, _, hCreate⟩
  rcases bind_eq_ok.mp hCreate with ⟨_, _, hCreate⟩
  rcases bind_eq_ok.mp hCreate with ⟨rangeId, hRange, hCreate⟩
  rcases bind_eq_ok.mp hCreate with ⟨_, _, hCreate⟩
  rcases bind_eq_ok.mp hCreate with ⟨_, _, hCreate⟩
  rcases bind_eq_ok.mp hCreate with ⟨_, hAdmit, hCreate⟩
  cases hCreate
  refine ⟨rangeId, hRange, rfl, ?_⟩
  intro hState
  have hHeld : (!body.draft && body.classId.isNone) = true := by
    unfold newEvent at hState
    cases hDraft : body.draft with
    | true => simp [hDraft] at hState
    | false =>
        cases hClass : body.classId with
        | some cls => simp [hDraft, hClass] at hState
        | none => rfl
  exact admitBooking_ok (only_eq_ok.mp hAdmit hHeld)

/-
  What an edit leaves: the state it had, with its slot
  admitted where it holds one, or a session that asks for
  approval again.
-/
theorem update_cases
    {id : Nat}
    {body : EventIn}
    {ans : Answers}
    (hUpdate : w.update cfg id body ans = .ok w') :
    ∃ evt rangeId evt',
      w.events.get? id = some evt ∧
      evt.state.editable = true ∧
      w.bookedRange body = .ok rangeId ∧
      w' = w.setEvent id evt' ∧
      evt'.rangeId = rangeId ∧
      evt'.autoProvisioned = evt.autoProvisioned ∧
      evt'.approval.isSome = evt.approval.isSome ∧
      ((evt'.state = .pendingApproval ∧
          evt'.approval.isSome = true) ∨
        (evt'.state = evt.state ∧
          (evt.state = .scheduled →
            w.conflicts cfg evt'.startTime evt'.endTime
              evt'.rangeId evt'.instructorId (some id) =
                []))) := by
  unfold update at hUpdate
  rcases bind_eq_ok.mp hUpdate with ⟨_, _, hUpdate⟩
  rcases bind_eq_ok.mp hUpdate with ⟨evt, hOwned, hUpdate⟩
  rcases bind_eq_ok.mp hUpdate with ⟨_, _, hUpdate⟩
  rcases bind_eq_ok.mp hUpdate with ⟨_, hEditable, hUpdate⟩
  rcases bind_eq_ok.mp hUpdate with ⟨_, _, hUpdate⟩
  rcases bind_eq_ok.mp hUpdate with ⟨rangeId, hRange, hUpdate⟩
  rcases bind_eq_ok.mp hUpdate with ⟨_, _, hUpdate⟩
  rcases bind_eq_ok.mp hUpdate with ⟨_, _, hUpdate⟩
  rcases bind_eq_ok.mp hUpdate with ⟨_, hAdmit, hUpdate⟩
  have hState : evt.state.editable = true := by
    simpa using refuseIf_eq_ok.mp hEditable
  by_cases hAgain :
      reapproves evt (edited evt body ans rangeId) = true
  · simp only [if_pos hAgain] at hUpdate
    rcases bind_eq_ok.mp hUpdate with ⟨evt', hBack, hUpdate⟩
    cases hUpdate
    rcases backToApproval_ok hBack with ⟨rfl, hApproval⟩
    exact ⟨evt, rangeId, _, owned_ok hOwned, hState, hRange,
      rfl, rfl, rfl, rfl, .inl ⟨rfl, hApproval⟩⟩
  · simp only [if_neg hAgain] at hUpdate
    by_cases hMoot :
        (evt.state = .pendingApproval &&
          heldChange evt (edited evt body ans rangeId)) = true
    · simp only [if_pos hMoot] at hUpdate
      cases hUpdate
      have hPending : evt.state = .pendingApproval := by
        simpa using (Bool.and_eq_true_iff.mp hMoot).1
      refine ⟨evt, rangeId, _, owned_ok hOwned, hState, hRange,
        rfl, rfl, rfl, ?_, .inr ⟨rfl, ?_⟩⟩
      · unfold withdrawn edited
        rw [Option.isSome_map]
      · intro hScheduled
        rw [hPending] at hScheduled
        cases hScheduled
    · simp only [if_neg hMoot] at hUpdate
      cases hUpdate
      refine ⟨evt, rangeId, _, owned_ok hOwned, hState, hRange,
        rfl, rfl, rfl, rfl, .inr ⟨rfl, ?_⟩⟩
      intro hScheduled
      apply admitBooking_ok (only_eq_ok.mp hAdmit ?_)
      rw [Bool.and_eq_true, Bool.not_eq_true',
        decide_eq_true_eq]
      exact ⟨hScheduled, Bool.eq_false_iff.mpr hAgain⟩

theorem schedule_cases
    {tenantId id : Nat}
    {ans : Answers}
    (hSchedule : w.schedule cfg tenantId id ans = .ok w') :
    w' = w ∨
      ∃ evt target,
        w.events.get? id = some evt ∧
        w' = w.setEvent id { evt with state := target } ∧
        (evt.state = target ∨ evt.state ∈ target.sources) ∧
        ((target = .pendingApproval ∧
            evt.approval.isSome = true) ∨
          (target = .scheduled ∧ evt.approval = none ∧
            (evt.state = .draft →
              w.conflicts cfg evt.startTime evt.endTime
                evt.rangeId evt.instructorId (some id) =
                  []))) := by
  unfold schedule at hSchedule
  rcases bind_eq_ok.mp hSchedule with ⟨evt, hOwned, hSchedule⟩
  rcases bind_eq_ok.mp hSchedule with ⟨_, _, hSchedule⟩
  by_cases hApproval : evt.approval.isSome = true
  · rw [if_pos hApproval] at hSchedule
    by_cases hThere :
        (evt.state = .pendingApproval ||
          evt.state = .scheduled) = true
    · rw [if_pos hThere] at hSchedule
      cases hSchedule
      exact .inl rfl
    · rw [if_neg hThere] at hSchedule
      rcases move_ok hSchedule with ⟨hMoved, hFrom⟩
      exact .inr ⟨evt, _, owned_ok hOwned, hMoved, hFrom,
        .inl ⟨rfl, hApproval⟩⟩
  · rw [if_neg hApproval] at hSchedule
    rcases bind_eq_ok.mp hSchedule with ⟨_, hAdmit, hSchedule⟩
    rcases move_ok hSchedule with ⟨hMoved, hFrom⟩
    have hNone : evt.approval = none := by
      simpa using hApproval
    refine .inr ⟨evt, _, owned_ok hOwned, hMoved, hFrom,
      .inr ⟨rfl, hNone, ?_⟩⟩
    intro hDraft
    have hBoth := only_eq_ok.mp hAdmit (decide_eq_true hDraft)
    rcases bind_eq_ok.mp hBoth with ⟨_, _, hAdmit⟩
    exact admitBooking_ok hAdmit

/- A booking's own move: activation or completion. -/
theorem activate_cases
    {tenantId id : Nat}
    {allowed : Bool}
    (hActivate : w.activate tenantId id allowed = .ok w') :
    ∃ evt,
      w.events.get? id = some evt ∧
      w' = w.setEvent id { evt with state := .active } ∧
      evt.state.holding = true := by
  unfold activate at hActivate
  rcases bind_eq_ok.mp hActivate with ⟨evt, hOwned, hActivate⟩
  rcases bind_eq_ok.mp hActivate with ⟨_, _, hActivate⟩
  rcases move_ok hActivate with ⟨hMoved, hFrom⟩
  refine ⟨evt, owned_ok hOwned, hMoved, ?_⟩
  rcases hFrom with hSame | hSource
  · rw [hSame]
    rfl
  · simp only [EventState.sources, List.mem_cons,
      List.not_mem_nil, or_false] at hSource
    rcases hSource with hState | hState
    · rw [hState]
      rfl
    · rw [hState]
      rfl

theorem complete_cases
    {tenantId id : Nat}
    {allowed : Bool}
    (hComplete : w.complete tenantId id allowed = .ok w') :
    ∃ evt,
      w.events.get? id = some evt ∧
      w' = w.setEvent id { evt with state := .completed } := by
  unfold complete at hComplete
  rcases bind_eq_ok.mp hComplete with ⟨evt, hOwned, hComplete⟩
  rcases bind_eq_ok.mp hComplete with ⟨_, _, hComplete⟩
  exact ⟨evt, owned_ok hOwned, (move_ok hComplete).1⟩

theorem cancel_cases
    {tenantId id : Nat}
    {allowed accepted : Bool}
    (hCancel : w.cancel tenantId id allowed accepted = .ok w') :
    ∃ evt moved,
      w.events.get? id = some evt ∧
      moved = w.setEvent id { evt with state := .cancelled } ∧
      (w' = moved ∨ w' = moved.releaseRange id accepted) := by
  unfold cancel at hCancel
  rcases bind_eq_ok.mp hCancel with ⟨evt, hOwned, hCancel⟩
  rcases bind_eq_ok.mp hCancel with ⟨_, _, hCancel⟩
  rcases bind_eq_ok.mp hCancel with ⟨moved, hMove, hCancel⟩
  refine ⟨evt, moved, owned_ok hOwned, (move_ok hMove).1, ?_⟩
  by_cases hState : evt.state = .cancelled
  · rw [if_pos hState] at hCancel
    cases hCancel
    exact .inl rfl
  · rw [if_neg hState] at hCancel
    cases hCancel
    exact .inr rfl

end World

end Scheduler

end TrueNorth

--------
-- Approvals That Were Accepted
--------

namespace TrueNorth

namespace Scheduler

open Checks

namespace World

variable {cfg : Settings}
variable {w w' : World}

theorem approve_cases
    {tenantId id : Nat}
    {now : Instant}
    {ans : Answers}
    (hApprove : w.approve cfg tenantId id now ans = .ok w') :
    w' = w ∨
      ∃ evt evt',
        w.events.get? id = some evt ∧
        w' = w.setEvent id evt' ∧
        evt'.state = .scheduled ∧
        SameOwner evt evt' ∧
        w.conflicts cfg evt'.startTime evt'.endTime
          evt'.rangeId evt'.instructorId (some id) = [] := by
  unfold approve at hApprove
  rcases bind_eq_ok.mp hApprove with ⟨evt, hOwned, hApprove⟩
  by_cases hThere :
      (evt.approval.isSome && evt.state = .scheduled) = true
  · rw [if_pos hThere] at hApprove
    cases hApprove
    exact .inl rfl
  · rw [if_neg hThere] at hApprove
    rcases bind_eq_ok.mp hApprove with ⟨_, _, hApprove⟩
    rcases bind_eq_ok.mp hApprove with ⟨_, _, hApprove⟩
    rcases bind_eq_ok.mp hApprove with ⟨_, hAdmit, hApprove⟩
    rcases sized_eq evt ans.demand with ⟨size, hSized⟩
    rw [hSized] at hAdmit hApprove
    exact .inr ⟨evt, _, owned_ok hOwned,
      (move_ok hApprove).1, rfl, ⟨rfl, rfl⟩,
      admitApproval_ok hAdmit⟩

theorem reject_cases
    {tenantId id : Nat}
    {allowed : Bool}
    (hReject : w.reject tenantId id allowed = .ok w') :
    w' = w ∨
      ∃ evt evt',
        w.events.get? id = some evt ∧
        w' = w.setEvent id evt' ∧
        evt'.state = .rejected ∧
        SameOwner evt evt' := by
  unfold reject at hReject
  rcases bind_eq_ok.mp hReject with ⟨evt, hOwned, hReject⟩
  rcases bind_eq_ok.mp hReject with ⟨_, _, hReject⟩
  by_cases hThere :
      (evt.approval.isSome && evt.state = .rejected) = true
  · rw [if_pos hThere] at hReject
    cases hReject
    exact .inl rfl
  · rw [if_neg hThere] at hReject
    rcases bind_eq_ok.mp hReject with ⟨_, _, hReject⟩
    exact .inr ⟨evt, _, owned_ok hOwned, (move_ok hReject).1,
      rfl, ⟨rfl, rfl⟩⟩

theorem propose_cases
    {tenantId id : Nat}
    {now start stop : Instant}
    {clear : Bool}
    {ans : Answers}
    (hPropose :
      w.propose cfg tenantId id now start stop clear ans =
        .ok w') :
    ∃ evt evt',
      w.events.get? id = some evt ∧
      w' = w.setEvent id evt' ∧
      evt'.state = .pendingApproval ∧
      evt'.approval.isSome = true ∧
      SameOwner evt evt' := by
  unfold propose at hPropose
  rcases bind_eq_ok.mp hPropose with ⟨evt, hOwned, hPropose⟩
  rcases bind_eq_ok.mp hPropose with ⟨_, hPending, hPropose⟩
  rcases bind_eq_ok.mp hPropose with ⟨_, _, hPropose⟩
  rcases bind_eq_ok.mp hPropose with ⟨_, _, hPropose⟩
  rcases bind_eq_ok.mp hPropose with ⟨_, _, hPropose⟩
  cases hPropose
  exact ⟨evt, _, owned_ok hOwned, rfl, (pending_ok hPending).2,
    rfl, ⟨rfl, rfl⟩⟩

theorem accept_cases
    {tenantId id : Nat}
    {now : Instant}
    {ans : Answers}
    (hAccept : w.accept cfg tenantId id now ans = .ok w') :
    ∃ evt evt',
      w.events.get? id = some evt ∧
      w' = w.setEvent id evt' ∧
      evt'.state = .scheduled ∧
      SameOwner evt evt' ∧
      w.conflicts cfg evt'.startTime evt'.endTime
        evt'.rangeId evt'.instructorId (some id) = [] := by
  unfold accept at hAccept
  rcases bind_eq_ok.mp hAccept with ⟨evt, hOwned, hAccept⟩
  rcases bind_eq_ok.mp hAccept with ⟨approval, _, hAccept⟩
  cases hProposed : approval.proposed with
  | none =>
      rw [hProposed] at hAccept
      cases hAccept
  | some window =>
      rcases window with ⟨start, stop⟩
      rw [hProposed] at hAccept
      rcases bind_eq_ok.mp hAccept with ⟨_, _, hAccept⟩
      rcases bind_eq_ok.mp hAccept with ⟨_, hAdmit, hAccept⟩
      rcases sized_eq evt ans.demand with ⟨size, hSized⟩
      rw [hSized] at hAdmit hAccept
      exact ⟨evt, _, owned_ok hOwned, (move_ok hAccept).1, rfl,
        ⟨rfl, rfl⟩, admitApproval_ok hAdmit⟩

/- What is accepted had been proposed. -/
theorem accept_proposed
    {tenantId id : Nat}
    {now : Instant}
    {ans : Answers}
    (hAccept : w.accept cfg tenantId id now ans = .ok w') :
    ∃ evt window,
      w.events.get? id = some evt ∧
      evt.approval.bind BookingApproval.proposed =
        some window := by
  unfold accept at hAccept
  rcases bind_eq_ok.mp hAccept with ⟨evt, hOwned, hAccept⟩
  rcases bind_eq_ok.mp hAccept with
    ⟨approval, hPending, hAccept⟩
  cases hProposed : approval.proposed with
  | none =>
      rw [hProposed] at hAccept
      cases hAccept
  | some window =>
      refine ⟨evt, window, owned_ok hOwned, ?_⟩
      rw [(pending_ok hPending).1, Option.bind_some, hProposed]

theorem decline_cases
    {tenantId id : Nat}
    {allowed : Bool}
    (hDecline : w.decline tenantId id allowed = .ok w') :
    ∃ evt evt',
      w.events.get? id = some evt ∧
      w' = w.setEvent id evt' ∧
      evt'.state = .pendingApproval ∧
      evt'.approval.isSome = true ∧
      SameOwner evt evt' := by
  unfold decline at hDecline
  rcases bind_eq_ok.mp hDecline with ⟨evt, hOwned, hDecline⟩
  rcases bind_eq_ok.mp hDecline with ⟨_, hPending, hDecline⟩
  rcases bind_eq_ok.mp hDecline with ⟨_, _, hDecline⟩
  rcases bind_eq_ok.mp hDecline with ⟨_, _, hDecline⟩
  cases hDecline
  rcases pending_ok hPending with ⟨hApproval, hState⟩
  refine ⟨evt, _, owned_ok hOwned, rfl, hState, ?_,
    ⟨rfl, rfl⟩⟩
  unfold withdrawn
  rw [Option.isSome_map, hApproval]
  rfl

end World

end Scheduler

end TrueNorth
