import TrueNorth.Scheduler.DoubleBooking
import TrueNorth.Scheduler.Terms

/-
  What one step of a site with class ranges makes of every
  booking's request: the operations that look at class
  ranges, the class clock, and the step as a whole.

  Main theorems:
    * `ClassWorld.update_turns`
    * `ClassWorld.classTick_turns`
    * `ClassWorld.step_turns`
-/

--------
-- Steps Beside Class Ranges
--------

namespace TrueNorth

namespace Scheduler

open Checks

namespace ClassWorld

variable {cfg : Settings}
variable {cw cw' : ClassWorld}
variable {action : ClassAction}
variable {rows : List ClassRange}

/- The range a class's pass releases is no request's. -/
theorem releaseRange_request
    (cw : ClassWorld)
    (w : World)
    (id : Nat)
    (accepted : Bool) :
    (cw.releaseRange w id accepted).request = w.request := by
  unfold releaseRange
  cases hGet : w.events.get? id with
  | none => rfl
  | some evt =>
      dsimp only
      by_cases hOwns :
          (evt.autoProvisioned &&
            cw.isClassRange evt.rangeId) = true
      · rw [if_pos hOwns]
        exact World.disown_request w id
      · rw [if_neg hOwns]
        exact World.releaseRange_request w id accepted

theorem create_turns
    {id : Nat}
    {body : EventIn}
    {ans : Answers}
    (hAbsent : cw.world.events.get? id = none)
    (hCreate : cw.create cfg id body ans = .ok cw') :
    Turns action rows cw.world cw'.world := by
  unfold create at hCreate
  rcases bind_eq_ok.mp hCreate with ⟨_, _, hCreate⟩
  rcases bind_eq_ok.mp hCreate with ⟨w, hBooked, hCreate⟩
  cases hCreate
  exact World.create_turns hAbsent hBooked

theorem schedule_turns
    (hLinked : cw.world.Linked)
    {tenantId id : Nat}
    {ans : Answers}
    (hSchedule : cw.schedule cfg tenantId id ans = .ok cw') :
    Turns action rows cw.world cw'.world := by
  unfold schedule at hSchedule
  rcases bind_eq_ok.mp hSchedule with ⟨_, _, hSchedule⟩
  rcases bind_eq_ok.mp hSchedule with ⟨_, _, hSchedule⟩
  rcases bind_eq_ok.mp hSchedule with ⟨w, hMoved, hSchedule⟩
  cases hSchedule
  exact World.schedule_turns hLinked hMoved

theorem cancel_turns
    (hLinked : cw.world.Linked)
    {tenantId id : Nat}
    {allowed accepted : Bool}
    (hCancel :
      cw.cancel tenantId id allowed accepted = .ok cw') :
    Turns action rows cw.world cw'.world := by
  unfold cancel at hCancel
  rcases bind_eq_ok.mp hCancel with ⟨evt, hOwned, hCancel⟩
  rcases bind_eq_ok.mp hCancel with ⟨_, _, hCancel⟩
  rcases bind_eq_ok.mp hCancel with ⟨w, hMove, hCancel⟩
  cases hCancel
  rcases World.move_ok hMove with ⟨rfl, hFrom⟩
  have hGet := World.owned_ok hOwned
  apply World.turns_then
    (World.turns_move hGet
      (World.change_of_end hLinked hGet (.inr rfl) hFrom))
  unfold withWorld
  by_cases hThere : evt.state = .cancelled
  · simp only [if_pos hThere]
  · simp only [if_neg hThere]
    exact releaseRange_request cw _ id accepted

/- What an edit writes of the booking it found. -/
theorem update_cases
    {id : Nat}
    {body : EventIn}
    {ans : Answers}
    (hUpdate : cw.update cfg id body ans = .ok cw') :
    ∃ evt evt' rangeId,
      cw.world.events.get? id = some evt ∧
      evt.state.editable = true ∧
      editWritten evt (World.edited evt body ans rangeId) =
        .ok evt' ∧
      cw' = cw.withWorld (cw.world.setEvent id evt') := by
  unfold update at hUpdate
  rcases bind_eq_ok.mp hUpdate with ⟨_, _, hUpdate⟩
  rcases bind_eq_ok.mp hUpdate with ⟨evt, hOwned, hUpdate⟩
  rcases bind_eq_ok.mp hUpdate with ⟨_, _, hUpdate⟩
  rcases bind_eq_ok.mp hUpdate with ⟨_, hEditable, hUpdate⟩
  rcases bind_eq_ok.mp hUpdate with ⟨_, _, hUpdate⟩
  rcases bind_eq_ok.mp hUpdate with ⟨_, _, hUpdate⟩
  rcases bind_eq_ok.mp hUpdate with ⟨_, _, hUpdate⟩
  rcases bind_eq_ok.mp hUpdate with ⟨_, _, hUpdate⟩
  rcases bind_eq_ok.mp hUpdate with ⟨_, _, hUpdate⟩
  rcases bind_eq_ok.mp hUpdate with ⟨evt', hWritten, hUpdate⟩
  cases hUpdate
  exact ⟨evt, evt', _, World.owned_ok hOwned,
    by simpa using refuseIf_eq_ok.mp hEditable, hWritten, rfl⟩

theorem editable_cases
    {s : EventState}
    (hEditable : s.editable = true) :
    s = .draft ∨ s = .pendingApproval ∨ s = .scheduled := by
  unfold EventState.editable at hEditable
  simpa using hEditable

/-
  An edit of an approved session that changes what it holds
  asks again, one of a waiting session withdraws what was
  proposed, and any other changes nothing an approver read.
-/
theorem update_turns
    (hLinked : cw.world.Linked)
    {id : Nat}
    {body : EventIn}
    {ans : Answers}
    (hUpdate : cw.update cfg id body ans = .ok cw') :
    Turns action rows cw.world cw'.world := by
  rcases update_cases hUpdate with
    ⟨evt, evt', rangeId, hGet, hEditable, hWritten, rfl⟩
  have hState := editable_cases hEditable
  unfold editWritten at hWritten
  by_cases hAgain :
      World.reapproves evt
        (World.edited evt body ans rangeId) = true
  · rw [if_pos hAgain] at hWritten
    rcases World.backToApproval_ok hWritten with ⟨rfl, _⟩
    have hScheduled : evt.state = .scheduled := by
      unfold World.reapproves at hAgain
      simp only [Bool.and_eq_true, decide_eq_true_eq] at hAgain
      exact hAgain.1.2
    apply World.turns_write hGet
    · exact Option.isSome_map
    · rfl
    · have hNone : evt.request.proposal = none := by
        refine hLinked.no_proposal hGet ?_ ?_
        · rw [hScheduled]
          nofun
        · rw [hScheduled]
          nofun
      exact .asked (.inr hScheduled) rfl hNone
  · rw [if_neg hAgain] at hWritten
    by_cases hMoot :
        (evt.state = .pendingApproval &&
          World.heldChange evt
            (World.edited evt body ans rangeId)) = true
    · rw [if_pos hMoot] at hWritten
      cases hWritten
      have hPending : evt.state = .pendingApproval := by
        simpa using (Bool.and_eq_true_iff.mp hMoot).1
      apply World.turns_write hGet
      · exact Option.isSome_map
      · exact World.withdrawn_approval _
      · exact .rewritten (.inr hPending) rfl
          (World.withdrawn_proposal _)
    · rw [if_neg hMoot] at hWritten
      cases hWritten
      apply World.turns_write hGet
      · exact Option.isSome_map
      · rfl
      · by_cases hHeld :
            World.heldChange evt
              (World.edited evt body ans rangeId) = true
        · rcases hState with hDraft | hPending | hScheduled
          · have hNone : evt.request.proposal = none := by
              refine hLinked.no_proposal hGet ?_ ?_
              · rw [hDraft]
                nofun
              · rw [hDraft]
                nofun
            refine .rewritten ?_ ?_ hNone
            · exact .inl hDraft
            · rfl
          · refine absurd ?_ hMoot
            rw [hHeld, hPending]
            rfl
          · apply Change.plain
            · show evt.session = none
              rw [← Option.not_isSome_iff_eq_none]
              intro hSession
              apply hAgain
              unfold World.reapproves
              rw [hSession, hScheduled, hHeld]
              rfl
            · intro _
              rfl
        · have hTerms := mt heldChange_iff.mpr hHeld
          rw [not_not] at hTerms
          exact .kept hTerms.symm rfl (.inl rfl)

theorem clock_turns
    (hLinked : cw.world.Linked)
    (now : Instant)
    (id : Nat)
    (pass : Pass) :
    Turns action rows cw.world
      (cw.clock cfg now id pass).world := by
  unfold clock
  cases pass with
  | complete accepted =>
      cases hGet : cw.world.events.get? id with
      | none => exact World.clock_turns hLinked now id _
      | some evt =>
          dsimp only
          by_cases hDue :
              (Pass.complete accepted).due cfg now evt = true
          · rw [if_pos hDue]
            exact World.turns_then
              (World.claim_turns hLinked hGet (.inl rfl))
              (releaseRange_request cw _ id accepted)
          · rw [if_neg hDue]
            exact World.turns_same rfl
  | retry accepted =>
      cases hGet : cw.world.events.get? id with
      | none => exact World.clock_turns hLinked now id _
      | some evt =>
          dsimp only
          by_cases hDue :
              (Pass.retry accepted).due cfg now evt = true
          · rw [if_pos hDue]
            exact World.turns_same
              (releaseRange_request cw _ id accepted)
          · rw [if_neg hDue]
            exact World.turns_same rfl
  | createRange rangeId =>
      exact World.clock_turns hLinked now id _
  | provision held accepted exerciseId =>
      exact World.clock_turns hLinked now id _
  | buildActive held accepted =>
      exact World.clock_turns hLinked now id _
  | activate held => exact World.clock_turns hLinked now id _
  | lapse => exact World.clock_turns hLinked now id _

--------
-- The Class Clock
--------

variable {cfg : Settings}
variable {cw : ClassWorld}

/- A class's range is built beside the bookings. -/
theorem provisionRow_events
    (cw : ClassWorld)
    (rangeId : Nat)
    (rng : Range)
    (accepted : Bool) :
    (cw.provisionRow rangeId rng accepted).world.events =
      cw.world.events := by
  unfold provisionRow
  by_cases hSent :
      (buildable rng.state && !rng.lab && accepted) = true
  · rw [if_pos hSent]
    rfl
  · rw [if_neg hSent]

theorem ensure_events
    (cw : ClassWorld)
    (tenantId : Nat)
    (row : ClassRange)
    (newRange : Option Nat)
    (accepted : Bool) :
    (cw.ensure tenantId row newRange accepted).world.events =
      cw.world.events := by
  unfold ensure
  cases hStands : cw.standing row with
  | some found =>
      rcases found with ⟨rangeId, rng⟩
      dsimp only
      by_cases hCreated : rng.state = .created
      · rw [if_pos hCreated]
        exact provisionRow_events cw rangeId rng accepted
      · rw [if_neg hCreated]
  | none =>
      dsimp only
      cases newRange with
      | none => rfl
      | some rangeId =>
          dsimp only
          by_cases hUnused : cw.unusedRange rangeId = true
          · rw [if_pos hUnused, provisionRow_events]
            rfl
          · rw [if_neg hUnused]

theorem teardown_events
    (cw : ClassWorld)
    (row : ClassRange)
    (accepted : Bool) :
    (cw.teardown row accepted).world.events =
      cw.world.events := by
  unfold teardown
  cases hRange : row.rangeId with
  | none => rfl
  | some rangeId =>
      dsimp only
      by_cases hDone :
          (row.tornDown || !cw.classRanges.contains row) = true
      · rw [if_pos hDone]
      · rw [if_neg hDone]
        cases hGet : cw.world.ranges.get? rangeId with
        | none => rfl
        | some rng =>
            dsimp only
            by_cases hCreated : rng.state = .created
            · rw [if_pos hCreated]
              rfl
            · rw [if_neg hCreated]
              by_cases hGone :
                  (rng.state = .destroying ||
                    rng.state = .destroyed) = true
              · rw [if_pos hGone]
                rfl
              · rw [if_neg hGone]
                by_cases hWait :
                    (rng.lab || !accepted) = true
                · rw [if_pos hWait]
                · rw [if_neg hWait]
                  rfl

/- The row that a seat's lookup finds. -/
theorem row_cases
    {classId templateId : Nat}
    {seat : Option Nat}
    {row : ClassRange}
    (hRow : cw.row classId templateId seat = some row) :
    row ∈ cw.classRanges ∧ row.classId = classId ∧
      row.templateId = templateId ∧ row.seat = seat := by
  unfold ClassWorld.row at hRow
  have hFound := List.find?_some hRow
  simp only [Bool.and_eq_true, decide_eq_true_eq] at hFound
  exact ⟨List.mem_of_find?_eq_some hRow, hFound.1.1,
    hFound.1.2, hFound.2⟩

/- A session pointed at the shared range of its class. -/
theorem shareRange_turns
    {id classId templateId : Nat}
    {evt : ScheduledEvent}
    (hGet : cw.world.events.get? id = some evt)
    (hLink : evt.session = some ⟨classId, .collective⟩)
    (hTemplate : evt.templateId = some templateId)
    (now : Instant)
    (newRange : Option Nat)
    (accepted : Bool) :
    Turns (.classTick now id (.shared newRange accepted))
      (cw.shareRange id evt.tenantId classId templateId newRange
        accepted).classRanges cw.world
      (cw.shareRange id evt.tenantId classId templateId newRange
        accepted).world := by
  unfold shareRange
  have hEvents := ensure_events cw evt.tenantId
    (cw.rowOrNew classId templateId none) newRange accepted
  generalize cw.ensure evt.tenantId
    (cw.rowOrNew classId templateId none) newRange accepted =
      cw' at hEvents
  have hSame := World.request_of_events hEvents
  dsimp only
  cases hRow : cw'.row classId templateId none with
  | none => exact World.turns_same hSame
  | some row =>
      dsimp only
      cases hRange : row.rangeId with
      | none => exact World.turns_same hSame
      | some rangeId =>
          dsimp only
          unfold attachRange
          rw [hEvents, hGet]
          dsimp only
          by_cases hFree :
              (evt.rangeId.isNone && evt.state.holding) = true
          · rw [if_pos hFree]
            rw [Bool.and_eq_true, Option.isNone_iff_eq_none]
              at hFree
            rcases row_cases hRow with
              ⟨hMem, rfl, rfl, hSeat⟩
            apply World.turns_set hGet
            · show cw'.world.events.set id _ = _
              rw [hEvents]
            · rfl
            · rfl
            · exact .attached now (.shared newRange accepted)
                rangeId rfl hFree.2 hFree.1 rfl
                ⟨row, hMem, hLink, hTemplate, hSeat, hRange⟩
                rfl rfl
          · rw [if_neg hFree]
            exact World.turns_same hSame

theorem classTick_turns
    (now : Instant)
    (id : Nat)
    (pass : ClassPass) :
    Turns (.classTick now id pass)
      (cw.classTick cfg now id pass).classRanges cw.world
      (cw.classTick cfg now id pass).world := by
  unfold classTick
  cases hGet : cw.world.events.get? id with
  | none => exact World.turns_same rfl
  | some evt =>
      cases hLink : evt.session with
      | none =>
          simp only [hLink]
          exact World.turns_same rfl
      | some link =>
          cases hTemplate : evt.templateId with
          | none =>
              simp only [hLink, hTemplate]
              exact World.turns_same rfl
          | some templateId =>
              simp only [hLink, hTemplate]
              by_cases hDue : classDue cfg now evt = true
              · rw [if_pos hDue]
                rcases link with ⟨classId, mode⟩
                cases mode with
                | individual =>
                    cases pass with
                    | shared newRange accepted =>
                        exact World.turns_same rfl
                    | seat entryId newRange accepted =>
                        exact World.turns_same
                          (World.request_of_events
                            (ensure_events cw _ _ _ _))
                | collective =>
                    cases pass with
                    | seat entryId newRange accepted =>
                        exact World.turns_same rfl
                    | shared newRange accepted =>
                        dsimp only
                        by_cases hOurs :
                            (evt.rangeId.isNone ||
                              cw.ofClass classId
                                evt.rangeId) = true
                        · rw [if_pos hOurs]
                          exact shareRange_turns hGet hLink
                            hTemplate now newRange accepted
                        · rw [if_neg hOurs]
                          exact World.turns_same rfl
              · rw [if_neg hDue]
                exact World.turns_same rfl

--------
-- One Step
--------

variable {cfg : Settings}
variable {cw : ClassWorld}
variable {action : ClassAction}
variable {rows : List ClassRange}

/- A request that is refused turns nothing. -/
theorem settle_turns
    {x : Except Refusal ClassWorld}
    (hOk : ∀ cw', x = .ok cw' →
      Turns action rows cw.world cw'.world) :
    Turns action rows cw.world (cw.settle x).world := by
  cases x with
  | error e => exact World.turns_same rfl
  | ok cw' => exact hOk cw' rfl

theorem world_settle_turns
    {w : World}
    {x : Except Refusal World}
    (hOk : ∀ w', x = .ok w' → Turns action rows w w') :
    Turns action rows w (w.settle x) := by
  cases x with
  | error e => exact World.turns_same rfl
  | ok w' => exact hOk w' rfl

theorem step_turns
    (hLinked : cw.world.Linked)
    (action : ClassAction) :
    Turns action (cw.step cfg action).classRanges cw.world
      (cw.step cfg action).world := by
  cases action with
  | classTick now id pass => exact classTick_turns now id pass
  | teardown row accepted =>
      exact World.turns_same
        (World.request_of_events
          (teardown_events cw row accepted))
  | act action =>
      cases action with
      | create id body ans =>
          by_cases hThere :
              (cw.world.events.get? id).isSome = true
          · simp only [step, if_pos hThere]
            exact World.turns_same rfl
          · simp only [step, if_neg hThere]
            rw [Option.not_isSome_iff_eq_none] at hThere
            exact settle_turns
              (fun _ hCreate => create_turns hThere hCreate)
      | update id body ans =>
          exact settle_turns
            (fun _ hUpdate => update_turns hLinked hUpdate)
      | schedule tenantId id ans =>
          exact settle_turns
            (fun _ hMove => schedule_turns hLinked hMove)
      | cancel tenantId id allowed accepted =>
          exact settle_turns
            (fun _ hCancel => cancel_turns hLinked hCancel)
      | clock now id pass => exact clock_turns hLinked now id pass
      | activate tenantId id allowed =>
          exact world_settle_turns
            (fun _ hOk => World.activate_turns hOk)
      | complete tenantId id allowed =>
          exact world_settle_turns
            (fun _ hOk => World.complete_turns hLinked hOk)
      | approve tenantId id now ans =>
          exact world_settle_turns
            (fun _ hOk => World.approve_turns hOk)
      | reject tenantId id allowed =>
          exact world_settle_turns
            (fun _ hOk => World.reject_turns hOk)
      | propose tenantId id now start stop clear ans =>
          exact world_settle_turns
            (fun _ hOk => World.propose_turns hOk)
      | accept tenantId id now ans =>
          exact world_settle_turns
            (fun _ hOk => World.accept_turns hOk)
      | decline tenantId id allowed =>
          exact world_settle_turns
            (fun _ hOk => World.decline_turns hOk)
      | worker rangeId state =>
          exact World.turns_same
            (World.request_of_events
              (World.workerReports_events cw.world rangeId
                state))

/- Requests read as they should after every step. -/
theorem step_linked
    (hLinked : cw.world.Linked)
    (action : ClassAction) :
    (cw.step cfg action).world.Linked := by
  intro id r hRequest
  have hTurn := @step_turns cfg cw hLinked action id
  rw [hRequest] at hTurn
  exact hTurn.linked (hLinked id)

end ClassWorld

end Scheduler

end TrueNorth
