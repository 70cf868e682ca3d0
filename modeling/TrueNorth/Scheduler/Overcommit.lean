import TrueNorth.Scheduler.DoubleBooking
import TrueNorth.Scheduler.Fitted

/-
  The cluster is not overcommitted: what the bookings and the
  class holds ask of it in a run, as bookings are made,
  approved and released.

  Key definitions include:
    * `Cluster.checked`

  Main theorem:
    * `Cluster.never_overcommitted`
-/

--------
-- Bookings That Move On
--------

namespace TrueNorth

namespace Scheduler

section

variable {site : Site}
variable {supply : Resources}
variable {w w' : World}
variable {id : Nat}
variable {evt : ScheduledEvent}

/- A booking's owner or exercise is nothing it holds. -/
theorem safe_same
    {evt' : ScheduledEvent}
    (hSafe : Safe site supply w.events)
    (hGet : w.events.get? id = some evt)
    (hAlike : Alike evt evt')
    (hState : evt'.state = evt.state)
    (hApproval : evt'.approval.isSome = evt.approval.isSome) :
    Safe site supply (w.setEvent id evt').events := by
  apply safe_alike hSafe hGet hAlike hApproval
  intro hPending
  rw [← hState]
  exact hPending

/- It holds what it held. -/
theorem safe_moved
    {target : EventState}
    (hSafe : Safe site supply w.events)
    (hGet : w.events.get? id = some evt)
    (hFrom : evt.state.holding = true)
    (hTarget : target.holding = true) :
    Safe site supply
      (w.setEvent id { evt with state := target }).events := by
  apply safe_alike hSafe hGet
  · constructor
    · rfl
    · rfl
    · rfl
    · rfl
    · rfl
    · rfl
    · exact hTarget.trans hFrom.symm
    · unfold EventState.needsRanges
      simp [hTarget, hFrom]
    · intro _
      rfl
  · rfl
  · intro hPending
    simp only at hPending
    rw [hPending] at hTarget
    cases hTarget

/- It held nothing but for itself, and holds nothing now. -/
theorem safe_released
    {target : EventState}
    (hSafe : Safe site supply w.events)
    (hGet : w.events.get? id = some evt)
    (hOff : target.holding = false)
    (hPlain : evt.session = none ∨
      (evt.state.needsRanges = false ∧
        target.needsRanges = false))
    (hTarget : target ≠ .pendingApproval) :
    Safe site supply
      (w.setEvent id { evt with state := target }).events := by
  apply safe_uncounted hSafe
  · intro e hSome
    rw [hGet] at hSome
    cases hSome
    rcases hPlain with hPlain | ⟨hState, _⟩
    · exact rowKey_none hPlain
    · exact (Uncounted.of_state hState).row
  · rcases hPlain with hPlain | ⟨_, hState⟩
    · exact ⟨hOff, rowKey_none hPlain⟩
    · exact Uncounted.of_state hState
  · refine ⟨hSafe.approval id evt hGet, ?_, ?_⟩
    · intro hPending
      exact absurd hPending hTarget
    · intro key size hKey
      exact hSafe.sized id evt key size hGet hKey

theorem safe_claim
    {target : EventState}
    (hSafe : Safe site supply w.events)
    (hMoved : Safe site supply
      (w.setEvent id { evt with state := target }).events) :
    Safe site supply (w.claim id evt target).events := by
  unfold World.claim
  cases hMove : World.transition evt target with
  | none => exact hSafe
  | some evt' =>
      rcases World.transition_cases hMove with ⟨rfl, _⟩
      exact hMoved

theorem safe_disown
    (hSafe : Safe site supply w.events)
    (id : Nat) :
    Safe site supply (w.disown id).events := by
  unfold World.disown
  cases hGet : w.events.get? id with
  | none => exact hSafe
  | some evt =>
      apply safe_same hSafe hGet
      · exact { Alike.refl evt with }
      · rfl
      · rfl

/- Whoever owns a range, and whether it is torn down. -/
theorem safe_releaseRange
    (hSafe : Safe site supply w.events)
    (id : Nat)
    (accepted : Bool) :
    Safe site supply (w.releaseRange id accepted).events := by
  unfold World.releaseRange
  cases hGet : w.events.get? id with
  | none => exact hSafe
  | some evt =>
      dsimp only
      cases hOwner : evt.autoProvisioned with
      | false => exact hSafe
      | true =>
          cases hRange : evt.rangeId with
          | none => exact hSafe
          | some rangeId =>
              dsimp only
              cases hHeir : (w.holders rangeId id).head? with
              | some heir =>
                  rcases heir with ⟨heirId, heir⟩
                  have hMem := List.mem_of_mem_head? hHeir
                  have hGetHeir := (World.mem_holders.mp hMem).1
                  apply safe_disown
                  apply safe_same hSafe hGetHeir
                  · exact { Alike.refl heir with }
                  · rfl
                  · rfl
              | none =>
                  have hEvents :
                      (w.destroyForBooking id rangeId
                        accepted).1.events = w.events :=
                    World.destroyForBooking_events w id rangeId
                      accepted
                  rcases hDone :
                      w.destroyForBooking id rangeId accepted
                    with ⟨w', settled⟩
                  rw [hDone] at hEvents
                  rw [← hEvents] at hSafe
                  cases settled with
                  | false => exact hSafe
                  | true => exact safe_disown hSafe id

end

--------
-- The Clock
--------

section

variable {site : Site}
variable {supply : Resources}
variable {w w' : World}
variable {id rangeId : Nat}
variable {evt : ScheduledEvent}

/- Only a booking of no class is given a range. -/
theorem safe_createRange
    (hSafe : Safe site supply w.events)
    (hGet : w.events.get? id = some evt)
    (hPlain : evt.session = none) :
    Safe site supply (w.createRange id rangeId evt).events := by
  unfold World.createRange
  by_cases hUnused : w.unusedRange rangeId = true
  · rw [if_pos hUnused]
    apply safe_same hSafe hGet
    · constructor
      · rfl
      · rfl
      · rfl
      · rfl
      · rfl
      · rfl
      · rfl
      · rfl
      · intro hSome
        rw [hPlain] at hSome
        cases hSome
    · rfl
    · rfl
  · rw [if_neg hUnused]
    exact hSafe

theorem safe_provisionForBooking
    (hSafe : Safe site supply w.events)
    (id rangeId : Nat)
    (accepted : Bool) :
    Safe site supply
      (w.provisionForBooking id rangeId accepted).1.events := by
  unfold World.provisionForBooking
  cases hRange : w.ranges.get? rangeId with
  | none => exact hSafe
  | some rng =>
      cases hGet : w.events.get? id with
      | none => exact hSafe
      | some evt =>
          dsimp only
          by_cases hSent :
              (buildable rng.state && !rng.lab && accepted) =
                true
          · rw [if_pos hSent]
            exact safe_same hSafe hGet
              { Alike.refl evt with } rfl rfl
          · rw [if_neg hSent]
            exact hSafe

theorem safe_createExercise
    (hSafe : Safe site supply w.events)
    (id exerciseId : Nat) :
    Safe site supply (w.createExercise id exerciseId).events := by
  unfold World.createExercise
  cases hGet : w.events.get? id with
  | none => exact hSafe
  | some evt =>
      dsimp only
      by_cases hDue :
          (evt.scenarioId.isSome && evt.exerciseId.isNone &&
            (w.exercises.get? exerciseId).isNone) = true
      · rw [if_pos hDue]
        exact safe_same hSafe hGet
          { Alike.refl evt with } rfl rfl
      · rw [if_neg hDue]
        exact hSafe

theorem safe_provision
    {held accepted : Bool}
    {exerciseId : Nat}
    (hSafe : Safe site supply w.events)
    (hGet : w.events.get? id = some evt)
    (hState : evt.state = .scheduled) :
    Safe site supply
      (w.provision id rangeId evt held accepted
        exerciseId).events := by
  unfold World.provision
  by_cases hHeld : w.heldByWindow rangeId held = true
  · rw [if_pos hHeld]
    exact hSafe
  · rw [if_neg hHeld]
    cases hMove : World.transition evt .provisioning with
    | none => exact hSafe
    | some evt' =>
        rcases World.transition_cases hMove with ⟨rfl, _⟩
        apply safe_createExercise
        apply safe_provisionForBooking
        apply safe_moved hSafe hGet
        · rw [hState]
          rfl
        · rfl

theorem safe_buildActive
    {held accepted : Bool}
    (hSafe : Safe site supply w.events) :
    Safe site supply
      (w.buildActive id rangeId held accepted).events := by
  unfold World.buildActive
  cases w.ranges.get? rangeId with
  | none => exact hSafe
  | some rng =>
      dsimp only
      by_cases hSkip :
          (rng.state ≠ .created || w.heldByWindow rangeId held) =
            true
      · rw [if_pos hSkip]
        exact hSafe
      · rw [if_neg hSkip]
        exact safe_provisionForBooking hSafe id rangeId accepted

/- A booking that holds capacity and is kept is no session. -/
theorem plain_of_keeps
    (hGet : w.events.get? id = some evt)
    (hKeeps : (!w.holdsSession id) = true)
    (hHolding : evt.state.holding = true) :
    evt.session = none := by
  unfold World.holdsSession at hKeeps
  rw [hGet] at hKeeps
  simpa [hHolding] using hKeeps

theorem safe_clock
    (hSafe : Safe site supply w.events)
    (now : Instant)
    (id : Nat)
    (pass : Pass)
    (hKeeps : w.keepsSessions (.clock now id pass) = true) :
    Safe site supply (w.clock site.cfg now id pass).events := by
  unfold World.clock
  cases hGet : w.events.get? id with
  | none => exact hSafe
  | some evt =>
      dsimp only
      by_cases hDue : pass.due site.cfg now evt = true
      · rw [hDue]
        cases pass with
        | createRange rangeId =>
            simp only [Pass.due, Bool.and_eq_true] at hDue
            exact safe_createRange hSafe hGet
              (Option.isNone_iff_eq_none.mp hDue.2)
        | provision held accepted exerciseId =>
            simp only [Pass.due, Bool.and_eq_true,
              decide_eq_true_eq] at hDue
            cases evt.rangeId with
            | none => exact hSafe
            | some rangeId =>
                exact safe_provision hSafe hGet hDue.1.1.1
        | buildActive held accepted =>
            cases evt.rangeId with
            | none => exact hSafe
            | some rangeId => exact safe_buildActive hSafe
        | activate held =>
            simp only [Pass.due, Bool.and_eq_true,
              Bool.or_eq_true, decide_eq_true_eq] at hDue
            dsimp only
            by_cases hHeld :
                (held && evt.state = .scheduled &&
                  evt.endTime > now) = true
            · simp only [if_pos hHeld]
              exact hSafe
            · simp only [if_neg hHeld]
              apply safe_claim hSafe
              apply safe_moved hSafe hGet
              · rcases hDue.1 with hState | hState
                · rw [hState]
                  rfl
                · rw [hState]
                  rfl
              · rfl
        | complete accepted =>
            simp only [Pass.due, Bool.and_eq_true,
              decide_eq_true_eq] at hDue
            apply safe_releaseRange
            apply safe_claim hSafe
            apply safe_released hSafe hGet
            · rfl
            · left
              apply plain_of_keeps hGet hKeeps
              rw [hDue.1]
              rfl
            · rintro ⟨⟩
        | retry accepted =>
            exact safe_releaseRange hSafe id accepted
        | lapse =>
            simp only [Pass.due, Bool.and_eq_true,
              decide_eq_true_eq] at hDue
            apply safe_claim hSafe
            apply safe_released hSafe hGet
            · rfl
            · right
              rw [hDue.1]
              exact ⟨rfl, rfl⟩
            · rintro ⟨⟩
      · rw [Bool.not_eq_true] at hDue
        rw [hDue]
        exact hSafe

end

--------
-- Other Requests
--------

open Checks

section

variable {site : Site}
variable {supply : Resources}
variable {w w' : World}
variable {tenantId id : Nat}

theorem safe_activate
    {allowed : Bool}
    (hSafe : Safe site supply w.events)
    (hActivate : w.activate tenantId id allowed = .ok w') :
    Safe site supply w'.events := by
  rcases World.activate_cases hActivate with
    ⟨evt, hGet, rfl, hHolding⟩
  exact safe_moved hSafe hGet hHolding rfl

theorem safe_complete
    {allowed : Bool}
    (hSafe : Safe site supply w.events)
    (hKeeps : (!w.holdsSession id) = true)
    (hComplete : w.complete tenantId id allowed = .ok w') :
    Safe site supply w'.events := by
  unfold World.complete at hComplete
  rcases bind_eq_ok.mp hComplete with ⟨evt, hOwned, hComplete⟩
  rcases bind_eq_ok.mp hComplete with ⟨_, _, hComplete⟩
  rcases World.move_ok hComplete with ⟨rfl, hFrom⟩
  have hGet := World.owned_ok hOwned
  rcases hFrom with hThere | hActive
  · apply safe_same hSafe hGet
    · rw [← hThere]
      exact Alike.refl evt
    · exact hThere.symm
    · rfl
  · apply safe_released hSafe hGet
    · rfl
    · left
      apply plain_of_keeps hGet hKeeps
      rw [List.mem_singleton.mp hActive]
      rfl
    · nofun

theorem safe_cancel
    {allowed accepted : Bool}
    (hSafe : Safe site supply w.events)
    (hKeeps : (!w.holdsSession id) = true)
    (hCancel :
      w.cancel tenantId id allowed accepted = .ok w') :
    Safe site supply w'.events := by
  unfold World.cancel at hCancel
  rcases bind_eq_ok.mp hCancel with ⟨evt, hOwned, hCancel⟩
  rcases bind_eq_ok.mp hCancel with ⟨_, _, hCancel⟩
  rcases bind_eq_ok.mp hCancel with ⟨moved, hMove, hCancel⟩
  rcases World.move_ok hMove with ⟨rfl, hFrom⟩
  have hGet := World.owned_ok hOwned
  have hMoved : Safe site supply
      (w.setEvent id { evt with state := .cancelled }).events := by
    apply safe_released hSafe hGet
    · rfl
    · by_cases hHolding : evt.state.holding = true
      · exact .inl (plain_of_keeps hGet hKeeps hHolding)
      · right
        refine ⟨?_, rfl⟩
        cases hState : evt.state with
        | completed =>
            rw [hState] at hFrom
            rcases hFrom with hSame | hSource
            · cases hSame
            · exact absurd hSource (by decide)
        | scheduled | provisioning | active =>
            rw [hState] at hHolding
            exact absurd rfl hHolding
        | _ => rfl
    · nofun
  by_cases hState : evt.state = .cancelled
  · rw [if_pos hState] at hCancel
    cases hCancel
    exact hMoved
  · rw [if_neg hState] at hCancel
    cases hCancel
    exact safe_releaseRange hMoved id accepted

theorem safe_reject
    {allowed : Bool}
    (hSafe : Safe site supply w.events)
    (hReject : w.reject tenantId id allowed = .ok w') :
    Safe site supply w'.events := by
  unfold World.reject at hReject
  rcases bind_eq_ok.mp hReject with ⟨evt, hOwned, hReject⟩
  rcases bind_eq_ok.mp hReject with ⟨_, _, hReject⟩
  have hGet := World.owned_ok hOwned
  by_cases hThere :
      (evt.approval.isSome && evt.state = .rejected) = true
  · rw [if_pos hThere] at hReject
    cases hReject
    exact hSafe
  · rw [if_neg hThere] at hReject
    rcases bind_eq_ok.mp hReject with
      ⟨approval, hPending, hReject⟩
    rcases World.pending_ok hPending with ⟨_, hState⟩
    rcases World.move_ok hReject with ⟨rfl, _⟩
    apply safe_uncounted hSafe
    · intro e hSome
      rw [hGet] at hSome
      cases hSome
      apply Uncounted.row
      apply Uncounted.of_state
      rw [hState]
      rfl
    · exact Uncounted.of_state rfl
    · refine ⟨?_, nofun, ?_⟩
      · unfold World.withdrawn
        rw [Option.isSome_map]
        exact hSafe.approval id evt hGet
      · intro key size hKey
        exact hSafe.sized id evt key size hGet hKey

/- A proposal holds nothing, and its answer changes nothing. -/
theorem safe_propose
    {now start stop : Instant}
    {clear : Bool}
    {ans : Answers}
    (hSafe : Safe site supply w.events)
    (hPropose :
      w.propose site.cfg tenantId id now start stop clear ans =
        .ok w') :
    Safe site supply w'.events := by
  unfold World.propose at hPropose
  rcases bind_eq_ok.mp hPropose with ⟨evt, hOwned, hPropose⟩
  rcases bind_eq_ok.mp hPropose with
    ⟨approval, hPending, hPropose⟩
  rcases bind_eq_ok.mp hPropose with ⟨_, _, hPropose⟩
  rcases bind_eq_ok.mp hPropose with ⟨_, _, hPropose⟩
  rcases bind_eq_ok.mp hPropose with ⟨_, _, hPropose⟩
  cases hPropose
  apply safe_same hSafe (World.owned_ok hOwned)
  · exact { Alike.refl evt with }
  · rfl
  · rw [(World.pending_ok hPending).1]
    rfl

theorem safe_decline
    {allowed : Bool}
    (hSafe : Safe site supply w.events)
    (hDecline : w.decline tenantId id allowed = .ok w') :
    Safe site supply w'.events := by
  unfold World.decline at hDecline
  rcases bind_eq_ok.mp hDecline with ⟨evt, hOwned, hDecline⟩
  rcases bind_eq_ok.mp hDecline with ⟨_, _, hDecline⟩
  rcases bind_eq_ok.mp hDecline with ⟨_, _, hDecline⟩
  rcases bind_eq_ok.mp hDecline with ⟨_, _, hDecline⟩
  cases hDecline
  apply safe_same hSafe (World.owned_ok hOwned)
  · exact { Alike.refl evt with }
  · rfl
  · unfold World.withdrawn
    rw [Option.isSome_map]

end

--------
-- Runs
--------

open Checks

namespace Cluster

/- No booking yet, over a site's ranges and exercises. -/
def fresh
    (supply : Resources)
    (ranges : Dict Nat Range)
    (exercises : Dict Nat Exercise) : Cluster where
  world := .fresh ranges exercises
  supply := supply

/-
  What an approval has to meet, read in the state before it.
  A session begins before its class's hold is over; and one
  accepted at a proposed time passes there the check that
  approving and proposing make.
-/
def checked
    (site : Site)
    (c : Cluster) :
    ClusterAction → Bool
| .act _ (.approve _ id _ _) =>
    match c.world.events.get? id with
    | none => true
    | some evt => inTime site evt evt.startTime
| .act running (.accept _ id _ _) =>
    match c.world.events.get? id with
    | none => true
    | some evt =>
        match evt.approval.bind BookingApproval.proposed with
        | none => true
        | some (start, stop) =>
            inTime site evt start &&
              (decide (holdKey site evt = none) ||
                (fit site c.supply running c.world.events id
                  (World.sized evt
                    (sessionDemand site evt.session
                      evt.templateId evt.size))
                  start stop).fits)
| _ => true

section

variable {site : Site}
variable {c : Cluster}

theorem safe_settle
    {supply : Resources}
    {w : World}
    {answer : Except Refusal World}
    (hSafe : Safe site supply w.events)
    (hAnswer : ∀ w', answer = .ok w' →
      Safe site supply w'.events) :
    Safe site supply (w.settle answer).events := by
  cases answer with
  | error e => exact hSafe
  | ok w' => exact hAnswer w' rfl

/- What is done with bookings, one action at a time. -/
theorem safe_act
    (hBlock : site.policy = .block)
    (hLead : 0 ≤ site.cfg.lead)
    (hGrace : 0 ≤ site.cfg.grace)
    (hSafe : Safe site c.supply c.world.events)
    {running : Running}
    {a : Action}
    (hChecked : checked site c (.act running a) = true)
    (hKeeps : c.world.keepsSessions a = true) :
    Safe site c.supply
      (c.world.step site.cfg
        (c.world.answer site c.supply running a)).events := by
  cases a with
  | create id body ans =>
      simp only [World.answer, World.step]
      by_cases hUsed : (c.world.events.get? id).isSome = true
      · rw [if_pos hUsed]
        exact hSafe
      · rw [if_neg hUsed]
        rw [Bool.not_eq_true, Option.isSome_eq_false_iff,
          Option.isNone_iff_eq_none] at hUsed
        exact safe_settle hSafe (fun _ =>
          safe_create hBlock hLead hGrace hSafe hUsed)
  | update id body ans =>
      simp only [World.answer]
      cases hGet : c.world.events.get? id with
      | none =>
          apply safe_settle hSafe
          intro w' hUpdate
          unfold World.update at hUpdate
          rcases bind_eq_ok.mp hUpdate with ⟨_, _, hUpdate⟩
          rcases bind_eq_ok.mp hUpdate with ⟨evt, hOwned, _⟩
          rw [World.owned_ok hOwned] at hGet
          cases hGet
      | some evt =>
          apply safe_settle hSafe
          intro w' hUpdate
          apply safe_update hBlock hLead hGrace hSafe hGet _
            hUpdate
          simpa [World.keepsSessions] using hKeeps
  | schedule tenantId id ans =>
      simp only [World.answer]
      cases hGet : c.world.events.get? id with
      | none =>
          apply safe_settle hSafe
          intro w' hSchedule
          unfold World.schedule at hSchedule
          rcases bind_eq_ok.mp hSchedule with ⟨evt, hOwned, _⟩
          rw [World.owned_ok hOwned] at hGet
          cases hGet
      | some evt =>
          exact safe_settle hSafe (fun _ =>
            safe_schedule hBlock hLead hGrace hSafe hGet)
  | activate tenantId id allowed =>
      exact safe_settle hSafe (fun _ => safe_activate hSafe)
  | complete tenantId id allowed =>
      exact safe_settle hSafe (fun _ =>
        safe_complete hSafe hKeeps)
  | cancel tenantId id allowed accepted =>
      exact safe_settle hSafe (fun _ =>
        safe_cancel hSafe hKeeps)
  | approve tenantId id now ans =>
      simp only [World.answer]
      cases hGet : c.world.events.get? id with
      | none =>
          apply safe_settle hSafe
          intro w' hApprove
          unfold World.approve at hApprove
          rcases bind_eq_ok.mp hApprove with ⟨evt, hOwned, _⟩
          rw [World.owned_ok hOwned] at hGet
          cases hGet
      | some evt =>
          simp only [checked, hGet] at hChecked
          exact safe_settle hSafe (fun _ =>
            safe_approve hBlock hLead hGrace hSafe hGet hChecked)
  | reject tenantId id allowed =>
      exact safe_settle hSafe (fun _ => safe_reject hSafe)
  | propose tenantId id now start stop clear ans =>
      simp only [World.answer]
      cases c.world.events.get? id with
      | none =>
          exact safe_settle hSafe (fun _ => safe_propose hSafe)
      | some evt =>
          exact safe_settle hSafe (fun _ => safe_propose hSafe)
  | accept tenantId id now ans =>
      simp only [World.answer]
      cases hGet : c.world.events.get? id with
      | none =>
          apply safe_settle hSafe
          intro w' hAccept
          unfold World.accept at hAccept
          rcases bind_eq_ok.mp hAccept with ⟨evt, hOwned, _⟩
          rw [World.owned_ok hOwned] at hGet
          cases hGet
      | some evt =>
          simp only [checked, hGet] at hChecked
          cases hProposed :
              evt.approval.bind BookingApproval.proposed with
          | none =>
              simp only [hProposed]
              apply safe_settle hSafe
              intro w' hAccept
              rcases World.accept_proposed hAccept with
                ⟨evt', window, hGet', hWindow⟩
              rw [hGet] at hGet'
              cases hGet'
              rw [hProposed] at hWindow
              cases hWindow
          | some window =>
              rcases window with ⟨start, stop⟩
              rw [hProposed] at hChecked
              simp only [Bool.and_eq_true, Bool.or_eq_true,
                decide_eq_true_eq] at hChecked
              simp only [hProposed]
              exact safe_settle hSafe (fun _ =>
                safe_accept hBlock hLead hGrace hSafe hGet
                  hProposed hChecked.1 hChecked.2)
  | decline tenantId id allowed =>
      exact safe_settle hSafe (fun _ => safe_decline hSafe)
  | clock now id pass =>
      exact safe_clock hSafe now id pass hKeeps
  | worker rangeId state =>
      simp only [World.answer, World.step]
      rw [World.workerReports_events]
      exact hSafe

/- What one step preserves. -/
theorem safe_step
    (hBlock : site.policy = .block)
    (hLead : 0 ≤ site.cfg.lead)
    (hGrace : 0 ≤ site.cfg.grace)
    (hSafe : Safe site c.supply c.world.events)
    {a : ClusterAction}
    (hChecked : checked site c a = true) :
    Safe site (step site c a).supply
      (step site c a).world.events := by
  cases a with
  | grow extra =>
      refine ⟨hSafe.toBooked, ?_⟩
      intro t r
      simp only [step]
      rw [Resources.total_get]
      simp only [List.map_cons, List.map_nil, List.sum_cons,
        List.sum_nil]
      exact (hSafe.fits t r).trans (Nat.le_add_right _ _)
  | act running a =>
      simp only [step]
      by_cases hKeeps : c.world.keepsSessions a = true
      · rw [if_pos hKeeps]
        exact safe_act hBlock hLead hGrace hSafe hChecked hKeeps
      · rw [if_neg hKeeps]
        exact hSafe

theorem safe_fresh
    (site : Site)
    (supply : Resources) :
    Safe site supply Dict.empty := by
  constructor
  · constructor
    · intro i evt hGet
      cases hGet
    · intro i evt hGet
      cases hGet
    · intro i evt key hGet
      cases hGet
    · intro i evt key cls hGet
      cases hGet
    · intro i evt key size hGet
      cases hGet
  · intro t r
    have hNone :
        standing site Dict.empty none none = [] := rfl
    rw [hNone]
    exact Nat.zero_le _

end

/-
  Under the block policy, and where each approval meets its
  check: what the bookings and the class holds ask of the
  cluster is supplied, of each resource and at every instant.
-/
theorem never_overcommitted
    (site : Site)
    (hBlock : site.policy = .block)
    (hLead : 0 ≤ site.cfg.lead)
    (hGrace : 0 ≤ site.cfg.grace)
    (supply : Resources)
    (ranges : Dict Nat Range)
    (exercises : Dict Nat Exercise)
    (actions : List ClusterAction)
    (hMeets :
      Runs.Meets (step site) (fun c a => checked site c a = true)
        (fresh supply ranges exercises) actions)
    (t : Instant)
    (r : Resource) :
    let c :=
      Runs.run (step site) (fresh supply ranges exercises)
        actions
    (demandAt site c.world.events t).get r ≤ c.supply.get r := by
  have hFresh :
      Safe site (fresh supply ranges exercises).supply
        (fresh supply ranges exercises).world.events :=
    safe_fresh site supply
  have hSafe :=
    hMeets.invariant
      (fun c => Safe site c.supply c.world.events)
      (fun c a hChecked hSafe =>
        safe_step hBlock hLead hGrace hSafe hChecked)
      hFresh
  intro c
  rw [demandAt_get]
  exact hSafe.fits t r

--------
-- A Session Accepted at Another Time
--------

/- A class of one Student, that ends with the first day. -/
def daySite : Site where
  cfg := { lead := 1800000000, grace := 900000000 }
  policy := .block
  classes :=
    Dict.empty.set 5
      { tenantId := 1
        isOpen := true
        endDate := 0
        seats := 1
        rangeIds := [] }
  templates := Dict.empty.set 7 ⟨4, 4, 4⟩

def hour : Int := 3600000000

/- A booking of the template, of the class or of none. -/
def templateBody
    (classId : Option Nat)
    (start stop : Int) : EventIn where
  tenantId := 1
  startTime := start * hour
  endTime := stop * hour
  rangeId := none
  exerciseId := none
  templateId := some 7
  scenarioId := none
  instructorId := none
  classId := classId
  rangeMode := none
  draft := false

def allowed : Answers where
  allowed := true
  room := true
  teacher := none
  courseMode := .individual
  demand := .zero

def idle : Running where
  now := 0
  ranges := []
  ends := fun _ => none
  drawing := fun _ => ([], .zero)
  live := fun _ => []

/- A session is moved to nine, and another booking is made. -/
def movedSession
    (between : List ClusterAction) : List ClusterAction :=
  [.act idle (.create 1 (templateBody (some 5) 12 13) allowed),
    .act idle
      (.propose 1 1 0 (9 * hour) (10 * hour) true allowed)] ++
  between ++
  [.act idle (.accept 1 1 0 allowed)]

/- Alone, the session passes the check to its class's end. -/
theorem never_overcommitted_moved :
    let c :=
      Runs.run (step daySite)
        (fresh ⟨6, 6, 6⟩ .empty .empty) (movedSession [])
    c.world.holdsSession 1 = true ∧
      (demandAt daySite c.world.events (21 * hour)).get .ram ≤
        c.supply.get .ram :=
  ⟨by decide +kernel,
    never_overcommitted daySite rfl (by decide) (by decide)
      ⟨6, 6, 6⟩ .empty .empty (movedSession [])
      (by decide +kernel) (21 * hour) .ram⟩

/-
  The evening is booked between the proposal and its answer.
  The answer looks at the morning alone, and the class's hold
  goes on to the end of the day.
-/
theorem overcommitted_by_accept :
    ¬ (∀ t r,
        let c :=
          Runs.run (step daySite)
            (fresh ⟨6, 6, 6⟩ .empty .empty)
            (movedSession
              [.act idle
                (.create 2 (templateBody none 20 22) allowed)])
        (demandAt daySite c.world.events t).get r ≤
          c.supply.get r) := by
  intro hFits
  exact absurd (hFits (21 * hour) .ram) (by decide +kernel)

end Cluster

end Scheduler

end TrueNorth
