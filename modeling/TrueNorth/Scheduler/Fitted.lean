import TrueNorth.Scheduler.Requests
import TrueNorth.Scheduler.Standing

/-
  Requests and approvals that were accepted: each leaves a
  cluster that is not overcommitted.

  A session is checked up to its class's end where it is
  approved at its own time.  Where it is accepted at another,
  the copy that is checked names no template, and only the
  session's own window is.

  Key definitions include:
    * `inTime`

  Main theorems:
    * `safe_create`, `safe_update`, `safe_schedule`
    * `safe_approve`, `safe_accept`
-/

--------
-- Requests
--------

namespace TrueNorth

namespace Scheduler

open Checks

/- What the API is asked and answered, one request each. -/

section

variable {site : Site}
variable {supply : Resources}
variable {running : Running}
variable {w w' : World}

theorem holdKey_congr
    {e e' : ScheduledEvent}
    (hSession : e'.session = e.session)
    (hTemplate : e'.templateId = e.templateId)
    (hTenant : e'.tenantId = e.tenantId)
    (hRange : e'.rangeId = e.rangeId) :
    holdKey site e' = holdKey site e := by
  unfold holdKey usesClassRanges
  rw [hSession, hTemplate, hTenant, hRange]

theorem holdKey_some
    {e : ScheduledEvent}
    {key : HoldKey}
    (hKey : holdKey site e = some key) :
    ∃ link templateId cls,
      e.session = some link ∧
      e.templateId = some templateId ∧
      site.classes.get? link.classId = some cls ∧
      key = ⟨link.classId, kindOf link.rangeMode, templateId⟩ := by
  unfold holdKey at hKey
  split at hKey
  · rename_i link templateId hSession hTemplate
    split at hKey
    · cases hKey
    · rename_i cls hClass
      split at hKey
      · cases hKey
        exact ⟨link, templateId, cls, hSession, hTemplate,
          hClass, rfl⟩
      · cases hKey
  · cases hKey

/- A session has the size of the hold it is to be in. -/
theorem sessionDemand_eq
    {e : ScheduledEvent}
    {key : HoldKey}
    {size : Resources}
    {demand : Resources}
    (hKey : holdKey site e = some key)
    (hSize : holdSize site key = some size)
    (hDemand :
      (∃ typed, demandFor site e.templateId typed = some demand) ∨
        demand = size) :
    sessionDemand site e.session e.templateId demand = size := by
  rcases holdKey_some hKey with
    ⟨link, templateId, cls, hSession, hTemplate, hClass, rfl⟩
  unfold holdSize at hSize
  rw [hClass] at hSize
  cases hOne : site.templates.get? templateId with
  | none =>
      rw [hOne] at hSize
      cases hSize
  | some one =>
      rw [hOne] at hSize
      cases hSize
      unfold sessionDemand perSeat activeSeats
      rw [hSession, hTemplate]
      simp only [Option.bind_some, hOne, Option.getD_some, hClass]
      cases hMode : link.rangeMode with
      | individual => simp [kindOf]
      | collective =>
          simp only [reduceCtorEq, if_false, kindOf]
          rcases hDemand with ⟨typed, hDemand⟩ | hDemand
          · unfold demandFor at hDemand
            rw [hTemplate] at hDemand
            simp only [hOne, Option.some.injEq] at hDemand
            rw [← hDemand]
            simp [Resources.scaled]
          · rw [hDemand]
            simp [hMode, kindOf]

/- What puts up no hold now does so for no other session. -/
theorem not_mem_groupKeys
    {events : Dict Nat ScheduledEvent}
    {e : ScheduledEvent}
    {key : HoldKey}
    (hKey : holdKey site e = some key)
    (hRow : rowKey site none e = none)
    (hNeeds : e.state.needsRanges = true) :
    key ∉ groupKeys site none events := by
  intro hMem
  rcases mem_groupKeys.mp hMem with ⟨i, evt, _, hOther⟩
  unfold rowKey at hOther hRow
  rw [(rowKey_some hOther).1] at hOther
  rw [hKey, hNeeds] at hRow
  simp only at hOther hRow
  cases hClass : site.classes.get? key.classId with
  | none =>
      rw [hClass] at hOther
      cases hOther
  | some cls =>
      rw [hClass] at hOther hRow
      simp only at hOther hRow
      split at hOther
      · rename_i hAll
        simp only [Bool.and_eq_true] at hAll
        rw [if_pos (by simp [hAll])] at hRow
        cases hRow
      · cases hOther

/- What a request is answered that is allowed. -/
theorem answerBooking_allowed
    {body : EventIn}
    {session : Option ClassSession}
    {exclude : Option Nat}
    {ans : Answers}
    (hAllowed :
      (w.answerBooking site supply running body session exclude
        ans).allowed = true) :
    ∃ demand,
      demandFor site body.templateId ans.demand = some demand ∧
      (w.answerBooking site supply running body session exclude
          ans).demand =
        sessionDemand site session body.templateId demand ∧
      (w.answerBooking site supply running body session exclude
          ans).room =
        enforce site
          (assess site supply running w.events body.startTime
            body.endTime
            (sessionDemand site session body.templateId demand)
            exclude false) ∧
      (w.answerBooking site supply running body session exclude
          ans).courseMode = ans.courseMode := by
  unfold World.answerBooking at hAllowed ⊢
  cases hDemand :
      demandFor site body.templateId ans.demand with
  | none =>
      rw [hDemand] at hAllowed
      cases hAllowed
  | some demand => exact ⟨demand, rfl, rfl, rfl, rfl⟩

theorem fits_of_enforce
    (hBlock : site.policy = .block)
    {a : Assessment}
    (hRoom : enforce site a = true) :
    a.fits = true := by
  unfold enforce at hRoom
  rw [hBlock] at hRoom
  simpa using hRoom

theorem enforce_of_fits
    {a : Assessment}
    (hFits : a.fits = true) :
    enforce site a = true := by
  unfold enforce
  rw [hFits]
  simp

theorem admitBooking_room
    {start stop : Instant}
    {rangeId instructorId exclude : Option Nat}
    {room : Bool}
    {u : Unit}
    (hAdmit :
      w.admitBooking site.cfg start stop rangeId instructorId
        exclude room = .ok u) :
    room = true := by
  unfold World.admitBooking at hAdmit
  rcases bind_eq_ok.mp hAdmit with ⟨_, _, hAdmit⟩
  simpa using refuseIf_eq_ok.mp hAdmit

theorem admitApproval_room
    {id : Nat}
    {evt : ScheduledEvent}
    {now start stop : Instant}
    {clear room : Bool}
    {u : Unit}
    (hAdmit :
      w.admitApproval site.cfg id evt now start stop clear room =
        .ok u) :
    room = true := by
  unfold World.admitApproval at hAdmit
  rcases bind_eq_ok.mp hAdmit with ⟨_, _, hAdmit⟩
  rcases bind_eq_ok.mp hAdmit with ⟨_, _, hAdmit⟩
  rcases bind_eq_ok.mp hAdmit with ⟨_, _, hAdmit⟩
  simpa using refuseIf_eq_ok.mp hAdmit

section

variable (hBlock : site.policy = .block)
variable (hLead : 0 ≤ site.cfg.lead)
variable (hGrace : 0 ≤ site.cfg.grace)
variable (hSafe : Safe site supply w.events)

include hBlock hLead hGrace hSafe

/- A plain booking that was admitted, new or edited. -/
theorem safe_admitted
    (running : Running)
    (exclude : Option Nat)
    {id : Nat}
    {evt : ScheduledEvent}
    (hOld : ∀ e, w.events.get? id = some e →
      exclude = some id ∧ e.session = none)
    (hNone : w.events.get? id = none → exclude = none)
    (hPlain : evt.session = none)
    (hState : evt.state = .scheduled)
    (hApproval : evt.approval.isSome = evt.session.isSome)
    (hRoom :
      enforce site
        (assess site supply running w.events evt.startTime
          evt.endTime evt.size exclude false) = true) :
    Safe site supply (w.setEvent id evt).events := by
  have hFits :=
    assess_room hSafe.toBooked hLead hGrace
      (fits_of_enforce hBlock hRoom)
  apply safe_plain hSafe
  · intro e hGet
    exact rowKey_none (hOld e hGet).2
  · exact rowKey_none hPlain
  · rw [hState]
    rfl
  · refine ⟨hApproval, ?_, ?_⟩
    · intro hPending
      rw [hState] at hPending
      cases hPending
    · intro key size hKey
      rw [holdKey_none hPlain] at hKey
      cases hKey
  · intro t r hFrom hTo
    rcases hFits t r hFrom hTo with hZero | hFits
    · exact .inl hZero
    · right
      cases hGet : w.events.get? id with
      | none =>
          rw [hNone hGet] at hFits
          refine le_trans (Nat.add_le_add_left ?_ _) hFits
          exact loadAt_skip_le (some id) t r
      | some e =>
          rcases hOld e hGet with ⟨hExclude, hSession⟩
          rw [hExclude, Option.bind_some, hGet, Option.bind_some,
            holdKey_none hSession] at hFits
          exact hFits

theorem safe_create
    {id : Nat}
    {body : EventIn}
    {ans : Answers}
    (hNew : w.events.get? id = none)
    (hCreate :
      w.create site.cfg id body
        (w.answerBooking site supply running body
          (body.classId.map (fun cls =>
            ⟨cls, body.rangeMode.getD ans.courseMode⟩))
          none ans) = .ok w') :
    Safe site supply w'.events := by
  unfold World.create at hCreate
  rcases bind_eq_ok.mp hCreate with ⟨_, _, hCreate⟩
  rcases bind_eq_ok.mp hCreate with ⟨_, hAllowed, hCreate⟩
  rcases bind_eq_ok.mp hCreate with ⟨rangeId, _, hCreate⟩
  rcases bind_eq_ok.mp hCreate with ⟨_, _, hCreate⟩
  rcases bind_eq_ok.mp hCreate with ⟨_, _, hCreate⟩
  rcases bind_eq_ok.mp hCreate with ⟨_, hAdmit, hCreate⟩
  cases hCreate
  rw [refuseIf_eq_ok, Bool.not_eq_false'] at hAllowed
  rcases answerBooking_allowed hAllowed with
    ⟨demand, hDemand, hSize, hRoom, hMode⟩
  generalize hAns :
    w.answerBooking site supply running body
      (body.classId.map (fun cls =>
        ⟨cls, body.rangeMode.getD ans.courseMode⟩))
      none ans = answered at *
  have hSession :
      (World.newEvent body answered rangeId).session =
        body.classId.map (fun cls =>
          ⟨cls, body.rangeMode.getD ans.courseMode⟩) := by
    unfold World.newEvent
    rw [hMode]
  have hApproval :
      (World.newEvent body answered rangeId).approval.isSome =
        (World.newEvent body answered
          rangeId).session.isSome := by
    unfold World.newEvent
    simp
  by_cases hHeld :
      (!body.draft && body.classId.isNone) = true
  · have hBoth := Bool.and_eq_true_iff.mp hHeld
    have hClass : body.classId = none := by
      simpa using hBoth.2
    have hDraft : body.draft = false := by
      simpa using hBoth.1
    apply safe_admitted hBlock hLead hGrace hSafe running none
    · intro e hGet
      rw [hNew] at hGet
      cases hGet
    · exact fun _ => rfl
    · rw [hSession, hClass]
      rfl
    · unfold World.newEvent
      simp [hDraft, hClass]
    · exact hApproval
    · have hAdmitted := only_eq_ok.mp hAdmit hHeld
      rw [← admitBooking_room hAdmitted, hRoom]
      unfold World.newEvent
      rw [hSize]
  · have hState :
        (World.newEvent body answered
          rangeId).state.needsRanges = false := by
      unfold World.newEvent
      cases hDraft : body.draft with
      | true => rfl
      | false =>
          cases hClass : body.classId with
          | none =>
              rw [hDraft, hClass] at hHeld
              exact absurd rfl hHeld
          | some cls => rfl
    apply safe_uncounted hSafe
    · intro e hGet
      rw [hNew] at hGet
      cases hGet
    · exact Uncounted.of_state hState
    · refine ⟨hApproval, ?_, ?_⟩
      · intro hPending
        unfold World.newEvent at hPending ⊢
        simp only at hPending ⊢
        cases hClass : body.classId with
        | some cls => rfl
        | none =>
            rw [hClass] at hPending
            cases hDraft : body.draft <;>
              simp [hDraft] at hPending
      · intro key size hKey hKeySize
        have hSame :=
          @sessionDemand_eq _ _ _ _ demand hKey hKeySize
            (.inl ⟨ans.demand, hDemand⟩)
        rw [hSession] at hSame
        exact hSize.trans hSame

/- Only a booking that holds nothing, or a plain one. -/
theorem safe_update
    {id : Nat}
    {body : EventIn}
    {ans : Answers}
    {evt : ScheduledEvent}
    (hGet : w.events.get? id = some evt)
    (hKeeps : w.holdsSession id = false)
    (hUpdate :
      w.update site.cfg id body
        (w.answerBooking site supply running body
          (evt.session.map (fun s =>
            { s with
              rangeMode := body.rangeMode.getD s.rangeMode }))
          (some id) ans) = .ok w') :
    Safe site supply w'.events := by
  unfold World.update at hUpdate
  rcases bind_eq_ok.mp hUpdate with ⟨_, _, hUpdate⟩
  rcases bind_eq_ok.mp hUpdate with ⟨evt', hOwned, hUpdate⟩
  have hSame := World.owned_ok hOwned
  rw [hGet] at hSame
  cases hSame
  rcases bind_eq_ok.mp hUpdate with ⟨_, hAllowed, hUpdate⟩
  rcases bind_eq_ok.mp hUpdate with ⟨_, hEditable, hUpdate⟩
  rcases bind_eq_ok.mp hUpdate with ⟨_, _, hUpdate⟩
  rcases bind_eq_ok.mp hUpdate with ⟨rangeId, _, hUpdate⟩
  rcases bind_eq_ok.mp hUpdate with ⟨_, _, hUpdate⟩
  rcases bind_eq_ok.mp hUpdate with ⟨_, _, hUpdate⟩
  rcases bind_eq_ok.mp hUpdate with ⟨_, hAdmit, hUpdate⟩
  rw [refuseIf_eq_ok, Bool.not_eq_false'] at hAllowed
  rcases answerBooking_allowed hAllowed with
    ⟨demand, hDemand, hSize, hRoom, _⟩
  generalize hAns :
    w.answerBooking site supply running body
      (evt.session.map (fun s =>
        { s with
          rangeMode := body.rangeMode.getD s.rangeMode }))
      (some id) ans = answered at *
  have hPlain (hState : evt.state = .scheduled) :
      evt.session = none := by
    unfold World.holdsSession at hKeeps
    rw [hGet] at hKeeps
    simp only [hState] at hKeeps
    cases hSession : evt.session with
    | none => rfl
    | some link =>
        rw [hSession] at hKeeps
        cases hKeeps
  have hNot :
      World.reapproves evt
        (World.edited evt body answered rangeId) = false := by
    unfold World.reapproves
    by_cases hState : evt.state = .scheduled
    · rw [hPlain hState]
      rfl
    · simp [hState]
  rw [hNot] at hUpdate hAdmit
  have hSized : Wellsized site
      (World.edited evt body answered rangeId) := by
    refine ⟨?_, ?_, ?_⟩
    · have hOld := hSafe.approval id evt hGet
      unfold World.edited
      simpa using hOld
    · exact hSafe.pending id evt hGet
    · intro key size hKey hKeySize
      have hSame :=
        @sessionDemand_eq _ _ _ _ demand hKey hKeySize
          (.inl ⟨ans.demand, hDemand⟩)
      exact hSize.trans hSame
  by_cases hState : evt.state = .scheduled
  · have hSession := hPlain hState
    have hBoth :
        (decide (evt.state = .scheduled) && !false) = true := by
      simp [hState]
    have hAdmitted := only_eq_ok.mp hAdmit hBoth
    simp only [Bool.false_eq_true, if_false, hState,
      reduceCtorEq, decide_false, Bool.false_and] at hUpdate
    cases hUpdate
    apply safe_admitted hBlock hLead hGrace hSafe running
      (some id)
    · intro e hSome
      rw [hGet] at hSome
      cases hSome
      exact ⟨rfl, hSession⟩
    · intro hNone
      rw [hGet] at hNone
      cases hNone
    · unfold World.edited
      rw [hSession]
      rfl
    · exact hState
    · exact hSized.approval
    · rw [← admitBooking_room hAdmitted, hRoom]
      unfold World.edited
      rw [hSize]
  · have hNeeds : evt.state.needsRanges = false := by
      cases hOther : evt.state with
      | scheduled => exact absurd hOther hState
      | provisioning | active | completed =>
          rw [hOther] at hEditable
          cases hEditable
      | _ => rfl
    have hOld : ∀ e, w.events.get? id = some e →
        rowKey site none e = none := by
      intro e hSome
      rw [hGet] at hSome
      cases hSome
      exact (Uncounted.of_state hNeeds).row
    simp only [Bool.false_eq_true, if_false] at hUpdate
    split at hUpdate
    · cases hUpdate
      apply safe_uncounted hSafe hOld
      · exact Uncounted.of_state hNeeds
      · refine ⟨?_, ?_, hSized.sized⟩
        · unfold World.withdrawn
          rw [Option.isSome_map]
          exact hSized.approval
        · intro hPending
          unfold World.withdrawn
          rw [Option.isSome_map]
          exact hSized.pending hPending
    · cases hUpdate
      exact safe_uncounted hSafe hOld
        (Uncounted.of_state hNeeds) hSized

theorem safe_schedule
    {tenantId id : Nat}
    {ans : Answers}
    {evt : ScheduledEvent}
    (hGet : w.events.get? id = some evt)
    (hSchedule :
      w.schedule site.cfg tenantId id
        { ans with
          room :=
            enforce site
              (assess site supply running w.events
                evt.startTime evt.endTime evt.size (some id)
                false) } = .ok w') :
    Safe site supply w'.events := by
  unfold World.schedule at hSchedule
  rcases bind_eq_ok.mp hSchedule with
    ⟨evt', hOwned, hSchedule⟩
  have hSame := World.owned_ok hOwned
  rw [hGet] at hSame
  cases hSame
  rcases bind_eq_ok.mp hSchedule with ⟨_, _, hSchedule⟩
  by_cases hApproval : evt.approval.isSome = true
  · rw [if_pos hApproval] at hSchedule
    by_cases hThere :
        (evt.state = .pendingApproval ||
          evt.state = .scheduled) = true
    · rw [if_pos hThere] at hSchedule
      cases hSchedule
      exact hSafe
    · rw [if_neg hThere] at hSchedule
      rcases World.move_ok hSchedule with ⟨rfl, hFrom⟩
      have hDraft : evt.state = .draft := by
        cases hState : evt.state <;>
          simp_all [EventState.sources]
      apply safe_uncounted hSafe
      · intro e hSome
        rw [hGet] at hSome
        cases hSome
        apply Uncounted.row
        apply Uncounted.of_state
        rw [hDraft]
        rfl
      · exact Uncounted.of_state rfl
      · exact ⟨hSafe.approval id evt hGet, fun _ => hApproval,
          fun key size => hSafe.sized id evt key size hGet⟩
  · rw [if_neg hApproval] at hSchedule
    rcases bind_eq_ok.mp hSchedule with
      ⟨_, hAdmit, hSchedule⟩
    rcases World.move_ok hSchedule with ⟨rfl, hFrom⟩
    have hSession : evt.session = none := by
      have hOld := hSafe.approval id evt hGet
      rw [Bool.not_eq_true] at hApproval
      rw [hApproval] at hOld
      simpa using hOld.symm
    have hNotPending : evt.state ≠ .pendingApproval := by
      intro hPending
      exact hApproval (hSafe.pending id evt hGet hPending)
    by_cases hDraft : evt.state = .draft
    · have hChecked :=
        only_eq_ok.mp hAdmit (decide_eq_true hDraft)
      rcases bind_eq_ok.mp hChecked with ⟨_, _, hAdmitted⟩
      apply safe_admitted hBlock hLead hGrace hSafe running
        (some id)
      · intro e hSome
        rw [hGet] at hSome
        cases hSome
        exact ⟨rfl, hSession⟩
      · intro hNone
        rw [hGet] at hNone
        cases hNone
      · exact hSession
      · rfl
      · exact hSafe.approval id evt hGet
      · exact admitBooking_room hAdmitted
    · have hScheduled : evt.state = .scheduled := by
        cases hState : evt.state <;>
          simp_all [EventState.sources]
      apply safe_alike hSafe hGet
      · rw [← hScheduled]
        exact Alike.refl evt
      · rfl
      · intro hPending
        cases hPending

omit hBlock hLead hGrace in
/- A pending booking is approved, at a time it fits. -/
theorem safe_approved
    {id : Nat}
    {evt evt' : ScheduledEvent}
    {stop' : Instant}
    (hGet : w.events.get? id = some evt)
    (hPending : evt.state = .pendingApproval)
    (hKey : holdKey site evt' = holdKey site evt)
    (hState : evt'.state = .scheduled)
    (hSized : Wellsized site evt')
    (hStop : evt'.endTime ≤ stop')
    (hRoom :
      Room site supply w.events (some id) (holdKey site evt)
        evt'.size (evt'.startTime - site.cfg.lead)
        (stop' + site.cfg.grace))
    (hSession : ∀ key cls, holdKey site evt' = some key →
      site.classes.get? key.classId = some cls →
        evt'.startTime - site.cfg.lead ≤
            lastDayEnd cls.endDate + site.cfg.grace ∧
          Room site supply w.events (some id) (some key)
            evt'.size (evt'.startTime - site.cfg.lead)
            (max evt'.endTime (lastDayEnd cls.endDate) +
              site.cfg.grace)) :
    Safe site supply (w.setEvent id evt').events := by
  have hOld : ∀ e, w.events.get? id = some e →
      Uncounted site e := by
    intro e hSome
    rw [hGet] at hSome
    cases hSome
    apply Uncounted.of_state
    rw [hPending]
    rfl
  cases hRow : rowKey site none evt' with
  | some key =>
      have hHold := (rowKey_some hRow).1
      rcases holdKey_some hHold with
        ⟨link, templateId, cls, _, _, hClass, rfl⟩
      rcases hSession _ cls hHold hClass with ⟨hEarly, hFits⟩
      exact safe_session hSafe hOld hClass hRow
        (by rw [hState]; rfl) hSized hEarly hFits
  | none =>
      apply safe_plain hSafe (fun e hSome => (hOld e hSome).row)
        hRow (by rw [hState]; rfl) hSized
      intro t r hFrom hTo
      rcases hRoom t r hFrom
          (lt_of_lt_of_le hTo (add_le_add_left hStop _)) with
        hZero | hFits
      · exact .inl hZero
      · right
        cases hOwn : holdKey site evt with
        | none =>
            rw [hOwn] at hFits
            exact hFits
        | some key =>
            have hNot : key ∉ groupKeys site none w.events := by
              apply not_mem_groupKeys (hKey.trans hOwn) hRow
              rw [hState]
              rfl
            have hSplit :=
              @loadAt_split site w.events (some id) key t r
            rw [if_neg hNot, Nat.add_zero] at hSplit
            rw [hSplit]
            rw [hOwn] at hFits
            exact hFits

/- The check of a session, up to its class's end. -/
theorem fit_room
    {id : Nat}
    {evt evt' : ScheduledEvent}
    {start stop : Instant}
    {key : HoldKey}
    {cls : Class}
    (hGet : w.events.get? id = some evt)
    (hKey : holdKey site evt = some key)
    (hKey' : holdKey site evt' = some key)
    (hClass : site.classes.get? key.classId = some cls)
    (hRoom :
      enforce site
        (fit site supply running w.events id evt' start stop) =
          true) :
    Room site supply w.events (some id) (some key) evt'.size
      (start - site.cfg.lead)
      (max stop (lastDayEnd cls.endDate) + site.cfg.grace) := by
  have hFits :=
    assess_room hSafe.toBooked hLead hGrace
      (fits_of_enforce hBlock hRoom)
  rw [Option.bind_some, hGet, Option.bind_some, hKey] at hFits
  have hEnd :
      max stop (lastDayEnd cls.endDate) ≤
        untilClassEnd site evt' stop := by
    unfold untilClassEnd classEnd
    rw [hKey']
    simp only [hClass, Option.map_some]
    exact max_le_max (le_refl _) (le_max_left _ _)
  intro t r hFrom hTo
  exact hFits t r hFrom
    (lt_of_lt_of_le hTo (add_le_add_left hEnd _))

omit hBlock hLead hGrace in
/- What is approved has the size of the hold it joins. -/
theorem wellsized_approved
    {id : Nat}
    {evt evt' : ScheduledEvent}
    (hGet : w.events.get? id = some evt)
    (hPending : evt.state = .pendingApproval)
    (hKey : holdKey site evt' = holdKey site evt)
    (hApproval : evt'.approval.isSome = evt.approval.isSome)
    (hSession : evt'.session = evt.session)
    (hSize : evt'.size =
      (World.sized evt
        (sessionDemand site evt.session evt.templateId
          evt.size)).size) :
    Wellsized site evt' := by
  refine ⟨?_, ?_, ?_⟩
  · rw [hApproval, hSession]
    exact hSafe.approval id evt hGet
  · intro _
    rw [hApproval]
    exact hSafe.pending id evt hGet hPending
  · intro key size hHold hHoldSize
    rw [hKey] at hHold
    have hOwn := hSafe.sized id evt key size hGet hHold hHoldSize
    rw [hSize]
    unfold World.sized
    split
    · exact sessionDemand_eq hHold hHoldSize (.inr hOwn)
    · exact hOwn

/- A session's start, for a hold that ends with its class. -/
def inTime
    (site : Site)
    (evt : ScheduledEvent)
    (start : Instant) : Bool :=
  match holdKey site evt with
  | none => true
  | some key =>
      match site.classes.get? key.classId with
      | none => true
      | some cls =>
          start - site.cfg.lead ≤
            lastDayEnd cls.endDate + site.cfg.grace

theorem safe_approve
    {tenantId id : Nat}
    {now : Instant}
    {ans : Answers}
    {evt : ScheduledEvent}
    (hGet : w.events.get? id = some evt)
    (hTime : inTime site evt evt.startTime = true)
    (hApprove :
      w.approve site.cfg tenantId id now
        { ans with
          demand :=
            sessionDemand site evt.session evt.templateId
              evt.size
          room :=
            enforce site
              (fit site supply running w.events id
                (World.sized evt
                  (sessionDemand site evt.session
                    evt.templateId evt.size))
                evt.startTime evt.endTime) } = .ok w') :
    Safe site supply w'.events := by
  unfold World.approve at hApprove
  rcases bind_eq_ok.mp hApprove with ⟨evt', hOwned, hApprove⟩
  have hSame := World.owned_ok hOwned
  rw [hGet] at hSame
  cases hSame
  split at hApprove
  · cases hApprove
    exact hSafe
  · rcases bind_eq_ok.mp hApprove with
      ⟨approval, hPending, hApprove⟩
    rcases bind_eq_ok.mp hApprove with ⟨_, _, hApprove⟩
    rcases bind_eq_ok.mp hApprove with ⟨_, hAdmit, hApprove⟩
    rcases World.move_ok hApprove with ⟨rfl, _⟩
    rcases World.pending_ok hPending with ⟨hApproval, hState⟩
    have hRoom := admitApproval_room hAdmit
    rcases World.sized_eq evt
        (sessionDemand site evt.session evt.templateId
          evt.size) with ⟨size, hSized⟩
    have hKey : holdKey site
        { World.withdrawn
            (World.sized evt
              (sessionDemand site evt.session evt.templateId
                evt.size)) with
          state := .scheduled } = holdKey site evt := by
      rw [hSized]
      exact holdKey_congr rfl rfl rfl rfl
    have hKey' : holdKey site
        (World.sized evt
          (sessionDemand site evt.session evt.templateId
            evt.size)) = holdKey site evt := by
      rw [hSized]
      exact holdKey_congr rfl rfl rfl rfl
    have hFits :=
      assess_room hSafe.toBooked hLead hGrace
        (fits_of_enforce hBlock hRoom)
    rw [Option.bind_some, hGet, Option.bind_some] at hFits
    have hEnd :
        evt.endTime ≤
          untilClassEnd site
            (World.sized evt
              (sessionDemand site evt.session evt.templateId
                evt.size)) evt.endTime := by
      unfold untilClassEnd
      split
      · exact le_refl _
      · exact le_max_left _ _
    have hTimes :
        (World.sized evt
          (sessionDemand site evt.session evt.templateId
            evt.size)).startTime = evt.startTime ∧
          (World.sized evt
            (sessionDemand site evt.session evt.templateId
              evt.size)).endTime = evt.endTime := by
      rw [hSized]
      exact ⟨rfl, rfl⟩
    apply safe_approved hSafe hGet hState hKey rfl
    · apply wellsized_approved hSafe hGet hState hKey
      · unfold World.withdrawn
        rw [Option.isSome_map, hSized]
      · rw [hSized]
        rfl
      · rfl
    · exact le_trans (le_of_eq hTimes.2) hEnd
    · unfold World.withdrawn
      rw [hTimes.1]
      exact hFits
    · intro key cls hHold hClass
      rw [hKey] at hHold
      constructor
      · unfold inTime at hTime
        rw [hHold] at hTime
        simp only [hClass, decide_eq_true_eq] at hTime
        unfold World.withdrawn
        rw [hTimes.1]
        exact hTime
      · have hSpan :=
          fit_room hBlock hLead hGrace hSafe hGet hHold
            (hKey'.trans hHold) hClass hRoom
        unfold World.withdrawn
        rw [hTimes.1, hTimes.2]
        exact hSpan

/-
  A session moved to a proposed time: its own check, and not
  the copy's, has to have found room.
-/
theorem safe_accept
    {tenantId id : Nat}
    {now start stop : Instant}
    {ans : Answers}
    {evt : ScheduledEvent}
    (hGet : w.events.get? id = some evt)
    (hProposed :
      evt.approval.bind BookingApproval.proposed =
        some (start, stop))
    (hTime : inTime site evt start = true)
    (hChecked : holdKey site evt = none ∨
      (fit site supply running w.events id
        (World.sized evt
          (sessionDemand site evt.session evt.templateId
            evt.size)) start stop).fits = true)
    (hAccept :
      w.accept site.cfg tenantId id now
        { ans with
          demand :=
            sessionDemand site evt.session evt.templateId
              evt.size
          room :=
            enforce site
              (fit site supply running w.events id
                (atTime
                  (World.sized evt
                    (sessionDemand site evt.session
                      evt.templateId evt.size))
                  start stop)
                start stop) } = .ok w') :
    Safe site supply w'.events := by
  unfold World.accept at hAccept
  rcases bind_eq_ok.mp hAccept with ⟨evt', hOwned, hAccept⟩
  have hSame := World.owned_ok hOwned
  rw [hGet] at hSame
  cases hSame
  rcases bind_eq_ok.mp hAccept with
    ⟨approval, hPending, hAccept⟩
  rcases World.pending_ok hPending with ⟨hApproval, hState⟩
  rw [hApproval, Option.bind_some] at hProposed
  rw [hProposed] at hAccept
  simp only at hAccept
  rcases bind_eq_ok.mp hAccept with ⟨_, _, hAccept⟩
  rcases bind_eq_ok.mp hAccept with ⟨_, hAdmit, hAccept⟩
  rcases World.move_ok hAccept with ⟨rfl, _⟩
  have hRoom := admitApproval_room hAdmit
  rcases World.sized_eq evt
      (sessionDemand site evt.session evt.templateId
        evt.size) with ⟨size, hSized⟩
  have hKey : holdKey site
      { World.withdrawn
          (World.sized evt
            (sessionDemand site evt.session evt.templateId
              evt.size)) with
        startTime := start
        endTime := stop
        state := .scheduled } = holdKey site evt := by
    rw [hSized]
    exact holdKey_congr rfl rfl rfl rfl
  have hFits :=
    assess_room hSafe.toBooked hLead hGrace
      (fits_of_enforce hBlock hRoom)
  rw [Option.bind_some, hGet, Option.bind_some] at hFits
  have hEnd :
      untilClassEnd site
        (atTime
          (World.sized evt
            (sessionDemand site evt.session evt.templateId
              evt.size)) start stop) stop = stop := by
    have hNone : holdKey site
        (atTime
          (World.sized evt
            (sessionDemand site evt.session evt.templateId
              evt.size)) start stop) = none := by
      unfold holdKey atTime
      simp
    unfold untilClassEnd classEnd
    rw [hNone]
  rw [hEnd] at hFits
  apply safe_approved hSafe hGet hState hKey rfl
  · apply wellsized_approved hSafe hGet hState hKey
    · unfold World.withdrawn
      rw [Option.isSome_map, hSized]
    · rw [hSized]
      rfl
    · rfl
  · exact le_refl stop
  · exact hFits
  · intro key cls hHold hClass
    rw [hKey] at hHold
    constructor
    · unfold inTime at hTime
      rw [hHold] at hTime
      simpa only [hClass, decide_eq_true_eq] using hTime
    · rcases hChecked with hNone | hChecked
      · rw [hHold] at hNone
        cases hNone
      · have hKey' : holdKey site
            (World.sized evt
              (sessionDemand site evt.session evt.templateId
                evt.size)) = some key := by
          rw [hSized]
          exact (holdKey_congr rfl rfl rfl rfl).trans hHold
        have hSpan :=
          fit_room hBlock hLead hGrace hSafe hGet hHold hKey'
            hClass
            (enforce_of_fits hChecked)
        exact hSpan

end

end

end Scheduler

end TrueNorth
