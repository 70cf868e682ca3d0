import TrueNorth.Scheduler.Ownership
import TrueNorth.Scheduler.ClassRanges

/-
  What a booking asks an approver for, and what each
  operation makes of it.

  Every operation and every step of the clock turns a
  request in one of a few ways (`Change`), each read off the
  operation once, here.

  Key definitions include:
    * `Terms`, `Request`
    * `Change`
    * `Turn`

  Main theorems:
    * `World.releaseRange_request`
    * `World.clock_turn`
-/

--------
-- Requests
--------

namespace TrueNorth

namespace Scheduler

/- What an approver says yes or no to. -/
structure Terms where
  startTime : Instant
  endTime : Instant
  size : Resources
  rangeId : Option Nat
  templateId : Option Nat
  instructorId : Option Nat
  -- the class and the mode
  session : Option ClassSession
deriving DecidableEq

def ScheduledEvent.terms (evt : ScheduledEvent) : Terms where
  startTime := evt.startTime
  endTime := evt.endTime
  size := evt.size
  rangeId := evt.rangeId
  templateId := evt.templateId
  instructorId := evt.instructorId
  session := evt.session

/- Where a booking stands, and on what terms. -/
structure Request where
  state : EventState
  terms : Terms
  approval : Option BookingApproval
deriving DecidableEq

def ScheduledEvent.request (evt : ScheduledEvent) :
    Request where
  state := evt.state
  terms := evt.terms
  approval := evt.approval

namespace Request

/- The time an approver proposes, while it is open. -/
def proposal (r : Request) : Option (Instant × Instant) :=
  r.approval.bind BookingApproval.proposed

def individual (t : Terms) : Prop :=
  t.session.map ClassSession.rangeMode = some .individual

instance (t : Terms) : Decidable (individual t) :=
  inferInstanceAs (Decidable (_ = _))

end Request

/- Never left again. -/
def EventState.final (s : EventState) : Bool :=
  s = .rejected || s = .cancelled || s = .completed

theorem heldChange_iff
    {evt evt' : ScheduledEvent} :
    World.heldChange evt evt' = true ↔
      evt.terms ≠ evt'.terms := by
  unfold World.heldChange ScheduledEvent.terms
  simp only [Bool.or_eq_true, decide_eq_true_eq, ne_eq,
    Terms.mk.injEq]
  tauto

--------
-- How a Request Turns
--------

/- A request as a class session is to be read. -/
structure Request.Linked (r : Request) : Prop where
  approval : r.approval.isSome = r.terms.session.isSome
  proposal : r.proposal.isSome = true →
    r.state = .pendingApproval ∨ r.state = .cancelled

/- The class's shared range a session is pointed at. -/
def SharedRange
    (rows : List ClassRange)
    (t : Terms)
    (rangeId : Nat) : Prop :=
  ∃ row ∈ rows,
    t.session = some ⟨row.classId, .collective⟩ ∧
      t.templateId = some row.templateId ∧
      row.seat = none ∧ row.rangeId = some rangeId

/- Only an individual session's size is taken anew. -/
structure Sized (t t' : Terms) : Prop where
  rest : t' = { t with size := t'.size }
  size : ¬ Request.individual t → t'.size = t.size

/-
  What a step makes of a booking that was there, with the
  class ranges there are after it.
-/
inductive Change
    (action : ClassAction)
    (rows : List ClassRange)
    (id : Nat)
    (r r' : Request) : Prop
| kept
    (hTerms : r'.terms = r.terms)
    (hApproval : r'.approval = r.approval)
    (hState : r'.state = r.state ∨
      (r.state.holding = true ∧ r'.state.holding = true))
| attached
    (now : Instant)
    (pass : ClassPass)
    (rangeId : Nat)
    (hAction : action = .classTick now id pass)
    (hHolding : r.state.holding = true)
    (hNone : r.terms.rangeId = none)
    (hTerms : r'.terms =
      { r.terms with rangeId := some rangeId })
    (hShared : SharedRange rows r.terms rangeId)
    (hApproval : r'.approval = r.approval)
    (hState : r'.state = r.state)
| ended
    (hOpen : r.state.final = false)
    (hEnded : r'.state.final = true)
    (hProposal : r'.state = .cancelled ∨ r'.proposal = none)
-- it starts to wait for an approver
| asked
    (hWas : r.state = .draft ∨ r.state = .scheduled)
    (hState : r'.state = .pendingApproval)
    (hProposal : r'.proposal = none)
-- a draft is changed, or a waiting session's terms
| rewritten
    (hWas : r.state = .draft ∨ r.state = .pendingApproval)
    (hState : r'.state = r.state)
    (hProposal : r'.proposal = none)
| approved
    (tenantId : Nat)
    (now : Instant)
    (ans : Answers)
    (hAction : action = .act (.approve tenantId id now ans))
    (hAllowed : ans.allowed = true)
    (hWas : r.state = .pendingApproval)
    (hState : r'.state = .scheduled)
    (hProposal : r'.proposal = none)
| proposed
    (tenantId : Nat)
    (now start stop : Instant)
    (clear : Bool)
    (ans : Answers)
    (hAction : action =
      .act (.propose tenantId id now start stop clear ans))
    (hAllowed : ans.allowed = true)
    (hWas : r.state = .pendingApproval)
    (hState : r'.state = .pendingApproval)
    (hTerms : r'.terms = r.terms)
    (hProposal : r'.approval = some ⟨some (start, stop)⟩)
| accepted
    (tenantId : Nat)
    (now start stop : Instant)
    (ans : Answers)
    (hAction : action = .act (.accept tenantId id now ans))
    (hAllowed : ans.allowed = true)
    (hWas : r.state = .pendingApproval)
    (hWindow : r.approval = some ⟨some (start, stop)⟩)
    (hState : r'.state = .scheduled)
    (hTerms : Sized
      { r.terms with
        startTime := start
        endTime := stop } r'.terms)
    (hProposal : r'.proposal = none)
-- a booking of no class
| plain
    (hSession : r.terms.session = none)
    (hFinal : r.state.final = true → r'.state = r.state)

/- What a step makes of a booking, there already or not. -/
inductive Turn
    (action : ClassAction)
    (rows : List ClassRange)
    (id : Nat) :
    Option Request → Option Request → Prop
| absent : Turn action rows id none none
| booked
    {r : Request}
    (hLinked : r.Linked)
    (hOpen : r.state.final = false)
    (hWaits : r.terms.session.isSome = true →
      r.state.holding = false)
    (hProposal : r.proposal = none) :
    Turn action rows id none (some r)
| changed
    {r r' : Request}
    (hSession :
      r'.terms.session.isSome = r.terms.session.isSome)
    (hApproval :
      r'.approval.isSome = r.approval.isSome)
    (hChange : Change action rows id r r') :
    Turn action rows id (some r) (some r')

section

variable {action : ClassAction}
variable {rows : List ClassRange}
variable {id : Nat}
variable {r r' : Request}

theorem Change.refl
    (r : Request) :
    Change action rows id r r :=
  .kept rfl rfl (.inl rfl)

theorem Turn.refl
    (o : Option Request) :
    Turn action rows id o o := by
  cases o with
  | none => exact .absent
  | some r => exact .changed rfl rfl (.refl r)

/- What is final stays as it is. -/
theorem Change.final
    (hChange : Change action rows id r r')
    (hFinal : r.state.final = true) :
    r'.state = r.state := by
  have hHolding : r.state.holding = false := by
    cases hState : r.state <;> rw [hState] at hFinal <;>
      first | rfl | cases hFinal
  cases hChange with
  | kept hTerms hApproval hState =>
      rcases hState with hState | ⟨hHeld, _⟩
      · exact hState
      · rw [hHolding] at hHeld
        cases hHeld
  | attached now pass rangeId hAction hHeld hNone hTerms
      hShared hApproval hState => exact hState
  | ended hOpen hEnded hProposal =>
      rw [hFinal] at hOpen
      cases hOpen
  | asked hWas hState hProposal =>
      rcases hWas with hWas | hWas
      · rw [hWas] at hFinal
        cases hFinal
      · rw [hWas] at hFinal
        cases hFinal
  | rewritten hWas hState hProposal => exact hState
  | approved tenantId now ans hAction hAllowed hWas =>
      rw [hWas] at hFinal
      cases hFinal
  | proposed tenantId now start stop clear ans hAction hAllowed
      hWas =>
      rw [hWas] at hFinal
      cases hFinal
  | accepted tenantId now start stop ans hAction hAllowed
      hWas =>
      rw [hWas] at hFinal
      cases hFinal
  | plain hSession hSame => exact hSame hFinal

/- Every step leaves an open proposal where it belongs. -/
theorem Turn.linked
    {o : Option Request}
    (hTurn : Turn action rows id o (some r'))
    (hLinked : ∀ r, o = some r → r.Linked) :
    r'.Linked := by
  cases hTurn with
  | booked hLinked => exact hLinked
  | @changed r _ hSession hApproval hChange =>
      have hWas := hLinked r rfl
      constructor
      case approval =>
        rw [hSession, hApproval]
        exact hWas.approval
      case proposal =>
        intro hSome
        cases hChange with
        | kept hTerms hSame hState =>
            have hOpen : r.proposal.isSome = true := by
              unfold Request.proposal at hSome ⊢
              rw [← hSame]
              exact hSome
            have hOld := hWas.proposal hOpen
            rcases hState with hState | ⟨hHeld, _⟩
            · rw [hState]
              exact hOld
            · rcases hOld with hOld | hOld
              · rw [hOld] at hHeld
                cases hHeld
              · rw [hOld] at hHeld
                cases hHeld
        | attached now pass rangeId hAction hHeld hNone hTerms
            hShared hSame hState =>
            have hOpen : r.proposal.isSome = true := by
              unfold Request.proposal at hSome ⊢
              rw [← hSame]
              exact hSome
            rw [hState]
            exact hWas.proposal hOpen
        | ended hOpen hEnded hProposal =>
            rcases hProposal with hState | hProposal
            · exact .inr hState
            · rw [hProposal] at hSome
              cases hSome
        | asked hWas' hState hProposal => exact .inl hState
        | rewritten hWas' hState hProposal =>
            rw [hProposal] at hSome
            cases hSome
        | approved tenantId now ans hAction hAllowed hWas'
            hState hProposal =>
            rw [hProposal] at hSome
            cases hSome
        | proposed tenantId now start stop clear ans hAction
            hAllowed hWas' hState => exact .inl hState
        | accepted tenantId now start stop ans hAction hAllowed
            hWas' hWindow hState hTerms hProposal =>
            rw [hProposal] at hSome
            cases hSome
        | plain hNone hFinal =>
            have hNot : r'.approval = none := by
              rw [← Option.not_isSome_iff_eq_none, hApproval,
                hWas.approval, hNone]
              nofun
            unfold Request.proposal at hSome
            rw [hNot] at hSome
            cases hSome

end

end Scheduler

end TrueNorth

--------
-- The Requests of a World
--------

namespace TrueNorth

namespace Scheduler

namespace World

variable {w w' : World}

/- What each booking asks for. -/
def request
    (w : World)
    (id : Nat) : Option Request :=
  (w.events.get? id).map ScheduledEvent.request

theorem request_of_get
    {id : Nat}
    {evt : ScheduledEvent}
    (hGet : w.events.get? id = some evt) :
    w.request id = some evt.request := by
  unfold request
  rw [hGet]
  rfl

theorem request_of_events
    (hEvents : w'.events = w.events) :
    w'.request = w.request := by
  funext id
  unfold request
  rw [hEvents]

/- A booking written with its request as it was. -/
theorem request_set
    {id : Nat}
    {evt evt' : ScheduledEvent}
    (hGet : w.events.get? id = some evt)
    (hEvents : w'.events = w.events.set id evt')
    (hSame : evt'.request = evt.request) :
    w'.request = w.request := by
  funext i
  unfold request
  rw [hEvents, Dict.get?_set]
  by_cases hi : i = id
  · rw [if_pos hi, hi, hGet]
    exact congrArg some hSame
  · rw [if_neg hi]

theorem disown_request
    (w : World)
    (id : Nat) :
    (w.disown id).request = w.request := by
  unfold disown
  cases hGet : w.events.get? id with
  | none => rfl
  | some evt => exact request_set hGet rfl rfl

theorem releaseRange_request
    (w : World)
    (id : Nat)
    (accepted : Bool) :
    (w.releaseRange id accepted).request = w.request := by
  rcases releaseRange_cases w id accepted with
    hSame | ⟨evt, rangeId, hGet, _, _, hHeir | hGone | hSent⟩
  · rw [hSame]
  · rcases hHeir with ⟨heirId, heir, hHeir, _, hNe, hEq⟩
    have hFirst :
        (w.setEvent heirId
          { heir with autoProvisioned := true }).request =
            w.request :=
      request_set hHeir rfl rfl
    have hSecond :
        (w.releaseRange id accepted).request =
          (w.setEvent heirId
            { heir with autoProvisioned := true }).request := by
      rw [hEq]
      have hStill :
          (w.setEvent heirId
            { heir with autoProvisioned := true }).events.get?
              id = some evt := by
        show (w.events.set heirId _).get? id = some evt
        rw [Dict.get?_set_ne (Ne.symm hNe)]
        exact hGet
      exact request_set hStill rfl rfl
    rw [hSecond, hFirst]
  · rw [hGone.2]
    exact request_set hGet rfl rfl
  · rcases hSent with ⟨rng, _, hEq⟩
    rw [hEq]
    exact request_set hGet rfl rfl

theorem provisionForBooking_request
    (w : World)
    (id rangeId : Nat)
    (accepted : Bool) :
    (w.provisionForBooking id rangeId accepted).1.request =
      w.request := by
  cases hGet : w.events.get? id with
  | none =>
      unfold provisionForBooking
      rw [hGet]
      cases w.ranges.get? rangeId with
      | none => rfl
      | some rng => rfl
  | some evt =>
      rcases provisionForBooking_cases w id rangeId hGet
          accepted with
        ⟨_, hSame⟩ | ⟨rng, _, _, hSent⟩
      · rw [hSame]
      · rw [hSent]
        exact request_set hGet rfl rfl

theorem createExercise_request
    (w : World)
    (id exerciseId : Nat) :
    (w.createExercise id exerciseId).request = w.request := by
  unfold createExercise
  cases hGet : w.events.get? id with
  | none => rfl
  | some evt =>
      dsimp only
      by_cases hDue :
          (evt.scenarioId.isSome && evt.exerciseId.isNone &&
            (w.exercises.get? exerciseId).isNone) = true
      · rw [if_pos hDue]
        exact request_set hGet rfl rfl
      · rw [if_neg hDue]

end World

end Scheduler

end TrueNorth

--------
-- Operations on a World
--------

namespace TrueNorth

namespace Scheduler

open Checks

/- Every booking's request turns as a step may turn it. -/
def Turns
    (action : ClassAction)
    (rows : List ClassRange)
    (w w' : World) : Prop :=
  ∀ id, Turn action rows id (w.request id) (w'.request id)

/- Every request of a world reads as it should. -/
def World.Linked (w : World) : Prop :=
  ∀ id r, w.request id = some r → r.Linked

namespace World

variable {cfg : Settings}
variable {w w' : World}
variable {action : ClassAction}
variable {rows : List ClassRange}

theorem turns_same
    (hSame : w'.request = w.request) :
    Turns action rows w w' := by
  intro id
  rw [hSame]
  exact .refl _

theorem turns_then
    {w'' : World}
    (hTurns : Turns action rows w w')
    (hSame : w''.request = w'.request) :
    Turns action rows w w'' := by
  intro id
  rw [hSame]
  exact hTurns id

/- A booking that was there, written anew. -/
theorem turns_set
    {id : Nat}
    {evt evt' : ScheduledEvent}
    (hGet : w.events.get? id = some evt)
    (hEvents : w'.events = w.events.set id evt')
    (hSession : evt'.session.isSome = evt.session.isSome)
    (hApproval : evt'.approval.isSome = evt.approval.isSome)
    (hChange :
      Change action rows id evt.request evt'.request) :
    Turns action rows w w' := by
  intro i
  unfold request
  rw [hEvents, Dict.get?_set]
  by_cases hi : i = id
  · rw [if_pos hi, hi, hGet]
    exact .changed hSession hApproval hChange
  · rw [if_neg hi]
    exact .refl _

theorem Linked.get
    (hLinked : w.Linked)
    {id : Nat}
    {evt : ScheduledEvent}
    (hGet : w.events.get? id = some evt) :
    evt.request.Linked :=
  hLinked id _ (request_of_get hGet)

/- No time is proposed for a booking past approval. -/
theorem Linked.no_proposal
    (hLinked : w.Linked)
    {id : Nat}
    {evt : ScheduledEvent}
    (hGet : w.events.get? id = some evt)
    (hPending : evt.state ≠ .pendingApproval)
    (hCancelled : evt.state ≠ .cancelled) :
    evt.request.proposal = none := by
  rw [← Option.not_isSome_iff_eq_none]
  intro hSome
  rcases (hLinked.get hGet).proposal hSome with hState | hState
  · exact hPending hState
  · exact hCancelled hState

theorem withdrawn_proposal
    (evt : ScheduledEvent) :
    (withdrawn evt).request.proposal = none := by
  unfold Request.proposal ScheduledEvent.request withdrawn
  cases evt.approval with
  | none => rfl
  | some approval => rfl

theorem withdrawn_approval
    (evt : ScheduledEvent) :
    (withdrawn evt).approval.isSome = evt.approval.isSome := by
  unfold withdrawn
  exact Option.isSome_map

theorem turns_write
    {id : Nat}
    {evt evt' : ScheduledEvent}
    (hGet : w.events.get? id = some evt)
    (hSession : evt'.session.isSome = evt.session.isSome)
    (hApproval : evt'.approval.isSome = evt.approval.isSome)
    (hChange :
      Change action rows id evt.request evt'.request) :
    Turns action rows w (w.setEvent id evt') :=
  turns_set hGet rfl hSession hApproval hChange

/- A booking moved to another state, and nothing else. -/
theorem turns_move
    {id : Nat}
    {evt : ScheduledEvent}
    {target : EventState}
    (hGet : w.events.get? id = some evt)
    (hChange : Change action rows id evt.request
      { evt with state := target }.request) :
    Turns action rows w
      (w.setEvent id { evt with state := target }) :=
  turns_write hGet rfl rfl hChange

theorem create_turns
    {id : Nat}
    {body : EventIn}
    {ans : Answers}
    (hAbsent : w.events.get? id = none)
    (hCreate : w.create cfg id body ans = .ok w') :
    Turns action rows w w' := by
  rcases create_cases hCreate with ⟨rangeId, _, rfl, _⟩
  intro i
  unfold request setEvent
  rw [Dict.get?_set]
  by_cases hi : i = id
  · rw [if_pos hi, hi, hAbsent]
    have hProposal :
        (newEvent body ans rangeId).request.proposal = none := by
      unfold Request.proposal ScheduledEvent.request newEvent
      cases body.classId with
      | none => rfl
      | some classId => rfl
    refine Turn.booked ?_ ?_ ?_ hProposal
    · constructor
      case approval =>
        unfold ScheduledEvent.request ScheduledEvent.terms
          newEvent
        rw [Option.isSome_map, Option.isSome_map]
      case proposal =>
        intro hSome
        rw [hProposal] at hSome
        cases hSome
    · unfold ScheduledEvent.request newEvent
      cases body.draft with
      | true => rfl
      | false =>
          cases body.classId with
          | none => rfl
          | some classId => rfl
    · intro hSession
      have hClass : body.classId.isSome = true := by
        rw [← Option.isSome_map]
        exact hSession
      unfold ScheduledEvent.request newEvent
      cases body.draft with
      | true => rfl
      | false =>
          simp only [hClass, if_true, Bool.false_eq_true,
            if_false]
          rfl
  · rw [if_neg hi]
    exact .refl _

theorem schedule_turns
    (hLinked : w.Linked)
    {tenantId id : Nat}
    {ans : Answers}
    (hSchedule : w.schedule cfg tenantId id ans = .ok w') :
    Turns action rows w w' := by
  rcases schedule_cases hSchedule with
    rfl | ⟨evt, target, hGet, rfl, hFrom, hTo⟩
  · exact turns_same rfl
  · apply turns_move hGet
    rcases hTo with ⟨rfl, _⟩ | ⟨rfl, hNone, _⟩
    · rcases hFrom with hSame | hSource
      · exact .kept rfl rfl (.inl hSame.symm)
      · have hWas :
            evt.state = .draft ∨ evt.state = .scheduled := by
          simpa [EventState.sources] using hSource
        apply Change.asked hWas rfl
        apply hLinked.no_proposal hGet
        · rcases hWas with hWas | hWas
          · rw [hWas]
            rintro ⟨⟩
          · rw [hWas]
            rintro ⟨⟩
        · rcases hWas with hWas | hWas
          · rw [hWas]
            rintro ⟨⟩
          · rw [hWas]
            rintro ⟨⟩
    · -- a booking with no approval is of no class
      apply Change.plain
      · have hSome := (hLinked.get hGet).approval
        rw [← Option.not_isSome_iff_eq_none]
        intro hSession
        have hApproval : evt.approval.isSome = true :=
          hSome.trans hSession
        rw [hNone] at hApproval
        cases hApproval
      · intro hFinal
        rcases hFrom with hSame | hSource
        · exact hSame.symm
        · have hWas :
              evt.state = .draft ∨
                evt.state = .pendingApproval := by
            simpa [EventState.sources] using hSource
          have hOf : evt.request.state = evt.state := rfl
          rw [hOf] at hFinal
          rcases hWas with hWas | hWas
          · rw [hWas] at hFinal
            cases hFinal
          · rw [hWas] at hFinal
            cases hFinal

/- A guarded move from one holding state to another. -/
theorem activate_turns
    {tenantId id : Nat}
    {allowed : Bool}
    (hActivate : w.activate tenantId id allowed = .ok w') :
    Turns action rows w w' := by
  rcases activate_cases hActivate with ⟨evt, hGet, rfl, hHeld⟩
  exact turns_move hGet (.kept rfl rfl (.inr ⟨hHeld, rfl⟩))

/- A move that ends a booking, from where it may. -/
theorem change_of_end
    (hLinked : w.Linked)
    {id : Nat}
    {evt : ScheduledEvent}
    {target : EventState}
    (hGet : w.events.get? id = some evt)
    (hTarget : target = .completed ∨ target = .cancelled)
    (hFrom : evt.state = target ∨ evt.state ∈ target.sources) :
    Change action rows id evt.request
      { evt with state := target }.request := by
  rcases hFrom with hSame | hSource
  · exact .kept rfl rfl (.inl hSame.symm)
  · rcases hTarget with rfl | rfl
    · have hWas : evt.state = .active := by
        simpa [EventState.sources] using hSource
      apply Change.ended
      · show evt.state.final = false
        rw [hWas]
        rfl
      · rfl
      · right
        apply hLinked.no_proposal hGet
        · rw [hWas]
          rintro ⟨⟩
        · rw [hWas]
          rintro ⟨⟩
    · apply Change.ended
      · show evt.state.final = false
        simp only [EventState.sources, List.mem_cons,
          List.not_mem_nil, or_false] at hSource
        rcases hSource with hWas | hWas | hWas | hWas | hWas
        all_goals
          rw [hWas]
          rfl
      · rfl
      · exact .inl rfl

theorem complete_turns
    (hLinked : w.Linked)
    {tenantId id : Nat}
    {allowed : Bool}
    (hComplete : w.complete tenantId id allowed = .ok w') :
    Turns action rows w w' := by
  unfold complete at hComplete
  rcases bind_eq_ok.mp hComplete with ⟨evt, hOwned, hComplete⟩
  rcases bind_eq_ok.mp hComplete with ⟨_, _, hComplete⟩
  rcases move_ok hComplete with ⟨rfl, hFrom⟩
  exact turns_move (owned_ok hOwned)
    (change_of_end hLinked (owned_ok hOwned) (.inl rfl) hFrom)

theorem claim_turns
    (hLinked : w.Linked)
    {id : Nat}
    {evt : ScheduledEvent}
    {target : EventState}
    (hGet : w.events.get? id = some evt)
    (hTarget : target = .completed ∨ target = .cancelled) :
    Turns action rows w (w.claim id evt target) := by
  unfold claim
  cases hMove : transition evt target with
  | none => exact turns_same rfl
  | some evt' =>
      rcases transition_cases hMove with ⟨rfl, hFrom⟩
      exact turns_move hGet
        (change_of_end hLinked hGet hTarget hFrom)

end World

end Scheduler

end TrueNorth

--------
-- An Approver's Decisions
--------

namespace TrueNorth

namespace Scheduler

open Checks

namespace World

variable {cfg : Settings}
variable {w w' : World}
variable {rows : List ClassRange}

/- What `_size` may change. -/
theorem sized_terms
    (evt : ScheduledEvent)
    (demand : Resources) :
    Sized evt.terms (sized evt demand).terms := by
  unfold sized
  by_cases hMode :
      evt.session.map ClassSession.rangeMode = some .individual
  · rw [if_pos hMode]
    exact ⟨rfl, fun hNot => absurd hMode hNot⟩
  · rw [if_neg hMode]
    exact ⟨rfl, fun _ => rfl⟩

theorem approve_turns
    {tenantId id : Nat}
    {now : Instant}
    {ans : Answers}
    (hApprove : w.approve cfg tenantId id now ans = .ok w') :
    Turns (.act (.approve tenantId id now ans)) rows w w' := by
  unfold approve at hApprove
  rcases bind_eq_ok.mp hApprove with ⟨evt, hOwned, hApprove⟩
  by_cases hThere :
      (evt.approval.isSome && evt.state = .scheduled) = true
  · rw [if_pos hThere] at hApprove
    cases hApprove
    exact turns_same rfl
  · rw [if_neg hThere] at hApprove
    rcases bind_eq_ok.mp hApprove with ⟨_, hPending, hApprove⟩
    rcases bind_eq_ok.mp hApprove with ⟨_, hAllowed, hApprove⟩
    rcases bind_eq_ok.mp hApprove with ⟨_, _, hApprove⟩
    have hMoved := (move_ok hApprove).1
    rcases sized_eq evt ans.demand with ⟨size, hSized⟩
    rw [hSized] at hMoved
    rw [hMoved]
    apply turns_write (owned_ok hOwned)
    · rfl
    · exact withdrawn_approval evt
    · exact .approved tenantId now ans rfl
        (by simpa using refuseIf_eq_ok.mp hAllowed)
        (pending_ok hPending).2 rfl (withdrawn_proposal evt)

theorem reject_turns
    {tenantId id : Nat}
    {allowed : Bool}
    {action : ClassAction}
    (hReject : w.reject tenantId id allowed = .ok w') :
    Turns action rows w w' := by
  unfold reject at hReject
  rcases bind_eq_ok.mp hReject with ⟨evt, hOwned, hReject⟩
  rcases bind_eq_ok.mp hReject with ⟨_, _, hReject⟩
  by_cases hThere :
      (evt.approval.isSome && evt.state = .rejected) = true
  · rw [if_pos hThere] at hReject
    cases hReject
    exact turns_same rfl
  · rw [if_neg hThere] at hReject
    rcases bind_eq_ok.mp hReject with ⟨_, hPending, hReject⟩
    rw [(move_ok hReject).1]
    apply turns_write (owned_ok hOwned)
    · rfl
    · exact withdrawn_approval evt
    · refine .ended ?_ rfl (.inr (withdrawn_proposal evt))
      show evt.state.final = false
      rw [(pending_ok hPending).2]
      rfl

theorem propose_turns
    {tenantId id : Nat}
    {now start stop : Instant}
    {clear : Bool}
    {ans : Answers}
    (hPropose :
      w.propose cfg tenantId id now start stop clear ans =
        .ok w') :
    Turns (.act (.propose tenantId id now start stop clear ans))
      rows w w' := by
  unfold propose at hPropose
  rcases bind_eq_ok.mp hPropose with ⟨evt, hOwned, hPropose⟩
  rcases bind_eq_ok.mp hPropose with ⟨_, hPending, hPropose⟩
  rcases bind_eq_ok.mp hPropose with ⟨_, hAllowed, hPropose⟩
  rcases bind_eq_ok.mp hPropose with ⟨_, _, hPropose⟩
  rcases bind_eq_ok.mp hPropose with ⟨_, _, hPropose⟩
  cases hPropose
  rcases pending_ok hPending with ⟨hApproval, hState⟩
  apply turns_write (owned_ok hOwned)
  · rfl
  · rw [hApproval]
    rfl
  · exact .proposed tenantId now start stop clear ans rfl
      (by simpa using refuseIf_eq_ok.mp hAllowed) hState hState
      rfl rfl

theorem accept_turns
    {tenantId id : Nat}
    {now : Instant}
    {ans : Answers}
    (hAccept : w.accept cfg tenantId id now ans = .ok w') :
    Turns (.act (.accept tenantId id now ans)) rows w w' := by
  unfold accept at hAccept
  rcases bind_eq_ok.mp hAccept with ⟨evt, hOwned, hAccept⟩
  rcases bind_eq_ok.mp hAccept with
    ⟨approval, hPending, hAccept⟩
  rcases pending_ok hPending with ⟨hApproval, hState⟩
  cases hProposed : approval.proposed with
  | none =>
      rw [hProposed] at hAccept
      cases hAccept
  | some window =>
      rcases window with ⟨start, stop⟩
      rw [hProposed] at hAccept
      rcases bind_eq_ok.mp hAccept with ⟨_, hAllowed, hAccept⟩
      rcases bind_eq_ok.mp hAccept with ⟨_, _, hAccept⟩
      have hMoved := (move_ok hAccept).1
      have hTerms := sized_terms evt ans.demand
      rcases sized_eq evt ans.demand with ⟨size, hSized⟩
      rw [hSized] at hMoved hTerms
      rw [hMoved]
      have hWindow :
          evt.request.approval = some ⟨some (start, stop)⟩ := by
        show evt.approval = _
        rw [hApproval, ← hProposed]
      apply turns_write (owned_ok hOwned)
      · rfl
      · exact withdrawn_approval evt
      · exact .accepted tenantId now start stop ans rfl
          (by simpa using refuseIf_eq_ok.mp hAllowed) hState
          hWindow rfl ⟨rfl, hTerms.size⟩
          (withdrawn_proposal evt)

theorem decline_turns
    {tenantId id : Nat}
    {allowed : Bool}
    {action : ClassAction}
    (hDecline : w.decline tenantId id allowed = .ok w') :
    Turns action rows w w' := by
  unfold decline at hDecline
  rcases bind_eq_ok.mp hDecline with ⟨evt, hOwned, hDecline⟩
  rcases bind_eq_ok.mp hDecline with ⟨_, hPending, hDecline⟩
  rcases bind_eq_ok.mp hDecline with ⟨_, _, hDecline⟩
  rcases bind_eq_ok.mp hDecline with ⟨_, _, hDecline⟩
  cases hDecline
  apply turns_write (owned_ok hOwned)
  · rfl
  · exact withdrawn_approval evt
  · exact .rewritten (.inr (pending_ok hPending).2) rfl
      (withdrawn_proposal evt)

--------
-- The Clock
--------

variable {cfg : Settings}
variable {w : World}
variable {action : ClassAction}
variable {rows : List ClassRange}

theorem activates_turns
    {id : Nat}
    {evt : ScheduledEvent}
    (hGet : w.events.get? id = some evt)
    (hHeld : evt.state.holding = true)
    {target : EventState}
    (hTarget : target.holding = true) :
    Turns action rows w
      (w.setEvent id { evt with state := target }) :=
  turns_move hGet (.kept rfl rfl (.inr ⟨hHeld, hTarget⟩))

theorem provision_turns
    {id : Nat}
    {evt : ScheduledEvent}
    (hGet : w.events.get? id = some evt)
    (hScheduled : evt.state = .scheduled)
    (rangeId : Nat)
    (held accepted : Bool)
    (exerciseId : Nat) :
    Turns action rows w
      (w.provision id rangeId evt held accepted
        exerciseId) := by
  unfold provision
  by_cases hHeld : w.heldByWindow rangeId held = true
  · rw [if_pos hHeld]
    exact turns_same rfl
  · rw [if_neg hHeld]
    cases hMove : transition evt .provisioning with
    | none => exact turns_same rfl
    | some evt' =>
        rcases transition_cases hMove with ⟨rfl, _⟩
        have hHolds : evt.state.holding = true := by
          rw [hScheduled]
          rfl
        have hBuilt : EventState.provisioning.holding = true :=
          rfl
        apply turns_then (activates_turns hGet hHolds hBuilt)
        rw [createExercise_request, provisionForBooking_request]

theorem createRange_turns
    {id : Nat}
    {evt : ScheduledEvent}
    (hGet : w.events.get? id = some evt)
    (hPlain : evt.session = none)
    (rangeId : Nat) :
    Turns action rows w (w.createRange id rangeId evt) := by
  unfold createRange
  by_cases hUnused : w.unusedRange rangeId = true
  · rw [if_pos hUnused]
    exact turns_set hGet rfl rfl rfl
      (.plain hPlain (fun _ => rfl))
  · rw [if_neg hUnused]
    exact turns_same rfl

theorem buildActive_request
    (w : World)
    (id rangeId : Nat)
    (held accepted : Bool) :
    (w.buildActive id rangeId held accepted).request =
      w.request := by
  unfold buildActive
  cases hRange : w.ranges.get? rangeId with
  | none => rfl
  | some rng =>
      dsimp only
      by_cases hNot :
          (rng.state ≠ .created ||
            w.heldByWindow rangeId held) = true
      · rw [if_pos hNot]
      · rw [if_neg hNot]
        exact provisionForBooking_request w id rangeId accepted

theorem clock_turns
    (hLinked : w.Linked)
    (now : Instant)
    (id : Nat)
    (pass : Pass) :
    Turns action rows w (w.clock cfg now id pass) := by
  unfold clock
  cases hGet : w.events.get? id with
  | none => exact turns_same rfl
  | some evt =>
      dsimp only
      by_cases hDue : pass.due cfg now evt = true
      · simp only [hDue, Bool.not_true, Bool.false_eq_true,
          if_false]
        cases pass with
        | createRange rangeId =>
            simp only [Pass.due, Bool.and_eq_true,
              Option.isNone_iff_eq_none] at hDue
            exact createRange_turns hGet hDue.2 rangeId
        | provision held accepted exerciseId =>
            simp only [Pass.due, Bool.and_eq_true,
              decide_eq_true_eq] at hDue
            cases hRange : evt.rangeId with
            | none => exact turns_same rfl
            | some rangeId =>
                exact provision_turns hGet hDue.1.1.1 rangeId
                  held accepted exerciseId
        | buildActive held accepted =>
            cases hRange : evt.rangeId with
            | none => exact turns_same rfl
            | some rangeId =>
                exact turns_same
                  (buildActive_request w id rangeId held
                    accepted)
        | activate held =>
            simp only [Pass.due, Bool.and_eq_true,
              Bool.or_eq_true, decide_eq_true_eq] at hDue
            by_cases hWait :
                (held && evt.state = .scheduled &&
                  evt.endTime > now) = true
            · simp only [hWait, if_true]
              exact turns_same rfl
            · simp only [hWait, Bool.false_eq_true, if_false]
              have hHeld : evt.state.holding = true := by
                rcases hDue.1 with hState | hState
                · rw [hState]
                  rfl
                · rw [hState]
                  rfl
              unfold claim
              cases hMove : transition evt .active with
              | none => exact turns_same rfl
              | some evt' =>
                  rcases transition_cases hMove with ⟨rfl, _⟩
                  exact activates_turns hGet hHeld rfl
        | complete accepted =>
            exact turns_then
              (claim_turns hLinked hGet (.inl rfl))
              (releaseRange_request _ id accepted)
        | retry accepted =>
            exact turns_same (releaseRange_request w id accepted)
        | lapse => exact claim_turns hLinked hGet (.inr rfl)
      · simp only [hDue, Bool.not_false, if_true]
        exact turns_same rfl

end World

end Scheduler

end TrueNorth
