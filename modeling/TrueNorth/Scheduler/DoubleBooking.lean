import TrueNorth.Scheduler.Conflicts

/-
  No double booking of a range: bookings that hold one range
  keep the provisioning lead and the teardown grace between
  them, in every run of the API, the clock and the workers.

  Key definitions include:
    * `World.Sound`
    * `World.Admissible`
    * `World.Quiet`

  Main theorems:
    * `World.Sound.step`
    * `World.no_double_booking`
-/

--------
-- Sound Worlds
--------

namespace TrueNorth

namespace Scheduler

namespace World

variable {cfg : Settings}
variable {w w' : World}

/-
  Holding bookings of one range are apart, and what awaits
  approval has an approval to wait for.
-/
structure Sound
    (cfg : Settings)
    (w : World) : Prop where
  apart : ∀ i j e f rangeId,
    i ≠ j → w.events.get? i = some e →
      w.events.get? j = some f →
      e.state.holding = true → f.state.holding = true →
      e.rangeId = some rangeId → f.rangeId = some rangeId →
      ¬ Near cfg e.startTime e.endTime f.startTime f.endTime
  approval : ∀ i e,
    w.events.get? i = some e →
      e.state = .pendingApproval → e.approval.isSome = true

/- The parts of a booking that what it holds depends on. -/
structure SameSlot (e e' : ScheduledEvent) : Prop where
  rangeId : e'.rangeId = e.rangeId
  startTime : e'.startTime = e.startTime
  endTime : e'.endTime = e.endTime

/- A booking that holds is apart from the others of a range. -/
def Admissible
    (cfg : Settings)
    (w : World)
    (id : Nat)
    (evt : ScheduledEvent) : Prop :=
  ∀ rangeId j f,
    evt.state.holding = true → evt.rangeId = some rangeId →
      j ≠ id → w.events.get? j = some f →
      f.state.holding = true → f.rangeId = some rangeId →
      ¬ Near cfg evt.startTime evt.endTime
        f.startTime f.endTime

theorem Admissible.idle
    {id : Nat}
    {evt : ScheduledEvent}
    (hIdle : evt.state.holding = false) :
    Admissible cfg w id evt := by
  intro rangeId j f hHolding
  rw [hIdle] at hHolding
  cases hHolding

/- A booking that held its slot before still may. -/
theorem Sound.admissible
    (hSound : Sound cfg w)
    {id : Nat}
    {e e' : ScheduledEvent}
    (hGet : w.events.get? id = some e)
    (hHeld : e'.state.holding = true →
      e.state.holding = true)
    (hSlot : SameSlot e e') :
    Admissible cfg w id e' := by
  intro rangeId j f hHolding hRange hNe hGet' hHolding' hRange'
  rw [hSlot.startTime, hSlot.endTime]
  exact hSound.apart id j e f rangeId hNe.symm hGet hGet'
    (hHeld hHolding) hHolding' (hSlot.rangeId ▸ hRange)
    hRange'

/- No conflict but with itself. -/
theorem Admissible.of_conflicts
    {id : Nat}
    {evt : ScheduledEvent}
    {instructorId exclude : Option Nat}
    (hNone :
      w.conflicts cfg evt.startTime evt.endTime evt.rangeId
        instructorId exclude = [])
    (hSelf : ∀ j f, j ≠ id → w.events.get? j = some f →
      some j ≠ exclude) :
    Admissible cfg w id evt := by
  intro rangeId j f _ hRange hNe hGet hHolding hRange'
  rw [hRange] at hNone
  exact not_near_of_conflicts hNone hGet hHolding hRange'
    (hSelf j f hNe hGet)

/- One booking changes; the others stay as they are. -/
theorem Sound.set
    (hSound : Sound cfg w)
    {id : Nat}
    {evt : ScheduledEvent}
    (hEvents : w'.events = w.events.set id evt)
    (hAdmissible : Admissible cfg w id evt)
    (hApproval : evt.state = .pendingApproval →
      evt.approval.isSome = true) :
    Sound cfg w' := by
  constructor
  · intro i j e f rangeId hNe hGet hGet' hHolding hHolding'
      hRange hRange'
    rw [hEvents, Dict.get?_set] at hGet hGet'
    by_cases hi : i = id
    · have hj : j ≠ id := fun hj => hNe (hi.trans hj.symm)
      rw [if_pos hi] at hGet
      rw [if_neg hj] at hGet'
      cases hGet
      exact hAdmissible rangeId j f hHolding hRange hj hGet'
        hHolding' hRange'
    · rw [if_neg hi] at hGet
      by_cases hj : j = id
      · rw [if_pos hj] at hGet'
        cases hGet'
        intro hNear
        exact hAdmissible rangeId i e hHolding' hRange' hi
          hGet hHolding hRange hNear.symm
      · rw [if_neg hj] at hGet'
        exact hSound.apart i j e f rangeId hNe hGet hGet'
          hHolding hHolding' hRange hRange'
  · intro i e hGet hState
    rw [hEvents, Dict.get?_set] at hGet
    by_cases hi : i = id
    · rw [if_pos hi] at hGet
      cases hGet
      exact hApproval hState
    · rw [if_neg hi] at hGet
      exact hSound.approval i e hGet hState

/- Only the ownership of ranges changes. -/
def Quiet (w w' : World) : Prop :=
  ∀ id e', w'.events.get? id = some e' →
    ∃ e, w.events.get? id = some e ∧ e'.state = e.state ∧
      e'.approval = e.approval ∧ SameSlot e e'

theorem Quiet.refl (w : World) : Quiet w w :=
  fun _ e hGet => ⟨e, hGet, rfl, rfl, rfl, rfl, rfl⟩

theorem Quiet.trans
    {w₁ w₂ w₃ : World}
    (hFirst : Quiet w₁ w₂)
    (hSecond : Quiet w₂ w₃) :
    Quiet w₁ w₃ := by
  intro id e hGet
  rcases hSecond id e hGet with
    ⟨e', hGet', hState, hApproval, hSlot⟩
  rcases hFirst id e' hGet' with
    ⟨e'', hGet'', hState', hApproval', hSlot'⟩
  exact ⟨e'', hGet'', hState.trans hState',
    hApproval.trans hApproval',
    hSlot.rangeId.trans hSlot'.rangeId,
    hSlot.startTime.trans hSlot'.startTime,
    hSlot.endTime.trans hSlot'.endTime⟩

/- A booking written back with nothing but its flag new. -/
theorem Quiet.set
    {id : Nat}
    {e e' : ScheduledEvent}
    (hGet : w.events.get? id = some e)
    (hEvents : w'.events = w.events.set id e')
    (hState : e'.state = e.state)
    (hApproval : e'.approval = e.approval)
    (hSlot : SameSlot e e') :
    Quiet w w' := by
  intro i f hGet'
  rw [hEvents, Dict.get?_set] at hGet'
  by_cases hi : i = id
  · rw [if_pos hi] at hGet'
    cases hGet'
    exact ⟨e, hi ▸ hGet, hState, hApproval, hSlot⟩
  · rw [if_neg hi] at hGet'
    exact ⟨f, hGet', rfl, rfl, rfl, rfl, rfl⟩

theorem Sound.quiet
    (hSound : Sound cfg w)
    (hQuiet : Quiet w w') :
    Sound cfg w' := by
  constructor
  · intro i j e f rangeId hNe hGet hGet' hHolding hHolding'
      hRange hRange'
    rcases hQuiet i e hGet with ⟨e₀, hOld, hState, _, hSlot⟩
    rcases hQuiet j f hGet' with
      ⟨f₀, hOld', hState', _, hSlot'⟩
    rw [hSlot.startTime, hSlot.endTime, hSlot'.startTime,
      hSlot'.endTime]
    exact hSound.apart i j e₀ f₀ rangeId hNe hOld hOld'
      (hState ▸ hHolding) (hState' ▸ hHolding')
      (hSlot.rangeId ▸ hRange) (hSlot'.rangeId ▸ hRange')
  · intro i e hGet hState
    rcases hQuiet i e hGet with
      ⟨e₀, hOld, hSame, hApproval, _⟩
    rw [hApproval]
    exact hSound.approval i e₀ hOld (hSame ▸ hState)

--------
-- Requests Keep Worlds Sound
--------

variable {cfg : Settings}
variable {w w' : World}

/- A booking that no conflict was found for. -/
theorem Sound.admitted
    (hSound : Sound cfg w)
    {id : Nat}
    {evt : ScheduledEvent}
    (hEvents : w'.events = w.events.set id evt)
    (hState : evt.state ≠ .pendingApproval)
    (hNone :
      w.conflicts cfg evt.startTime evt.endTime evt.rangeId
        evt.instructorId (some id) = []) :
    Sound cfg w' := by
  apply hSound.set hEvents
  · apply Admissible.of_conflicts hNone
    intro j f hNe _ hSame
    exact hNe (Option.some.inj hSame)
  · intro hPending
    exact absurd hPending hState

/- A booking that holds nothing. -/
theorem Sound.idle
    (hSound : Sound cfg w)
    {id : Nat}
    {evt : ScheduledEvent}
    (hEvents : w'.events = w.events.set id evt)
    (hIdle : evt.state.holding = false)
    (hApproval : evt.state = .pendingApproval →
      evt.approval.isSome = true) :
    Sound cfg w' :=
  hSound.set hEvents (.idle hIdle) hApproval

/- A booking that held its slot already. -/
theorem Sound.kept
    (hSound : Sound cfg w)
    {id : Nat}
    {e : ScheduledEvent}
    {s : EventState}
    (hGet : w.events.get? id = some e)
    (hHeld : e.state.holding = true)
    (hState : s ≠ .pendingApproval) :
    Sound cfg (w.setEvent id { e with state := s }) := by
  apply hSound.set rfl
  · exact hSound.admissible hGet (fun _ => hHeld) ⟨rfl, rfl, rfl⟩
  · intro hPending
    exact absurd hPending hState

theorem Sound.create
    (hSound : Sound cfg w)
    {id : Nat}
    {body : EventIn}
    {ans : Answers}
    (hCreate : w.create cfg id body ans = .ok w') :
    Sound cfg w' := by
  rcases create_cases hCreate with ⟨rangeId, _, rfl, hNone⟩
  apply hSound.set rfl
  · intro rangeId' j f hHolding
    have hState :
        (newEvent body ans rangeId).state = .scheduled := by
      unfold newEvent at hHolding ⊢
      by_cases hDraft : body.draft = true
      · simp [hDraft, EventState.holding] at hHolding
      · by_cases hClass : body.classId.isSome = true
        · simp [hDraft, hClass, EventState.holding] at hHolding
        · simp [hDraft, hClass]
    have hAdmissible :
        Admissible cfg w id (newEvent body ans rangeId) := by
      apply Admissible.of_conflicts (hNone hState)
      intro j f _ _ hSame
      cases hSame
    exact hAdmissible rangeId' j f hHolding
  · intro hPending
    unfold newEvent at hPending ⊢
    by_cases hDraft : body.draft = true
    · simp [hDraft] at hPending
    · by_cases hClass : body.classId.isSome = true
      · simpa using hClass
      · simp [hDraft, hClass] at hPending

theorem Sound.update
    (hSound : Sound cfg w)
    {id : Nat}
    {body : EventIn}
    {ans : Answers}
    (hUpdate : w.update cfg id body ans = .ok w') :
    Sound cfg w' := by
  rcases update_cases hUpdate with
    ⟨evt, rangeId, evt', hGet, hEditable, _, rfl, _, _,
      hApproval, hAgain | hSame⟩
  · rcases hAgain with ⟨hPending, hSome⟩
    apply hSound.idle rfl
    · rw [hPending]
      rfl
    · exact fun _ => hSome
  · rcases hSame with ⟨hState, hNone⟩
    by_cases hScheduled : evt.state = .scheduled
    · apply hSound.admitted rfl
      · rw [hState, hScheduled]
        nofun
      · exact hNone hScheduled
    · apply hSound.idle rfl
      · rw [hState]
        cases hs : evt.state with
        | scheduled => exact absurd hs hScheduled
        | _ => first | rfl | (rw [hs] at hEditable; cases hEditable)
      · intro hPending
        rw [hApproval]
        exact hSound.approval id evt hGet (hState ▸ hPending)

theorem Sound.schedule
    (hSound : Sound cfg w)
    {tenantId id : Nat}
    {ans : Answers}
    (hSchedule : w.schedule cfg tenantId id ans = .ok w') :
    Sound cfg w' := by
  rcases schedule_cases hSchedule with rfl | hMoved
  · exact hSound
  · rcases hMoved with
      ⟨evt, target, hGet, rfl, hFrom, hPending | hScheduled⟩
    · rcases hPending with ⟨rfl, hSome⟩
      exact hSound.idle rfl rfl (fun _ => hSome)
    · rcases hScheduled with ⟨rfl, hNone, hAdmit⟩
      rcases hFrom with hSame | hSource
      · apply hSound.kept hGet
        · rw [hSame]
          rfl
        · rintro ⟨⟩
      · simp only [EventState.sources, List.mem_cons,
          List.not_mem_nil, or_false] at hSource
        rcases hSource with hDraft | hPending
        · exact hSound.admitted rfl (by rintro ⟨⟩) (hAdmit hDraft)
        · -- what awaits approval has an approval
          have hSome := hSound.approval id evt hGet hPending
          rw [hNone] at hSome
          cases hSome

--------
-- Teardowns and the Clock Keep Worlds Sound
--------

variable {cfg : Settings}
variable {w w' : World}

theorem quiet_of_events
    (hEvents : w'.events = w.events) :
    Quiet w w' := by
  intro id e hGet
  rw [hEvents] at hGet
  exact ⟨e, hGet, rfl, rfl, rfl, rfl, rfl⟩

theorem workerReports_events
    (w : World)
    (rangeId : Nat)
    (state : RangeOps.RangeState) :
    (w.workerReports rangeId state).events = w.events := by
  unfold workerReports
  cases w.ranges.get? rangeId with
  | none => rfl
  | some rng =>
      dsimp only
      by_cases hMay : reportable rng.state state = true
      · rw [if_pos hMay]
      · rw [if_neg hMay]

theorem quiet_disown
    (w : World)
    (id : Nat) :
    Quiet w (w.disown id) := by
  unfold disown
  cases hGet : w.events.get? id with
  | none => exact .refl w
  | some evt =>
      exact .set hGet rfl rfl rfl ⟨rfl, rfl, rfl⟩

theorem destroyForBooking_events
    (w : World)
    (id rangeId : Nat)
    (accepted : Bool) :
    (w.destroyForBooking id rangeId accepted).1.events =
      w.events := by
  unfold destroyForBooking
  cases w.ranges.get? rangeId with
  | none => rfl
  | some rng =>
      by_cases hGone :
          (rng.state = .destroying ||
            rng.state = .destroyed) = true
      · simp only [if_pos hGone]
      · by_cases hNot : (rng.lab || !accepted) = true
        · simp only [if_neg hGone, if_pos hNot]
        · simp only [if_neg hGone, if_neg hNot]

theorem quiet_releaseRange
    (w : World)
    (id : Nat)
    (accepted : Bool) :
    Quiet w (w.releaseRange id accepted) := by
  unfold releaseRange
  cases hGet : w.events.get? id with
  | none => exact .refl w
  | some evt =>
      dsimp only
      cases hOwner : evt.autoProvisioned with
      | false => exact .refl w
      | true =>
          cases hRange : evt.rangeId with
          | none => exact .refl w
          | some rangeId =>
              dsimp only
              cases hHeir : (w.holders rangeId id).head? with
              | some heir =>
                  rcases heir with ⟨heirId, heir⟩
                  have hMem := List.mem_of_mem_head? hHeir
                  have hGetHeir := (mem_holders.mp hMem).1
                  have hHanded : Quiet w
                      (w.setEvent heirId
                        { heir with autoProvisioned := true }) :=
                    .set hGetHeir rfl rfl rfl ⟨rfl, rfl, rfl⟩
                  exact hHanded.trans (quiet_disown _ id)
              | none =>
                  have hDestroy :=
                    quiet_of_events
                      (destroyForBooking_events w id rangeId
                        accepted)
                  rcases hDone :
                      w.destroyForBooking id rangeId accepted
                    with ⟨w', settled⟩
                  rw [hDone] at hDestroy
                  cases settled with
                  | false => exact hDestroy
                  | true => exact hDestroy.trans (quiet_disown w' id)

theorem quiet_provisionForBooking
    (w : World)
    (id rangeId : Nat)
    (accepted : Bool) :
    Quiet w (w.provisionForBooking id rangeId accepted).1 := by
  unfold provisionForBooking
  cases hRange : w.ranges.get? rangeId with
  | none => exact .refl w
  | some rng =>
      cases hGet : w.events.get? id with
      | none => exact .refl w
      | some evt =>
          dsimp only
          by_cases hSent :
              (buildable rng.state && !rng.lab && accepted) =
                true
          · rw [if_pos hSent]
            exact .set hGet rfl rfl rfl ⟨rfl, rfl, rfl⟩
          · rw [if_neg hSent]
            exact .refl w

theorem quiet_createExercise
    (w : World)
    (id exerciseId : Nat) :
    Quiet w (w.createExercise id exerciseId) := by
  unfold createExercise
  cases hGet : w.events.get? id with
  | none => exact .refl w
  | some evt =>
      dsimp only
      by_cases hDue :
          (evt.scenarioId.isSome && evt.exerciseId.isNone &&
            (w.exercises.get? exerciseId).isNone) = true
      · rw [if_pos hDue]
        exact .set hGet rfl rfl rfl ⟨rfl, rfl, rfl⟩
      · rw [if_neg hDue]
        exact .refl w

--------
-- Every Step Keeps Worlds Sound
--------

variable {cfg : Settings}
variable {w w' : World}

theorem Sound.createRange
    (hSound : Sound cfg w)
    {id rangeId : Nat}
    {evt : ScheduledEvent}
    (hState : evt.state = .scheduled) :
    Sound cfg (w.createRange id rangeId evt) := by
  unfold World.createRange
  by_cases hUnused : w.unusedRange rangeId = true
  · rw [if_pos hUnused]
    apply hSound.set rfl
    · -- no booking has the new range
      intro rangeId' j f _ hRange _ hGet _ hRange'
      cases hRange
      unfold unusedRange at hUnused
      simp only [Bool.and_eq_true, List.all_eq_true,
        decide_eq_true_eq] at hUnused
      exact absurd hRange'
        (hUnused.1.2 (j, f) (Dict.get?_eq_some_iff.mp hGet))
    · intro hPending
      rw [hState] at hPending
      cases hPending
  · rw [if_neg hUnused]
    exact hSound

theorem Sound.claim
    (hSound : Sound cfg w)
    {id : Nat}
    {evt : ScheduledEvent}
    {target : EventState}
    (hGet : w.events.get? id = some evt)
    (hHeld : target.holding = true → evt.state.holding = true)
    (hTarget : target ≠ .pendingApproval) :
    Sound cfg (w.claim id evt target) := by
  unfold World.claim
  cases hMove : transition evt target with
  | none => exact hSound
  | some evt' =>
      rcases transition_cases hMove with ⟨rfl, _⟩
      apply hSound.set rfl
      · exact hSound.admissible hGet hHeld ⟨rfl, rfl, rfl⟩
      · intro hPending
        exact absurd hPending hTarget

theorem Sound.provision
    (hSound : Sound cfg w)
    {id rangeId exerciseId : Nat}
    {evt : ScheduledEvent}
    {held accepted : Bool}
    (hGet : w.events.get? id = some evt)
    (hState : evt.state = .scheduled) :
    Sound cfg
      (w.provision id rangeId evt held accepted exerciseId) := by
  unfold World.provision
  by_cases hHeld : w.heldByWindow rangeId held = true
  · rw [if_pos hHeld]
    exact hSound
  · rw [if_neg hHeld]
    have hClaim : Sound cfg (w.claim id evt .provisioning) :=
      hSound.claim hGet (fun _ => by rw [hState]; rfl) nofun
    unfold World.claim at hClaim
    cases hMove : transition evt .provisioning with
    | none => exact hSound
    | some evt' =>
        rw [hMove] at hClaim
        have hBuilt := hClaim.quiet
          (quiet_provisionForBooking _ id rangeId accepted)
        exact hBuilt.quiet (quiet_createExercise _ id exerciseId)

theorem Sound.buildActive
    (hSound : Sound cfg w)
    {id rangeId : Nat}
    {held accepted : Bool} :
    Sound cfg (w.buildActive id rangeId held accepted) := by
  unfold World.buildActive
  cases w.ranges.get? rangeId with
  | none => exact hSound
  | some rng =>
      dsimp only
      by_cases hSkip :
          (rng.state ≠ .created || w.heldByWindow rangeId held) =
            true
      · rw [if_pos hSkip]
        exact hSound
      · rw [if_neg hSkip]
        exact hSound.quiet
          (quiet_provisionForBooking w id rangeId accepted)

theorem Sound.clock
    (hSound : Sound cfg w)
    (now : Instant)
    (id : Nat)
    (pass : Pass) :
    Sound cfg (w.clock cfg now id pass) := by
  unfold World.clock
  cases hGet : w.events.get? id with
  | none => exact hSound
  | some evt =>
      dsimp only
      by_cases hDue : pass.due cfg now evt = true
      · rw [hDue]
        cases pass with
        | createRange rangeId =>
            simp only [Pass.due, Bool.and_eq_true,
              decide_eq_true_eq] at hDue
            exact hSound.createRange hDue.1.1.1.1.1
        | provision held accepted exerciseId =>
            simp only [Pass.due, Bool.and_eq_true,
              decide_eq_true_eq] at hDue
            cases evt.rangeId with
            | none => exact hSound
            | some rangeId =>
                exact hSound.provision hGet hDue.1.1.1
        | buildActive held accepted =>
            cases evt.rangeId with
            | none => exact hSound
            | some rangeId => exact hSound.buildActive
        | activate held =>
            simp only [Pass.due, Bool.and_eq_true,
              Bool.or_eq_true, decide_eq_true_eq] at hDue
            dsimp only
            by_cases hHeld :
                (held && evt.state = .scheduled &&
                  evt.endTime > now) = true
            · simp only [if_pos hHeld]
              exact hSound
            · simp only [if_neg hHeld]
              have hHolding : evt.state.holding = true := by
                rcases hDue.1 with hState | hState
                · rw [hState]
                  rfl
                · rw [hState]
                  rfl
              exact hSound.claim hGet (fun _ => hHolding) nofun
        | complete accepted =>
            have hClaim : Sound cfg (w.claim id evt .completed) :=
              hSound.claim hGet nofun nofun
            exact hClaim.quiet (quiet_releaseRange _ id accepted)
        | retry accepted =>
            exact hSound.quiet (quiet_releaseRange w id accepted)
        | lapse => exact hSound.claim hGet nofun nofun
      · rw [Bool.not_eq_true] at hDue
        rw [hDue]
        exact hSound

theorem Sound.settle
    (hSound : Sound cfg w)
    {answer : Except Refusal World}
    (hAnswer : ∀ w', answer = .ok w' → Sound cfg w') :
    Sound cfg (w.settle answer) := by
  cases answer with
  | error e => exact hSound
  | ok w' => exact hAnswer w' rfl

/- What one step preserves. -/
theorem Sound.step
    (hSound : Sound cfg w)
    (a : Action) :
    Sound cfg (step cfg w a) := by
  cases a with
  | create id body ans =>
      simp only [World.step]
      by_cases hUsed : (w.events.get? id).isSome = true
      · rw [if_pos hUsed]
        exact hSound
      · rw [if_neg hUsed]
        exact hSound.settle (fun _ => hSound.create)
  | update id body ans =>
      exact hSound.settle (fun _ => hSound.update)
  | schedule tenantId id ans =>
      exact hSound.settle (fun _ => hSound.schedule)
  | activate tenantId id allowed =>
      apply hSound.settle
      intro w' hActivate
      rcases activate_cases hActivate with
        ⟨evt, hGet, rfl, hHeld⟩
      exact hSound.kept hGet hHeld (by rintro ⟨⟩)
  | complete tenantId id allowed =>
      apply hSound.settle
      intro w' hComplete
      rcases complete_cases hComplete with ⟨evt, hGet, rfl⟩
      exact hSound.idle rfl rfl (by rintro ⟨⟩)
  | cancel tenantId id allowed accepted =>
      apply hSound.settle
      intro w' hCancel
      rcases cancel_cases hCancel with
        ⟨evt, moved, hGet, rfl, rfl | rfl⟩
      · exact hSound.idle rfl rfl (by rintro ⟨⟩)
      · have hMoved : Sound cfg
            (w.setEvent id { evt with state := .cancelled }) :=
          hSound.idle rfl rfl (by rintro ⟨⟩)
        exact hMoved.quiet (quiet_releaseRange _ id accepted)
  | approve tenantId id now ans =>
      apply hSound.settle
      intro w' hApprove
      rcases approve_cases hApprove with rfl | hMoved
      · exact hSound
      · rcases hMoved with
          ⟨evt, evt', hGet, rfl, hState, _, hNone⟩
        apply hSound.admitted rfl _ hNone
        rw [hState]
        rintro ⟨⟩
  | reject tenantId id allowed =>
      apply hSound.settle
      intro w' hReject
      rcases reject_cases hReject with rfl | hMoved
      · exact hSound
      · rcases hMoved with ⟨evt, evt', hGet, rfl, hState, _⟩
        apply hSound.idle rfl
        · rw [hState]
          rfl
        · rw [hState]
          rintro ⟨⟩
  | propose tenantId id now start stop clear ans =>
      apply hSound.settle
      intro w' hPropose
      rcases propose_cases hPropose with
        ⟨evt, evt', hGet, rfl, hState, hSome, _⟩
      apply hSound.idle rfl
      · rw [hState]
        rfl
      · exact fun _ => hSome
  | accept tenantId id now ans =>
      apply hSound.settle
      intro w' hAccept
      rcases accept_cases hAccept with
        ⟨evt, evt', hGet, rfl, hState, _, hNone⟩
      apply hSound.admitted rfl _ hNone
      rw [hState]
      rintro ⟨⟩
  | decline tenantId id allowed =>
      apply hSound.settle
      intro w' hDecline
      rcases decline_cases hDecline with
        ⟨evt, evt', hGet, rfl, hState, hSome, _⟩
      apply hSound.idle rfl
      · rw [hState]
        rfl
      · exact fun _ => hSome
  | clock now id pass => exact hSound.clock now id pass
  | worker rangeId state =>
      exact hSound.quiet
        (quiet_of_events (workerReports_events w rangeId state))

theorem Sound.fresh
    (cfg : Settings)
    (ranges : Dict Nat Range)
    (exercises : Dict Nat Exercise) :
    Sound cfg (.fresh ranges exercises) := by
  constructor
  · intro i j e f rangeId _ hGet
    cases hGet
  · intro i e hGet
    cases hGet

/- Every world that a run of commands reaches is sound. -/
theorem Sound.exec
    (cfg : Settings)
    (ranges : Dict Nat Range)
    (exercises : Dict Nat Exercise)
    (commands : List Command) :
    Sound cfg
      (Runs.run (exec cfg) (.fresh ranges exercises)
        commands) := by
  apply Runs.run_invariant
  · intro w c hSound
    exact exec_invariant cfg (Sound cfg)
      (fun _ a hSound => hSound.step a) w c hSound
  · exact Sound.fresh cfg ranges exercises

--------
-- No Double Booking
--------

/-
  In every world that the API, the clock and the workers
  reach, two bookings that hold one range have the lead and
  the grace between them, and a booking that holds nothing
  leaves every other's requests as they would be without it.
-/
theorem no_double_booking
    (cfg : Settings)
    (ranges : Dict Nat Range)
    (exercises : Dict Nat Exercise)
    (commands : List Command) :
    let w := Runs.run (exec cfg) (.fresh ranges exercises)
      commands
    (∀ i j e f rangeId,
      i ≠ j →
      w.events.get? i = some e → w.events.get? j = some f →
      e.state.holding = true → f.state.holding = true →
      e.rangeId = some rangeId → f.rangeId = some rangeId →
        e.endTime + (cfg.lead + cfg.grace) ≤ f.startTime ∨
          f.endTime + (cfg.lead + cfg.grace) ≤ e.startTime) ∧
    (∀ id evt,
      w.events.get? id = some evt →
      evt.state.holding = false →
        ∀ a : Action, a.booking ≠ some id →
          (w.without id).refusal cfg a = w.refusal cfg a) := by
  intro w
  have hSound : Sound cfg w :=
    Sound.exec cfg ranges exercises commands
  constructor
  · intro i j e f rangeId hNe hGet hGet' hHolding hHolding'
      hRange hRange'
    have hApart := hSound.apart i j e f rangeId hNe hGet hGet'
      hHolding hHolding' hRange hRange'
    by_cases hAfter : f.startTime < e.endTime + cfg.reach
    · right
      by_contra hBefore
      exact hApart ⟨hAfter, Int.not_le.mp hBefore⟩
    · left
      exact Int.not_lt.mp hAfter
  · intro id evt hGet hIdle a hOther
    exact refusal_without hGet hIdle hOther

end World

end Scheduler

end TrueNorth
