import TrueNorth.Scheduler.Ownership

/-
  One owner for every range the clock built, all along a run.

  An edit leaves the flag alone, so it must not give an owner
  another range; and a build flags its booking, so it must
  not build what another booking owns.  The owners are right
  all along a run exactly when every step keeps to that.

  Key definitions include:
    * `World.Keeps`

  Main theorems:
    * `World.Owned.step_iff`
    * `World.owners_right_iff`
-/

--------
-- Steps That Keep the Owners
--------

namespace TrueNorth

namespace Scheduler

namespace World

variable (cfg : Settings)

/- An edit gives a booking that owns its range another one. -/
def movesOwned
    (w : World)
    (id : Nat)
    (body : EventIn)
    (ans : Answers) : Bool :=
  match w.events.get? id, w.bookedRange body with
  | some evt, .ok rangeId =>
      evt.autoProvisioned && rangeId ≠ evt.rangeId &&
        (w.refusal cfg (.update id body ans)).isNone
  | _, _ => false

/- The range that a step of the pass sends to be built. -/
def builds
    (w : World)
    (now : Instant)
    (evt : ScheduledEvent)
    (pass : Pass) : Option Nat :=
  match pass, evt.rangeId with
  | .provision held accepted _, some rangeId =>
      if pass.due cfg now evt &&
          !w.heldByWindow rangeId held &&
          w.sends rangeId accepted then
        some rangeId
      else
        none
  | .buildActive held accepted, some rangeId =>
      if pass.due cfg now evt &&
          (w.ranges.get? rangeId).map Range.state =
            some .created &&
          !w.heldByWindow rangeId held &&
          w.sends rangeId accepted then
        some rangeId
      else
        none
  | _, _ => none

/- The clock builds a range that another booking owns. -/
def takesOwned
    (w : World)
    (now : Instant)
    (id : Nat)
    (pass : Pass) : Bool :=
  match w.events.get? id with
  | none => false
  | some evt =>
      match builds cfg w now evt pass with
      | none => false
      | some rangeId =>
          w.events.entries.any (fun entry =>
            entry.1 ≠ id && entry.2.autoProvisioned &&
              entry.2.rangeId = some rangeId)

/- What a step must not do for the owners to stay right. -/
def Keeps
    (w : World) :
    Action → Prop
| .update id body ans => movesOwned cfg w id body ans = false
| .clock now id pass => takesOwned cfg w now id pass = false
| _ => True

instance decidableKeeps
    (w : World) :
    ∀ a, Decidable (Keeps cfg w a)
| .update _ _ _ => inferInstanceAs (Decidable (_ = _))
| .clock _ _ _ => inferInstanceAs (Decidable (_ = _))
| .create .. => .isTrue trivial
| .schedule .. => .isTrue trivial
| .activate .. => .isTrue trivial
| .complete .. => .isTrue trivial
| .cancel .. => .isTrue trivial
| .approve .. => .isTrue trivial
| .reject .. => .isTrue trivial
| .propose .. => .isTrue trivial
| .accept .. => .isTrue trivial
| .decline .. => .isTrue trivial
| .worker .. => .isTrue trivial

variable {cfg : Settings}
variable {w w' : World}

theorem not_takes_iff
    {now : Instant}
    {id rangeId : Nat}
    {pass : Pass}
    {evt : ScheduledEvent}
    (hGet : w.events.get? id = some evt)
    (hBuilds : builds cfg w now evt pass = some rangeId) :
    takesOwned cfg w now id pass = false ↔
      ∀ k, w.flag k = some (some rangeId) → k = id := by
  unfold takesOwned
  rw [hGet]
  dsimp only
  rw [hBuilds]
  dsimp only
  rw [List.any_eq_false]
  constructor
  · intro hNone k hFlag
    rcases flag_eq_some_iff.mp hFlag with ⟨f, hGet', hAuto, hRange⟩
    by_contra hNe
    apply hNone (k, f) (Dict.get?_eq_some_iff.mp hGet')
    simp [hNe, hAuto, hRange]
  · rintro hFree ⟨k, f⟩ hMem hTaken
    simp only [Bool.and_eq_true, decide_eq_true_eq] at hTaken
    rcases hTaken with ⟨⟨hNe, hAuto⟩, hRange⟩
    exact hNe (hFree k (flag_eq_some_iff.mpr
      ⟨f, Dict.get?_eq_some_iff.mpr hMem, hAuto, hRange⟩))

theorem not_takes_of_none
    {now : Instant}
    {id : Nat}
    {pass : Pass}
    {evt : ScheduledEvent}
    (hGet : w.events.get? id = some evt)
    (hBuilds : builds cfg w now evt pass = none) :
    takesOwned cfg w now id pass = false := by
  unfold takesOwned
  rw [hGet]
  dsimp only
  rw [hBuilds]

/- An accepted edit, of a booking that owns its range or not. -/
theorem Owned.update_iff
    (hOwned : Owned w)
    {id : Nat}
    {body : EventIn}
    {ans : Answers} :
    Owned (w.settle (w.update cfg id body ans)) ↔
      movesOwned cfg w id body ans = false := by
  unfold movesOwned
  cases hUpdate : w.update cfg id body ans with
  | error e =>
      refine ⟨fun _ => ?_, fun _ => hOwned⟩
      cases w.events.get? id with
      | none => rfl
      | some evt =>
          cases w.bookedRange body with
          | error e => rfl
          | ok rangeId => simp [refusal, hUpdate, refused]
  | ok w' =>
      rcases update_cases hUpdate with
        ⟨evt, rangeId, evt', hGet, _, hRange, rfl, hBooked,
          hAuto, _⟩
      rw [hGet, hRange]
      simp only [settle, refusal, hUpdate, refused,
        Option.isNone_none, Bool.and_true]
      by_cases hFlag : evt.autoProvisioned = true
      · by_cases hMoved : rangeId = evt.rangeId
        · have hStill : Still w (w.setEvent id evt') :=
            .set hGet ⟨hBooked.trans hMoved, hAuto⟩
          rw [hStill.owned_iff]
          simp [hOwned, hMoved]
        · simp only [hFlag, hMoved, not_false_eq_true, ne_eq,
            decide_true, Bool.and_true, Bool.true_eq_false,
            iff_false]
          intro hAfter
          rcases owned_iff_custody.mp hOwned with ⟨hCustody, _⟩
          rcases owned_iff_custody.mp hAfter with ⟨hAfter, _⟩
          have hFrom : w.flag id = some evt.rangeId :=
            flag_eq_some_iff.mpr ⟨evt, hGet, hFlag, rfl⟩
          refine hCustody.not_of_move hFrom hMoved ?_ ?_ hAfter
          · intro k
            rw [flag_set rfl]
            unfold ScheduledEvent.flag
            rw [hAuto, hFlag, if_pos rfl, hBooked]
          · exact fun _ => Iff.rfl
      · rw [Bool.not_eq_true] at hFlag
        have hNone : w.flag id = none := by
          rw [flag_of_get hGet]
          unfold ScheduledEvent.flag
          rw [hFlag]
          rfl
        have hStill : Still w (w.setEvent id evt') :=
          .set_idle hNone (hAuto.trans hFlag) rfl rfl rfl
        rw [hStill.owned_iff]
        simp [hOwned, hFlag]

--------
-- The Clock
--------

variable {cfg : Settings}
variable {w w' : World}

theorem still_claim
    {id : Nat}
    {evt : ScheduledEvent}
    (hGet : w.events.get? id = some evt)
    (target : EventState) :
    Still w (w.claim id evt target) := by
  unfold claim
  cases hMove : transition evt target with
  | none => exact .refl w
  | some evt' =>
      rcases transition_cases hMove with ⟨rfl, _⟩
      exact .set hGet ⟨rfl, rfl⟩

theorem still_createExercise
    (w : World)
    (id exerciseId : Nat) :
    Still w (w.createExercise id exerciseId) := by
  unfold createExercise
  cases hGet : w.events.get? id with
  | none => exact .refl w
  | some evt =>
      dsimp only
      by_cases hDue :
          (evt.scenarioId.isSome && evt.exerciseId.isNone &&
            (w.exercises.get? exerciseId).isNone) = true
      · rw [if_pos hDue]
        have hStill : Still w
            (w.setEvent id
              { evt with exerciseId := some exerciseId }) :=
          .set hGet ⟨rfl, rfl⟩
        exact ⟨hStill.flag, rfl, rfl⟩
      · rw [if_neg hDue]
        exact .refl w

theorem Standing.createExercise
    (hStanding : Standing w)
    (id exerciseId : Nat) :
    Standing (w.createExercise id exerciseId) := by
  unfold World.createExercise
  cases w.events.get? id with
  | none => exact hStanding
  | some evt =>
      dsimp only
      by_cases hDue :
          (evt.scenarioId.isSome && evt.exerciseId.isNone &&
            (w.exercises.get? exerciseId).isNone) = true
      · rw [if_pos hDue]
        exact hStanding.same rfl rfl
      · rw [if_neg hDue]
        exact hStanding

theorem standing_claim
    (hStanding : Standing w)
    (id : Nat)
    (evt : ScheduledEvent)
    (target : EventState) :
    Standing (w.claim id evt target) := by
  unfold claim
  cases transition evt target with
  | none => exact hStanding
  | some evt' => exact hStanding.same rfl rfl

/- A booking without a range owns none. -/
theorem Owned.flag_none
    (hOwned : Owned w)
    {id : Nat}
    {evt : ScheduledEvent}
    (hGet : w.events.get? id = some evt)
    (hRange : evt.rangeId = none) :
    w.flag id = none := by
  by_contra hSome
  rcases Option.ne_none_iff_exists'.mp hSome with
    ⟨range, hFlag⟩
  rcases flag_eq_some_iff.mp hFlag with ⟨evt', hGet', hAuto, _⟩
  rw [hGet] at hGet'
  cases hGet'
  rcases hOwned.flagged id evt hGet hAuto with ⟨R, _, hSome⟩
  rw [hRange] at hSome
  cases hSome

theorem Owned.createRange
    (hOwned : Owned w)
    {id rangeId : Nat}
    {evt : ScheduledEvent}
    (hGet : w.events.get? id = some evt)
    (hRange : evt.rangeId = none) :
    Owned (w.createRange id rangeId evt) := by
  unfold World.createRange
  by_cases hUnused : w.unusedRange rangeId = true
  · rw [if_pos hUnused]
    have hNone := hOwned.flag_none hGet hRange
    have hIdle : evt.autoProvisioned = false := by
      rw [flag_of_get hGet] at hNone
      unfold ScheduledEvent.flag at hNone
      by_contra hAuto
      rw [Bool.not_eq_false] at hAuto
      rw [if_pos hAuto] at hNone
      cases hNone
    refine (Still.owned_iff ?_).mpr hOwned
    refine .set_idle hNone ?_ rfl rfl rfl
    exact hIdle
  · rw [if_neg hUnused]
    exact hOwned

theorem Owned.provision_iff
    (hOwned : Owned w)
    {now : Instant}
    {id rangeId exerciseId : Nat}
    {evt : ScheduledEvent}
    {held accepted : Bool}
    (hGet : w.events.get? id = some evt)
    (hRange : evt.rangeId = some rangeId)
    (hDue :
      (Pass.provision held accepted exerciseId).due cfg now
        evt = true) :
    Owned
        (w.provision id rangeId evt held accepted exerciseId) ↔
      takesOwned cfg w now id
        (.provision held accepted exerciseId) = false := by
  have hState : evt.state = .scheduled := by
    simp only [Pass.due, Bool.and_eq_true,
      decide_eq_true_eq] at hDue
    exact hDue.1.1.1
  have hMove : transition evt .provisioning =
      some { evt with state := .provisioning } := by
    unfold transition
    rw [hState]
    rfl
  unfold World.provision
  by_cases hHeld : w.heldByWindow rangeId held = true
  · rw [if_pos hHeld]
    have hBuilds : builds cfg w now evt
        (.provision held accepted exerciseId) = none := by
      unfold builds
      simp [hRange, hHeld]
    rw [not_takes_of_none hGet hBuilds]
    exact ⟨fun _ => rfl, fun _ => hOwned⟩
  · rw [if_neg hHeld, hMove]
    dsimp only
    have hClaimed : Still w
        (w.setEvent id { evt with state := .provisioning }) :=
      .set hGet ⟨rfl, rfl⟩
    have hSends :
        (w.setEvent id
          { evt with state := .provisioning }).sends rangeId
            accepted = w.sends rangeId accepted := rfl
    have hGet' :
        (w.setEvent id
          { evt with state := .provisioning }).events.get? id =
            some { evt with state := .provisioning } :=
      Dict.get?_set_self _ _ _
    rw [(still_createExercise _ id exerciseId).owned_iff,
      (hClaimed.owned_iff.mpr hOwned).provisionForBooking_iff
        hGet' hRange accepted, hSends]
    by_cases hSent : w.sends rangeId accepted = true
    · have hBuilds : builds cfg w now evt
          (.provision held accepted exerciseId) =
            some rangeId := by
        unfold builds
        simp [hRange, hHeld, hDue, hSent]
      rw [not_takes_iff hGet hBuilds]
      simp only [hSent, true_implies, hClaimed.flag]
    · have hBuilds : builds cfg w now evt
          (.provision held accepted exerciseId) = none := by
        unfold builds
        simp [hRange, hSent]
      rw [not_takes_of_none hGet hBuilds]
      exact ⟨fun _ => rfl, fun _ h => absurd h hSent⟩

theorem Owned.buildActive_iff
    (hOwned : Owned w)
    {now : Instant}
    {id rangeId : Nat}
    {evt : ScheduledEvent}
    {held accepted : Bool}
    (hGet : w.events.get? id = some evt)
    (hRange : evt.rangeId = some rangeId)
    (hDue :
      (Pass.buildActive held accepted).due cfg now evt =
        true) :
    Owned (w.buildActive id rangeId held accepted) ↔
      takesOwned cfg w now id (.buildActive held accepted) =
        false := by
  unfold World.buildActive
  cases hRng : w.ranges.get? rangeId with
  | none =>
      have hBuilds : builds cfg w now evt
          (.buildActive held accepted) = none := by
        unfold builds
        simp [hRange, hRng]
      rw [not_takes_of_none hGet hBuilds]
      exact ⟨fun _ => rfl, fun _ => hOwned⟩
  | some rng =>
      dsimp only
      by_cases hSkip :
          (rng.state ≠ .created || w.heldByWindow rangeId held) =
            true
      · rw [if_pos hSkip]
        have hBuilds : builds cfg w now evt
            (.buildActive held accepted) = none := by
          unfold builds
          simp only [hRange, hRng, Option.map_some,
            Option.some.injEq]
          rw [if_neg]
          intro hAll
          simp only [Bool.and_eq_true, decide_eq_true_eq,
            Bool.not_eq_true'] at hAll
          rw [hAll.1.2, Bool.or_false, decide_eq_true_eq]
            at hSkip
          exact hSkip hAll.1.1.2
        rw [not_takes_of_none hGet hBuilds]
        exact ⟨fun _ => rfl, fun _ => hOwned⟩
      · rw [if_neg hSkip]
        rw [Bool.or_eq_true, not_or, decide_eq_true_eq,
          not_not] at hSkip
        rw [hOwned.provisionForBooking_iff hGet hRange accepted]
        by_cases hSent : w.sends rangeId accepted = true
        · have hBuilds : builds cfg w now evt
              (.buildActive held accepted) = some rangeId := by
            unfold builds
            simp [hRange, hRng, hDue, hSent, hSkip.1, hSkip.2]
          rw [not_takes_iff hGet hBuilds]
          simp only [hSent, true_implies]
        · have hBuilds : builds cfg w now evt
              (.buildActive held accepted) = none := by
            unfold builds
            simp [hRange, hSent]
          rw [not_takes_of_none hGet hBuilds]
          exact ⟨fun _ => rfl, fun _ h => absurd h hSent⟩

/- A step of the pass that sends no build. -/
theorem takes_of_rangeId_none
    {now : Instant}
    {id : Nat}
    {evt : ScheduledEvent}
    (hGet : w.events.get? id = some evt)
    (hRange : evt.rangeId = none)
    (pass : Pass) :
    takesOwned cfg w now id pass = false := by
  apply not_takes_of_none hGet
  unfold builds
  rw [hRange]
  cases pass <;> rfl

theorem Owned.clock_iff
    (hStanding : Standing w)
    (hOwned : Owned w)
    (now : Instant)
    (id : Nat)
    (pass : Pass) :
    Owned (w.clock cfg now id pass) ↔
      takesOwned cfg w now id pass = false := by
  unfold World.clock
  cases hGet : w.events.get? id with
  | none =>
      unfold takesOwned
      rw [hGet]
      exact ⟨fun _ => rfl, fun _ => hOwned⟩
  | some evt =>
      dsimp only
      by_cases hDue : pass.due cfg now evt = true
      · rw [hDue]
        cases pass with
        | createRange rangeId =>
            rw [not_takes_of_none hGet rfl]
            simp only [Pass.due, Bool.and_eq_true,
              Option.isNone_iff_eq_none] at hDue
            exact ⟨fun _ => rfl, fun _ =>
              hOwned.createRange hGet hDue.1.1.1.1.2⟩
        | provision held accepted exerciseId =>
            cases hRange : evt.rangeId with
            | none =>
                rw [takes_of_rangeId_none hGet hRange]
                exact ⟨fun _ => rfl, fun _ => hOwned⟩
            | some rangeId =>
                exact hOwned.provision_iff hGet hRange hDue
        | buildActive held accepted =>
            cases hRange : evt.rangeId with
            | none =>
                rw [takes_of_rangeId_none hGet hRange]
                exact ⟨fun _ => rfl, fun _ => hOwned⟩
            | some rangeId =>
                exact hOwned.buildActive_iff hGet hRange hDue
        | activate held =>
            rw [not_takes_of_none hGet rfl]
            refine ⟨fun _ => rfl, fun _ => ?_⟩
            dsimp only
            by_cases hHeld :
                (held && evt.state = .scheduled &&
                  evt.endTime > now) = true
            · simp only [if_pos hHeld]
              exact hOwned
            · simp only [if_neg hHeld]
              exact (still_claim hGet .active).owned_iff.mpr
                hOwned
        | complete accepted =>
            rw [not_takes_of_none hGet rfl]
            refine ⟨fun _ => rfl, fun _ => ?_⟩
            have hClaimed : Owned (w.claim id evt .completed) :=
              (still_claim hGet .completed).owned_iff.mpr hOwned
            exact hClaimed.releaseRange
              (standing_claim hStanding id evt .completed) id
              accepted
        | retry accepted =>
            rw [not_takes_of_none hGet rfl]
            exact ⟨fun _ => rfl, fun _ =>
              hOwned.releaseRange hStanding id accepted⟩
        | lapse =>
            rw [not_takes_of_none hGet rfl]
            exact ⟨fun _ => rfl, fun _ =>
              (still_claim hGet .cancelled).owned_iff.mpr
                hOwned⟩
      · have hBuilds : builds cfg w now evt pass = none := by
          rw [Bool.not_eq_true] at hDue
          unfold builds
          cases pass with
          | provision held accepted exerciseId =>
              cases evt.rangeId <;> simp [hDue]
          | buildActive held accepted =>
              cases evt.rangeId <;> simp [hDue]
          | _ => rfl
        rw [not_takes_of_none hGet hBuilds]
        rw [Bool.not_eq_true] at hDue
        rw [hDue]
        exact ⟨fun _ => rfl, fun _ => hOwned⟩

--------
-- Every Step
--------

variable {cfg : Settings}
variable {w w' : World}

theorem Standing.settle
    (hStanding : Standing w)
    {answer : Except Refusal World}
    (hAnswer : ∀ w', answer = .ok w' → Standing w') :
    Standing (w.settle answer) := by
  cases answer with
  | error e => exact hStanding
  | ok w' => exact hAnswer w' rfl

theorem Standing.clock
    (hStanding : Standing w)
    (now : Instant)
    (id : Nat)
    (pass : Pass) :
    Standing (w.clock cfg now id pass) := by
  unfold World.clock
  cases hGet : w.events.get? id with
  | none => exact hStanding
  | some evt =>
      dsimp only
      by_cases hDue : pass.due cfg now evt = true
      · rw [hDue]
        cases pass with
        | createRange rangeId =>
            simp only [Bool.not_true, Bool.false_eq_true,
              if_false]
            unfold createRange
            by_cases hUnused : w.unusedRange rangeId = true
            · rw [if_pos hUnused]
              apply hStanding.setRange rfl
              · exact fun R hMem => .inl hMem
              · exact fun _ => ⟨nofun, nofun⟩
            · rw [if_neg hUnused]
              exact hStanding
        | provision held accepted exerciseId =>
            cases evt.rangeId with
            | none => exact hStanding
            | some rangeId =>
                simp only [Bool.not_true, Bool.false_eq_true,
                  if_false]
                unfold provision
                by_cases hHeld :
                    w.heldByWindow rangeId held = true
                · rw [if_pos hHeld]
                  exact hStanding
                · rw [if_neg hHeld]
                  cases transition evt .provisioning with
                  | none => exact hStanding
                  | some evt' =>
                      have hMoved : Standing (w.setEvent id evt') :=
                        hStanding.same rfl rfl
                      exact (hMoved.provisionForBooking id rangeId
                        accepted).createExercise id exerciseId
        | buildActive held accepted =>
            cases evt.rangeId with
            | none => exact hStanding
            | some rangeId =>
                simp only [Bool.not_true, Bool.false_eq_true,
                  if_false]
                unfold buildActive
                cases w.ranges.get? rangeId with
                | none => exact hStanding
                | some rng =>
                    dsimp only
                    by_cases hSkip :
                        (rng.state ≠ .created ||
                          w.heldByWindow rangeId held) = true
                    · rw [if_pos hSkip]
                      exact hStanding
                    · rw [if_neg hSkip]
                      exact hStanding.provisionForBooking id
                        rangeId accepted
        | activate held =>
            dsimp only
            by_cases hHeld :
                (held && evt.state = .scheduled &&
                  evt.endTime > now) = true
            · simp only [if_pos hHeld]
              exact hStanding
            · simp only [if_neg hHeld]
              exact standing_claim hStanding id evt .active
        | complete accepted =>
            exact (standing_claim hStanding id evt
              .completed).releaseRange id accepted
        | retry accepted =>
            exact hStanding.releaseRange id accepted
        | lapse =>
            exact standing_claim hStanding id evt .cancelled
      · rw [Bool.not_eq_true] at hDue
        rw [hDue]
        exact hStanding

theorem Standing.step
    (hStanding : Standing w)
    (a : Action) :
    Standing (step cfg w a) := by
  cases a with
  | create id body ans =>
      simp only [World.step]
      by_cases hUsed : (w.events.get? id).isSome = true
      · rw [if_pos hUsed]
        exact hStanding
      · rw [if_neg hUsed]
        apply hStanding.settle
        intro w' hCreate
        rcases create_cases hCreate with ⟨_, _, rfl, _⟩
        exact hStanding.same rfl rfl
  | update id body ans =>
      apply hStanding.settle
      intro w' hUpdate
      rcases update_cases hUpdate with
        ⟨_, _, _, _, _, _, rfl, _⟩
      exact hStanding.same rfl rfl
  | schedule tenantId id ans =>
      apply hStanding.settle
      intro w' hSchedule
      rcases schedule_cases hSchedule with
        rfl | ⟨_, _, _, rfl, _⟩
      · exact hStanding
      · exact hStanding.same rfl rfl
  | activate tenantId id allowed =>
      apply hStanding.settle
      intro w' hActivate
      rcases activate_cases hActivate with ⟨_, _, rfl, _⟩
      exact hStanding.same rfl rfl
  | complete tenantId id allowed =>
      apply hStanding.settle
      intro w' hComplete
      rcases complete_cases hComplete with ⟨_, _, rfl⟩
      exact hStanding.same rfl rfl
  | cancel tenantId id allowed accepted =>
      apply hStanding.settle
      intro w' hCancel
      rcases cancel_cases hCancel with
        ⟨evt, moved, _, rfl, rfl | rfl⟩
      · exact hStanding.same rfl rfl
      · have hMoved : Standing
            (w.setEvent id { evt with state := .cancelled }) :=
          hStanding.same rfl rfl
        exact hMoved.releaseRange id accepted
  | approve tenantId id now ans =>
      apply hStanding.settle
      intro w' hApprove
      rcases approve_cases hApprove with
        rfl | ⟨_, _, _, rfl, _⟩
      · exact hStanding
      · exact hStanding.same rfl rfl
  | reject tenantId id allowed =>
      apply hStanding.settle
      intro w' hReject
      rcases reject_cases hReject with rfl | ⟨_, _, _, rfl, _⟩
      · exact hStanding
      · exact hStanding.same rfl rfl
  | propose tenantId id now start stop clear ans =>
      apply hStanding.settle
      intro w' hPropose
      rcases propose_cases hPropose with ⟨_, _, _, rfl, _⟩
      exact hStanding.same rfl rfl
  | accept tenantId id now ans =>
      apply hStanding.settle
      intro w' hAccept
      rcases accept_cases hAccept with ⟨_, _, _, rfl, _⟩
      exact hStanding.same rfl rfl
  | decline tenantId id allowed =>
      apply hStanding.settle
      intro w' hDecline
      rcases decline_cases hDecline with ⟨_, _, _, rfl, _⟩
      exact hStanding.same rfl rfl
  | clock now id pass => exact hStanding.clock now id pass
  | worker rangeId state =>
      exact hStanding.workerReports rangeId state

/- Every request but an edit and a cancellation. -/
theorem Owned.settle
    (hOwned : Owned w)
    {answer : Except Refusal World}
    (hAnswer : ∀ w', answer = .ok w' → Still w w') :
    Owned (w.settle answer) := by
  cases answer with
  | error e => exact hOwned
  | ok w' => exact (hAnswer w' rfl).owned_iff.mpr hOwned

theorem still_workerReports
    (w : World)
    (rangeId : Nat)
    (state : RangeOps.RangeState) :
    Still w (w.workerReports rangeId state) := by
  unfold workerReports
  cases w.ranges.get? rangeId with
  | none => exact .refl w
  | some rng =>
      dsimp only
      by_cases hMay : reportable rng.state state = true
      · rw [if_pos hMay]
        exact ⟨fun _ => rfl, rfl, rfl⟩
      · rw [if_neg hMay]
        exact .refl w

/- A step leaves the owners right exactly if it keeps them. -/
theorem Owned.step_iff
    (hStanding : Standing w)
    (hOwned : Owned w)
    (a : Action) :
    Owned (step cfg w a) ↔ Keeps cfg w a := by
  have hKeeps : ∀ {P : Prop}, P → (P ↔ True) :=
    fun hP => ⟨fun _ => trivial, fun _ => hP⟩
  cases a with
  | create id body ans =>
      apply hKeeps
      simp only [World.step]
      by_cases hUsed : (w.events.get? id).isSome = true
      · rw [if_pos hUsed]
        exact hOwned
      · rw [if_neg hUsed]
        apply hOwned.settle
        intro w' hCreate
        rcases create_cases hCreate with ⟨_, _, rfl, _⟩
        refine .set_idle ?_ ?_ rfl rfl rfl
        · unfold World.flag
          rw [Option.not_isSome_iff_eq_none.mp hUsed]
          rfl
        · rfl
  | update id body ans => exact hOwned.update_iff
  | schedule tenantId id ans =>
      apply hKeeps
      apply hOwned.settle
      intro w' hSchedule
      rcases schedule_cases hSchedule with
        rfl | ⟨_, _, hGet, rfl, _⟩
      · exact .refl w'
      · exact .set hGet ⟨rfl, rfl⟩
  | activate tenantId id allowed =>
      apply hKeeps
      apply hOwned.settle
      intro w' hActivate
      rcases activate_cases hActivate with ⟨_, hGet, rfl, _⟩
      exact .set hGet ⟨rfl, rfl⟩
  | complete tenantId id allowed =>
      apply hKeeps
      apply hOwned.settle
      intro w' hComplete
      rcases complete_cases hComplete with ⟨_, hGet, rfl⟩
      exact .set hGet ⟨rfl, rfl⟩
  | cancel tenantId id allowed accepted =>
      apply hKeeps
      simp only [World.step]
      cases hCancel : w.cancel tenantId id allowed accepted with
      | error e => exact hOwned
      | ok w' =>
          rcases cancel_cases hCancel with
            ⟨evt, moved, hGet, rfl, hEnd⟩
          have hStill : Still w
              (w.setEvent id { evt with state := .cancelled }) :=
            .set hGet ⟨rfl, rfl⟩
          have hMoved := hStill.owned_iff.mpr hOwned
          have hStands : Standing
              (w.setEvent id { evt with state := .cancelled }) :=
            hStanding.same rfl rfl
          rcases hEnd with rfl | rfl
          · exact hMoved
          · exact hMoved.releaseRange hStands id accepted
  | approve tenantId id now ans =>
      apply hKeeps
      apply hOwned.settle
      intro w' hApprove
      rcases approve_cases hApprove with
        rfl | ⟨_, _, hGet, rfl, _, hSame, _⟩
      · exact .refl w'
      · exact .set hGet hSame
  | reject tenantId id allowed =>
      apply hKeeps
      apply hOwned.settle
      intro w' hReject
      rcases reject_cases hReject with
        rfl | ⟨_, _, hGet, rfl, _, hSame⟩
      · exact .refl w'
      · exact .set hGet hSame
  | propose tenantId id now start stop clear ans =>
      apply hKeeps
      apply hOwned.settle
      intro w' hPropose
      rcases propose_cases hPropose with
        ⟨_, _, hGet, rfl, _, _, hSame⟩
      exact .set hGet hSame
  | accept tenantId id now ans =>
      apply hKeeps
      apply hOwned.settle
      intro w' hAccept
      rcases accept_cases hAccept with
        ⟨_, _, hGet, rfl, _, hSame, _⟩
      exact .set hGet hSame
  | decline tenantId id allowed =>
      apply hKeeps
      apply hOwned.settle
      intro w' hDecline
      rcases decline_cases hDecline with
        ⟨_, _, hGet, rfl, _, _, hSame⟩
      exact .set hGet hSame
  | clock now id pass => exact hOwned.clock_iff hStanding now id pass
  | worker rangeId state =>
      apply hKeeps
      exact (still_workerReports w rangeId state).owned_iff.mpr
        hOwned

--------
-- Runs
--------

variable (cfg : Settings)

/- The actions a run of commands comes to, one after another. -/
def allActions : World → List Command → List Action
| _, [] => []
| w, c :: commands =>
    w.actions cfg c ++ allActions (w.exec cfg c) commands

/- A run of commands is the run of its actions. -/
theorem run_allActions
    (w : World)
    (commands : List Command) :
    Runs.run (step cfg) w (allActions cfg w commands) =
      Runs.run (exec cfg) w commands := by
  induction commands generalizing w with
  | nil => rfl
  | cons c commands ih =>
      unfold allActions
      rw [Runs.run_append, Runs.run_cons, ← ih]
      rfl

theorem owned_fresh
    (ranges : Dict Nat Range)
    (exercises : Dict Nat Exercise) :
    Owned (fresh ranges exercises) := by
  constructor
  · intro id evt hGet
    cases hGet
  · intro i j e f rangeId hGet
    cases hGet
  · intro rangeId hMem
    cases hMem
  · intro t hMem
    cases hMem
  · intro t hMem
    cases hMem

/-
  In every run of the API, the clock and the workers: the
  owners are right in every world on the way exactly when no
  accepted edit gives an owner another range and no build is
  sent of a range that another booking owns.
-/
theorem owners_right_iff
    (ranges : Dict Nat Range)
    (exercises : Dict Nat Exercise)
    (commands : List Command) :
    (∀ before,
        before <+:
          allActions cfg (fresh ranges exercises) commands →
        Owned
          (Runs.run (step cfg) (fresh ranges exercises)
            before)) ↔
      Runs.Meets (step cfg) (Keeps cfg)
        (fresh ranges exercises)
        (allActions cfg (fresh ranges exercises) commands) := by
  have hStanding : Standing (fresh ranges exercises) := by
    intro rangeId hMem
    cases hMem
  exact Runs.always_iff_meets
    (fun _ a hStanding _ _ => hStanding.step a)
    (fun _ a hStanding hOwned => hOwned.step_iff hStanding a)
    hStanding (owned_fresh ranges exercises) _

end World

end Scheduler

end TrueNorth

--------
-- An Owner That Moves
--------

namespace TrueNorth

namespace Scheduler

namespace OwnerMoves

def cfg : Settings where
  lead := 2
  grace := 1

def body
    (rangeId : Nat)
    (startTime endTime : Instant) : EventIn where
  tenantId := 1
  startTime := startTime
  endTime := endTime
  rangeId := some rangeId
  exerciseId := none
  templateId := none
  scenarioId := none
  instructorId := none
  classId := none
  rangeMode := none
  draft := false

def ans : Answers where
  allowed := true
  room := true
  teacher := none
  courseMode := .collective
  demand := ⟨0, 0, 0⟩

def told : World.TickAnswers where
  newRange := id
  newExercise := id
  held _ := false
  accepts _ := true
  acceptsActive _ := true
  acceptsCompleted _ := true
  acceptsRetry _ := true

/- Range 1 is not built; an admin has built range 2. -/
def ranges : Dict Nat Range :=
  .ofPairs [(1, ⟨1, .created, false⟩), (2, ⟨1, .ready, false⟩)]

/- Booking 2 takes range 1 over when booking 1 ends. -/
def handOver : List Command :=
  [.act (.create 1 (body 1 10 20) ans),
    .act (.create 2 (body 1 30 40) ans),
    .tick 9 told, .act (.worker 1 .ready), .tick 10 told,
    .tick 21 told]

/- Then it is moved to range 2, and cancelled. -/
def commands : List Command :=
  handOver ++
    [.act (.update 2 (body 2 30 40) ans),
      .act (.cancel 1 2 true true)]

example :
    Runs.Meets (World.step cfg) (World.Keeps cfg)
      (.fresh ranges .empty)
      (World.allActions cfg (.fresh ranges .empty)
        handOver) := by
  decide +kernel

/- The admin's range is torn down, and range 1 has no owner. -/
theorem not_owned :
    ¬ ∀ before,
        before <+:
          World.allActions cfg (.fresh ranges .empty)
            commands →
        World.Owned
          (Runs.run (World.step cfg) (.fresh ranges .empty)
            before) := by
  intro hAlways
  have hEnd := hAlways _ (List.prefix_refl _)
  rw [World.run_allActions] at hEnd
  have hDown :
      (⟨2, 2, false, false⟩ : Teardown) ∈
        (Runs.run (World.exec cfg) (.fresh ranges .empty)
          commands).teardowns := by
    decide +kernel
  have hBuilt := hEnd.clockBuilt _ hDown
  cases hBuilt

end OwnerMoves

end Scheduler

end TrueNorth
