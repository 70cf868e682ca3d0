import TrueNorth.Cmi5.Admission
import TrueNorth.Cmi5.History
import TrueNorth.Lib.Runs
import Mathlib.Data.List.Nodup

/-
  The LMS keeps the law of its history: a batch the rules
  accept is allowed statement by statement, and what is
  recorded of a session is what its history says.

  Key definitions include:
    * `Faces`, `Tracks`, `Recorded`
    * `World.Inv`

  Main theorems:
    * `checkEach_lawful`
    * `World.step_inv`
    * `World.run_rules`
-/

--------
-- A Batch, Statement by Statement
--------

namespace TrueNorth

namespace Cmi5

open Checks

/-
  What the rules are shown of a history: `earlier` are the
  verbs of the batch that are already in it.
-/
structure Faces
    (view : SessionView)
    (earlier : List String)
    (log : List Event)
    (session : String)
    (auIndex : Nat) : Prop where
  sent : verbs log session = view.sent ++ earlier
  notAbandoned : .abandoned session ∉ log
  begun : view.initialized = true →
    initialized ∈ view.sent
  ended : terminated ∈ view.sent → view.terminated = true
  passed : ∀ other,
    .accepted other auIndex (some passed) ∈ log →
      view.auPassed = true ∨ Cmi5.passed ∈ view.sent ++ earlier
  completed : ∀ other,
    .accepted other auIndex (some completed) ∈ log →
      view.auCompleted = true ∨
        Cmi5.completed ∈ view.sent ++ earlier

/- What the rules admit the law allows. -/
theorem Faces.allowed
    {view : SessionView}
    {earlier : List String}
    {log : List Event}
    {session : String}
    {auIndex : Nat}
    {verdict : Option String}
    (hFaces : Faces view earlier log session auIndex)
    (hAdmits : Admits view earlier verdict) :
    Allowed log (.accepted session auIndex verdict) := by
  constructor
  case notAbandoned => exact hFaces.notAbandoned
  case notTerminated =>
    rw [hFaces.sent, List.mem_append]
    rintro (hSent | hEarlier)
    · have hEnded := hFaces.ended hSent
      rw [hAdmits.isOpen.1] at hEnded
      cases hEnded
    · exact hAdmits.isOpen.2 hEarlier
  case begun =>
    intro hOther
    rw [hFaces.sent, List.mem_append]
    rcases hAdmits.begun hOther with hView | hEarlier
    · exact .inl (hFaces.begun hView)
    · exact .inr hEarlier
  case verb =>
    intro verb hVerb
    have hSequence := hAdmits.verb verb hVerb
    constructor
    case defined => exact hSequence.defined
    case once =>
      rw [hFaces.sent]
      exact hSequence.once
    case notFailed =>
      intro hPassed
      rw [hFaces.sent]
      exact (hSequence.firstPassed hPassed).1
    case notPassed =>
      intro hFailed
      rw [hFaces.sent]
      exact (hSequence.neverPassed hFailed).1
    case neverPassed =>
      intro hJudged other hMem
      rcases hFaces.passed other hMem with hView | hSent
      · rcases hJudged with hPassed | hFailed
        · rw [(hSequence.firstPassed hPassed).2] at hView
          cases hView
        · rw [(hSequence.neverPassed hFailed).2] at hView
          cases hView
      · rcases hJudged with hPassed | hFailed
        · exact hSequence.once (hPassed ▸ hSent)
        · exact (hSequence.neverPassed hFailed).1 hSent
    case neverCompleted =>
      intro hCompleted other hMem
      rcases hFaces.completed other hMem with hView | hSent
      · rw [hSequence.firstCompleted hCompleted] at hView
        cases hView
      · exact hSequence.once (hCompleted ▸ hSent)

/- The history goes on with what was just accepted. -/
theorem Faces.snoc
    {view : SessionView}
    {earlier : List String}
    {log : List Event}
    {session : String}
    {auIndex : Nat}
    (hFaces : Faces view earlier log session auIndex)
    (verdict : Option String) :
    Faces view (earlier ++ verdict.toList)
      (log ++ [.accepted session auIndex verdict]) session
      auIndex := by
  have hLast : ∀ verb other,
      .accepted other auIndex (some verb) ∈
          log ++ [.accepted session auIndex verdict] →
        .accepted other auIndex (some verb) ∈ log ∨
          verb ∈ verdict.toList := by
    intro verb other hMem
    rcases List.mem_append.mp hMem with hOld | hNew
    · exact .inl hOld
    · right
      rw [List.mem_singleton, Event.accepted.injEq] at hNew
      rw [← hNew.2.2]
      simp
  constructor
  case sent =>
    rw [verbs_append, verbs_accepted, hFaces.sent,
      List.append_assoc]
  case notAbandoned =>
    rw [List.mem_append]
    rintro (hOld | hNew)
    · exact hFaces.notAbandoned hOld
    · simp at hNew
  case begun => exact hFaces.begun
  case ended => exact hFaces.ended
  case passed =>
    intro other hMem
    rw [← List.append_assoc, List.mem_append]
    rcases hLast _ other hMem with hOld | hNew
    · exact (hFaces.passed other hOld).imp_right .inl
    · exact .inr (.inr hNew)
  case completed =>
    intro other hMem
    rw [← List.append_assoc, List.mem_append]
    rcases hLast _ other hMem with hOld | hNew
    · exact (hFaces.completed other hOld).imp_right .inl
    · exact .inr (.inr hNew)

/- An accepted batch extends a lawful history lawfully. -/
theorem checkEach_lawful
    {view : SessionView}
    {statements : List Json}
    {earlier : List String}
    {verdicts : List (Option String)}
    (hCheck :
      checkEach view statements earlier = .ok verdicts)
    {log : List Event}
    {session : String}
    {auIndex : Nat}
    (hFaces : Faces view earlier log session auIndex)
    (hLawful : Lawful log) :
    Lawful
      (log ++ verdicts.map (Event.accepted session auIndex)) := by
  induction statements generalizing earlier verdicts log with
  | nil =>
      cases hCheck
      rw [List.map_nil, List.append_nil]
      exact hLawful
  | cons st statements ih =>
      unfold checkEach at hCheck
      rcases bind_eq_ok.mp hCheck with
        ⟨verdict, hFirst, hCheck⟩
      rcases bind_eq_ok.mp hCheck with
        ⟨rest, hRest, hSame⟩
      cases hSame
      have hAllowed := hFaces.allowed (check_admits hFirst)
      have hNext := ih hRest (hFaces.snoc verdict)
        (hLawful.snoc hAllowed)
      rw [List.append_assoc] at hNext
      exact hNext

/- Nothing follows terminated in a batch. -/
theorem checkEach_terminated
    {view : SessionView}
    {statements : List Json}
    {earlier : List String}
    {verdicts : List (Option String)}
    (hCheck :
      checkEach view statements earlier = .ok verdicts)
    (hMem : terminated ∈ verdicts.filterMap (fun v => v)) :
    ∃ before,
      verdicts.filterMap (fun v => v) =
        before ++ [terminated] := by
  induction statements generalizing earlier verdicts with
  | nil =>
      cases hCheck
      cases hMem
  | cons st statements ih =>
      unfold checkEach at hCheck
      rcases bind_eq_ok.mp hCheck with
        ⟨verdict, hFirst, hCheck⟩
      rcases bind_eq_ok.mp hCheck with
        ⟨rest, hRest, hSame⟩
      cases hSame
      by_cases hLast : verdict = some terminated
      · subst hLast
        cases statements with
        | nil =>
            cases hRest
            exact ⟨[], rfl⟩
        | cons st' statements =>
            unfold checkEach at hRest
            rcases bind_eq_ok.mp hRest with
              ⟨verdict', hNext, _⟩
            exfalso
            apply (check_admits hNext).isOpen.2
            simp
      · have hLater :
            terminated ∈ rest.filterMap (fun v => v) := by
          rw [List.mem_filterMap] at hMem ⊢
          rcases hMem with ⟨v, hv, hTerminated⟩
          rcases List.mem_cons.mp hv with rfl | hv
          · exact absurd hTerminated hLast
          · exact ⟨v, hv, hTerminated⟩
        rcases ih hRest hLater with ⟨before, hBefore⟩
        refine ⟨verdict.toList ++ before, ?_⟩
        rw [List.append_assoc, ← hBefore]
        cases verdict <;> rfl

--------
-- Recording
--------

/- The verbs recorded one after the other. -/
def applyVerbs
    (now : Nat)
    (pair : Session × AuState)
    (accepted : List String) : Session × AuState :=
  accepted.foldl
    (fun pair verb => applyVerb now pair.1 pair.2 verb) pair

/- What one verb changes of the session. -/
theorem applyVerb_session
    (now : Nat)
    (session : Session)
    (state : AuState)
    (verb : String) :
    let session' := (applyVerb now session state verb).1
    session'.id = session.id ∧
      session'.auIndex = session.auIndex ∧
      session'.sent = session.sent ++ [verb] ∧
      session'.state =
        if verb = initialized then .initialized
        else if verb = terminated then .terminated
        else session.state := by
  unfold applyVerb
  dsimp only
  split
  case isTrue => exact ⟨rfl, rfl, rfl, rfl⟩
  case isFalse =>
    split
    case isTrue => exact ⟨rfl, rfl, rfl, rfl⟩
    case isFalse =>
      split
      case isTrue => exact ⟨rfl, rfl, rfl, rfl⟩
      case isFalse =>
        split
        case isTrue => exact ⟨rfl, rfl, rfl, rfl⟩
        case isFalse =>
          split <;> exact ⟨rfl, rfl, rfl, rfl⟩

/- No verb takes a result back. -/
theorem applyVerb_keeps
    (now : Nat)
    (session : Session)
    (state : AuState)
    (verb : String) :
    let state' := (applyVerb now session state verb).2
    (state.passed = true → state'.passed = true) ∧
      (state.completed = true → state'.completed = true) := by
  unfold applyVerb
  dsimp only
  split
  case isTrue => exact ⟨id, id⟩
  case isFalse =>
    split
    case isTrue => exact ⟨id, id⟩
    case isFalse =>
      split
      case isTrue => exact ⟨id, fun _ => rfl⟩
      case isFalse =>
        split
        case isTrue => exact ⟨fun _ => rfl, id⟩
        case isFalse => split <;> exact ⟨id, id⟩

theorem applyVerb_passed
    (now : Nat)
    (session : Session)
    (state : AuState) :
    (applyVerb now session state passed).2.passed = true := by
  have hOther : passed ≠ initialized ∧ passed ≠ terminated ∧
      passed ≠ completed := by
    decide
  unfold applyVerb
  dsimp only
  rw [if_neg hOther.1, if_neg hOther.2.1, if_neg hOther.2.2,
    if_pos rfl]

theorem applyVerb_completed
    (now : Nat)
    (session : Session)
    (state : AuState) :
    (applyVerb now session state completed).2.completed =
      true := by
  have hOther : completed ≠ initialized ∧
      completed ≠ terminated := by
    decide
  unfold applyVerb
  dsimp only
  rw [if_neg hOther.1, if_neg hOther.2, if_pos rfl]

/- What recording changes of the session. -/
theorem applyVerbs_session
    (now : Nat)
    (pair : Session × AuState)
    (accepted : List String) :
    let session' := (applyVerbs now pair accepted).1
    session'.id = pair.1.id ∧
      session'.auIndex = pair.1.auIndex ∧
      session'.sent = pair.1.sent ++ accepted := by
  induction accepted generalizing pair with
  | nil => exact ⟨rfl, rfl, (List.append_nil _).symm⟩
  | cons verb accepted ih =>
      have hOne :=
        applyVerb_session now pair.1 pair.2 verb
      have hRest := ih (applyVerb now pair.1 pair.2 verb)
      refine ⟨hRest.1.trans hOne.1,
        hRest.2.1.trans hOne.2.1, ?_⟩
      have hSent := hRest.2.2
      rw [hOne.2.2.1, List.append_assoc] at hSent
      exact hSent

/- What recording changes of the registration's AU. -/
theorem applyVerbs_state
    (now : Nat)
    (pair : Session × AuState)
    (accepted : List String) :
    let state' := (applyVerbs now pair accepted).2
    (passed ∈ accepted ∨ pair.2.passed = true →
      state'.passed = true) ∧
    (completed ∈ accepted ∨ pair.2.completed = true →
      state'.completed = true) := by
  induction accepted generalizing pair with
  | nil => simp [applyVerbs]
  | cons verb accepted ih =>
      have hKeeps := applyVerb_keeps now pair.1 pair.2 verb
      have hRest := ih (applyVerb now pair.1 pair.2 verb)
      constructor
      · rintro (hMem | hPassed)
        · apply hRest.1
          rcases List.mem_cons.mp hMem with hVerb | hMem
          · right
            rw [← hVerb]
            exact applyVerb_passed now pair.1 pair.2
          · exact .inl hMem
        · exact hRest.1 (.inr (hKeeps.1 hPassed))
      · rintro (hMem | hCompleted)
        · apply hRest.2
          rcases List.mem_cons.mp hMem with hVerb | hMem
          · right
            rw [← hVerb]
            exact applyVerb_completed now pair.1 pair.2
          · exact .inl hMem
        · exact hRest.2 (.inr (hKeeps.2 hCompleted))

/- A session is only initialized by an initialized. -/
theorem applyVerbs_initialized
    (now : Nat)
    (pair : Session × AuState)
    (accepted : List String)
    (hState :
      (applyVerbs now pair accepted).1.state =
        .initialized) :
    pair.1.state = .initialized ∨
      initialized ∈ accepted := by
  induction accepted generalizing pair with
  | nil => exact .inl hState
  | cons verb accepted ih =>
      have hOne :=
        applyVerb_session now pair.1 pair.2 verb
      rcases ih (applyVerb now pair.1 pair.2 verb) hState with
        hNow | hLater
      · rw [hOne.2.2.2] at hNow
        split at hNow
        case isTrue h =>
          right
          rw [h]
          exact List.mem_cons_self
        case isFalse =>
          split at hNow
          case isTrue => cases hNow
          case isFalse => exact .inl hNow
      · exact .inr (List.mem_cons_of_mem _ hLater)

/- A last terminated ends the session. -/
theorem applyVerbs_terminated
    (now : Nat)
    (pair : Session × AuState)
    (before : List String) :
    (applyVerbs now pair (before ++ [terminated])).1.state =
      .terminated := by
  unfold applyVerbs
  rw [List.foldl_append]
  exact (applyVerb_session now _ _ terminated).2.2.2

--------
-- Proxied Requests
--------

open Checks

/- The session but for what was fetched. -/
structure SameRecord (session session' : Session) : Prop where
  id : session'.id = session.id
  auIndex : session'.auIndex = session.auIndex
  sent : session'.sent = session.sent
  state : session'.state = session.state

theorem SameRecord.refl
    (session : Session) :
    SameRecord session session :=
  ⟨rfl, rfl, rfl, rfl⟩

theorem SameRecord.trans
    {a b c : Session}
    (hFirst : SameRecord a b)
    (hSecond : SameRecord b c) :
    SameRecord a c :=
  ⟨hSecond.id.trans hFirst.id,
    hSecond.auIndex.trans hFirst.auIndex,
    hSecond.sent.trans hFirst.sent,
    hSecond.state.trans hFirst.state⟩

/- Only statements leave verdicts, and they were checked. -/
theorem route_verdicts
    {course : Course}
    {reg : Registration}
    {session : Session}
    {request : Request}
    {plan : Plan}
    (hRoute : route course reg session request = .ok plan) :
    plan.verdicts = [] ∨
      ∃ statements,
        checkEach (viewOf course session reg request.graded)
          statements [] = .ok plan.verdicts := by
  unfold route at hRoute
  rcases bind_eq_ok.mp hRoute with ⟨_, _, hRoute⟩
  dsimp only at hRoute
  split at hRoute
  case isTrue =>
    cases hRoute
    exact .inl rfl
  case isFalse =>
    split at hRoute
    case isTrue =>
      rcases bind_eq_ok.mp hRoute with ⟨_, _, hRoute⟩
      rcases bind_eq_ok.mp hRoute with
        ⟨⟨verdicts, _⟩, hChecked, hPlan⟩
      cases hPlan
      right
      unfold checkStatements at hChecked
      rcases bind_eq_ok.mp hChecked with
        ⟨payload, _, hChecked⟩
      rcases bind_eq_ok.mp hChecked with ⟨_, _, hChecked⟩
      rcases bind_eq_ok.mp hChecked with ⟨_, _, hChecked⟩
      rcases bind_eq_ok.mp hChecked with
        ⟨verdicts', hEach, hSame⟩
      cases hSame
      exact ⟨_, hEach⟩
    case isFalse =>
      left
      split at hRoute
      case isTrue =>
        unfold routeState at hRoute
        rcases bind_eq_ok.mp hRoute with ⟨_, _, hRoute⟩
        rcases bind_eq_ok.mp hRoute with ⟨_, _, hRoute⟩
        rcases bind_eq_ok.mp hRoute with ⟨_, _, hRoute⟩
        rcases bind_eq_ok.mp hRoute with ⟨_, _, hRoute⟩
        split at hRoute
        case isTrue =>
          rcases bind_eq_ok.mp hRoute with ⟨_, _, hPlan⟩
          cases hPlan
          rfl
        case isFalse =>
          cases hRoute
          rfl
      case isFalse =>
        split at hRoute
        case isTrue =>
          unfold routeProfile at hRoute
          rcases bind_eq_ok.mp hRoute with ⟨_, _, hRoute⟩
          rcases bind_eq_ok.mp hRoute with ⟨_, _, hPlan⟩
          cases hPlan
          rfl
        case isFalse =>
          split at hRoute
          case isTrue =>
            rcases bind_eq_ok.mp hRoute with ⟨_, _, hPlan⟩
            cases hPlan
            rfl
          case isFalse =>
            split at hRoute
            case isTrue =>
              rcases bind_eq_ok.mp hRoute with ⟨_, _, hRoute⟩
              rcases bind_eq_ok.mp hRoute with ⟨_, _, hPlan⟩
              cases hPlan
              rfl
            case isFalse => cases hRoute

/- A request for statements changes no fetch mark. -/
theorem route_statements
    {course : Course}
    {reg : Registration}
    {session : Session}
    {request : Request}
    {plan : Plan}
    (hResource : request.resource = "statements")
    (hRoute : route course reg session request = .ok plan) :
    plan.launchData = false ∧ plan.prefs = false := by
  have hAbout : "statements" ≠ "about" := by decide
  unfold route at hRoute
  rcases bind_eq_ok.mp hRoute with ⟨_, _, hRoute⟩
  simp only [hResource, hAbout, decide_false,
    Bool.false_and, Bool.false_eq_true, if_false, if_true]
    at hRoute
  rcases bind_eq_ok.mp hRoute with ⟨_, _, hRoute⟩
  rcases bind_eq_ok.mp hRoute with
    ⟨⟨verdicts, _⟩, _, hPlan⟩
  cases hPlan
  exact ⟨rfl, rfl⟩

theorem sameRecord_markLaunchData
    (session : Session)
    (fetched : Bool) :
    SameRecord session (session.markLaunchData fetched) := by
  cases fetched <;> exact ⟨rfl, rfl, rfl, rfl⟩

theorem sameRecord_markPrefs
    (session : Session)
    (fetched : Bool) :
    SameRecord session (session.markPrefs fetched) := by
  cases fetched <;> exact ⟨rfl, rfl, rfl, rfl⟩

/- Without accepted verbs nothing is recorded. -/
theorem recordAnswer_nothing
    (course : Course)
    (now : Nat)
    (reg : Registration)
    (session : Session)
    (graded : Option Double)
    (plan : Plan)
    {status : Nat}
    (hNothing :
      (LrsAnswer.answered status).isAccepted = false ∨
        plan.verdicts.filterMap (fun v => v) = []) :
    let pair :=
      recordAnswer course now reg session graded plan status
    SameRecord session pair.1 ∧ pair.2 = reg := by
  unfold recordAnswer
  dsimp only
  rw [if_neg]
  · refine ⟨?_, rfl⟩
    exact (sameRecord_markLaunchData _ _).trans
      (sameRecord_markPrefs _ _)
  · simp only [LrsAnswer.isAccepted] at hNothing
    rcases hNothing with hNot | hNone
    · rw [hNot]
      simp
    · rw [hNone]
      simp

theorem marked_results
    (state : AuState)
    (graded : Option Double)
    (accepted : List String) :
    (marked state graded accepted).passed = state.passed ∧
      (marked state graded accepted).completed =
        state.completed := by
  unfold marked
  cases graded with
  | none => exact ⟨rfl, rfl⟩
  | some graded =>
      dsimp only
      split <;> exact ⟨rfl, rfl⟩

/- An accepted batch is recorded verb by verb. -/
theorem recordAnswer_accepted
    (course : Course)
    (now : Nat)
    (reg : Registration)
    (session : Session)
    (graded : Option Double)
    (plan : Plan)
    {status : Nat}
    (hAccepted :
      (LrsAnswer.answered status).isAccepted = true) :
    let recorded := fun pair => applyVerbs now pair
      (plan.verdicts.filterMap (fun v => v))
    let pair :=
      recordAnswer course now reg session graded plan status
    ∃ session₁ state,
      SameRecord session session₁ ∧
      state.passed = (reg.aus session.auIndex).passed ∧
      state.completed = (reg.aus session.auIndex).completed ∧
      SameRecord (recorded (session₁, state)).1 pair.1 ∧
      pair.2.aus = (reg.setAu session.auIndex
        (recorded (session₁, state)).2).aus := by
  intro recorded pair
  by_cases hSome : plan.verdicts.filterMap (fun v => v) = []
  · have hNothing :
        SameRecord session pair.1 ∧ pair.2 = reg :=
      recordAnswer_nothing course now reg session graded plan
        (.inr hSome)
    refine ⟨session, reg.aus session.auIndex, .refl session,
      rfl, rfl, ?_, ?_⟩
    · rw [show recorded = fun pair => pair from funext
        (fun _ => by simp [recorded, hSome, applyVerbs])]
      exact hNothing.1
    · rw [hNothing.2]
      funext i
      simp only [recorded, hSome, applyVerbs, List.foldl_nil]
      by_cases hAu : i = session.auIndex
      · rw [hAu, Registration.setAu_same]
      · rw [Registration.setAu_other _ _ hAu]
  · have hResults := marked_results
      (reg.aus session.auIndex) graded
      (plan.verdicts.filterMap (fun v => v))
    have hFirst := sameRecord_markLaunchData session
      (true && plan.launchData)
    refine ⟨_, _, hFirst, hResults.1, hResults.2, ?_⟩
    simp only [LrsAnswer.isAccepted] at hAccepted
    simp only [pair, recorded, recordAnswer, hAccepted, hSome,
      ne_eq, not_false_eq_true, decide_true, Bool.and_self,
      if_true]
    refine ⟨?_, ?_⟩
    · refine .trans ?_ (sameRecord_markPrefs _ _)
      unfold afterStatements
      dsimp only
      rw [hFirst.auIndex]
      exact .refl _
    · unfold afterStatements
      dsimp only
      rw [hFirst.auIndex]
      split <;> rfl

--------
-- What Is Recorded of a History
--------

def Event.session :
    Event → String
| .accepted session _ _ => session
| .abandoned session => session

/- The session's record says what its history says. -/
structure Tracks
    (log : List Event)
    (session : Session) : Prop where
  sent : session.sent = verbs log session.id
  begun : session.state = .initialized →
    initialized ∈ session.sent
  ended : terminated ∈ session.sent →
    session.state = .terminated
  abandoned : .abandoned session.id ∈ log →
    session.state = .abandoned

/- The registration's record has its history's results. -/
structure Recorded
    (log : List Event)
    (reg : Registration) : Prop where
  passed : ∀ other auIndex,
    .accepted other auIndex (some passed) ∈ log →
      (reg.aus auIndex).passed = true
  completed : ∀ other auIndex,
    .accepted other auIndex (some completed) ∈ log →
      (reg.aus auIndex).completed = true

theorem Tracks.of_sameRecord
    {log : List Event}
    {session session' : Session}
    (hTracks : Tracks log session)
    (hSame : SameRecord session session') :
    Tracks log session' := by
  constructor
  · rw [hSame.sent, hSame.id]
    exact hTracks.sent
  · rw [hSame.sent, hSame.state]
    exact hTracks.begun
  · rw [hSame.sent, hSame.state]
    exact hTracks.ended
  · rw [hSame.id, hSame.state]
    exact hTracks.abandoned

/- Events of another session change nothing. -/
theorem Tracks.append_other
    {log events : List Event}
    {session : Session}
    (hTracks : Tracks log session)
    (hOther : ∀ e ∈ events, e.session ≠ session.id) :
    Tracks (log ++ events) session := by
  have hNone : verbs events session.id = [] := by
    apply List.filterMap_eq_nil_iff.mpr
    intro e hMem
    have hApart := hOther e hMem
    cases e with
    | abandoned other => rfl
    | accepted other auIndex verdict =>
        cases verdict with
        | none => rfl
        | some verb => exact if_neg hApart
  constructor
  · rw [verbs_append, hNone, List.append_nil]
    exact hTracks.sent
  · exact hTracks.begun
  · exact hTracks.ended
  · intro hMem
    rcases List.mem_append.mp hMem with hOld | hNew
    · exact hTracks.abandoned hOld
    · exact absurd rfl (hOther _ hNew)

/- An open session faces the rules with its history. -/
theorem Tracks.faces
    {log : List Event}
    {session : Session}
    {reg : Registration}
    (hTracks : Tracks log session)
    (hRecorded : Recorded log reg)
    (hNotAbandoned : session.state ≠ .abandoned)
    (hNotTerminated : session.state ≠ .terminated)
    (course : Course)
    (graded : Option Double) :
    Faces (viewOf course session reg graded) [] log session.id
      session.auIndex := by
  constructor
  case sent =>
    rw [List.append_nil]
    exact hTracks.sent.symm
  case notAbandoned =>
    intro hMem
    exact hNotAbandoned (hTracks.abandoned hMem)
  case begun =>
    intro hView
    apply hTracks.begun
    have hLater : session.state ≠ .launched :=
      of_decide_eq_true hView
    cases hState : session.state with
    | launched => exact absurd hState hLater
    | initialized => rfl
    | terminated => exact absurd hState hNotTerminated
    | abandoned => exact absurd hState hNotAbandoned
  case ended =>
    intro hSent
    exact absurd (hTracks.ended hSent) hNotTerminated
  case passed =>
    intro other hMem
    exact .inl (hRecorded.passed other _ hMem)
  case completed =>
    intro other hMem
    exact .inl (hRecorded.completed other _ hMem)

/- The verbs of a batch's events are its verbs. -/
theorem verbs_batch
    (session : String)
    (auIndex : Nat)
    (verdicts : List (Option String)) :
    verbs (verdicts.map (Event.accepted session auIndex))
        session =
      verdicts.filterMap (fun v => v) := by
  unfold verbs
  rw [List.filterMap_map]
  apply List.filterMap_congr
  intro verdict _
  cases verdict <;> simp

theorem mem_batch
    {session other : String}
    {auIndex auIndex' : Nat}
    {verdicts : List (Option String)}
    {verb : String}
    (hMem : Event.accepted other auIndex' (some verb) ∈
      verdicts.map (Event.accepted session auIndex)) :
    auIndex' = auIndex ∧
      verb ∈ verdicts.filterMap (fun v => v) := by
  rcases List.mem_map.mp hMem with ⟨verdict, hv, hSame⟩
  rw [Event.accepted.injEq] at hSame
  refine ⟨hSame.2.1.symm, ?_⟩
  exact List.mem_filterMap.mpr ⟨verdict, hv, hSame.2.2⟩

/- The session's record after an accepted batch. -/
theorem Tracks.batch
    {log : List Event}
    {session : Session}
    {view : SessionView}
    {statements : List Json}
    {verdicts : List (Option String)}
    (hTracks : Tracks log session)
    (hNotAbandoned : session.state ≠ .abandoned)
    (hNotTerminated : session.state ≠ .terminated)
    (hCheck : checkEach view statements [] = .ok verdicts)
    (now : Nat)
    (state : AuState) :
    Tracks
      (log ++ verdicts.map
        (Event.accepted session.id session.auIndex))
      (applyVerbs now (session, state)
        (verdicts.filterMap (fun v => v))).1 := by
  have hSession := applyVerbs_session now (session, state)
    (verdicts.filterMap (fun v => v))
  constructor
  case sent =>
    rw [hSession.1, hSession.2.2, verbs_append, verbs_batch,
      hTracks.sent]
  case begun =>
    intro hState
    rw [hSession.2.2, List.mem_append]
    rcases applyVerbs_initialized now _ _ hState with
      hBefore | hNow
    · exact .inl (hTracks.begun hBefore)
    · exact .inr hNow
  case ended =>
    intro hMem
    rw [hSession.2.2, List.mem_append] at hMem
    rcases hMem with hBefore | hNow
    · exact absurd (hTracks.ended hBefore) hNotTerminated
    · rcases checkEach_terminated hCheck hNow with
        ⟨before, hLast⟩
      rw [hLast]
      exact applyVerbs_terminated now _ before
  case abandoned =>
    intro hMem
    rw [hSession.1] at hMem
    rcases List.mem_append.mp hMem with hOld | hNew
    · exact absurd (hTracks.abandoned hOld) hNotAbandoned
    · rcases List.mem_map.mp hNew with ⟨_, _, hSame⟩
      cases hSame

/- The registration's record after an accepted batch. -/
theorem Recorded.batch
    {log : List Event}
    {reg reg' : Registration}
    {session : String}
    {auIndex now : Nat}
    {verdicts : List (Option String)}
    {session₁ : Session}
    {state : AuState}
    (hRecorded : Recorded log reg)
    (hState : state.passed = (reg.aus auIndex).passed ∧
      state.completed = (reg.aus auIndex).completed)
    (hReg : reg'.aus = (reg.setAu auIndex
      (applyVerbs now (session₁, state)
        (verdicts.filterMap (fun v => v))).2).aus) :
    Recorded
      (log ++ verdicts.map (Event.accepted session auIndex))
      reg' := by
  have hAus := applyVerbs_state now (session₁, state)
    (verdicts.filterMap (fun v => v))
  constructor
  case passed =>
    intro other auIndex' hMem
    rw [hReg]
    by_cases hAu : auIndex' = auIndex
    · subst hAu
      rw [Registration.setAu_same]
      apply hAus.1
      rcases List.mem_append.mp hMem with hOld | hNew
      · right
        rw [hState.1]
        exact hRecorded.passed other _ hOld
      · exact .inl (mem_batch hNew).2
    · rw [Registration.setAu_other _ _ hAu]
      rcases List.mem_append.mp hMem with hOld | hNew
      · exact hRecorded.passed other _ hOld
      · exact absurd (mem_batch hNew).1 hAu
  case completed =>
    intro other auIndex' hMem
    rw [hReg]
    by_cases hAu : auIndex' = auIndex
    · subst hAu
      rw [Registration.setAu_same]
      apply hAus.2
      rcases List.mem_append.mp hMem with hOld | hNew
      · right
        rw [hState.2]
        exact hRecorded.completed other _ hOld
      · exact .inl (mem_batch hNew).2
    · rw [Registration.setAu_other _ _ hAu]
      rcases List.mem_append.mp hMem with hOld | hNew
      · exact hRecorded.completed other _ hOld
      · exact absurd (mem_batch hNew).1 hAu

--------
-- Steps
--------

open Checks

namespace World

structure Inv (w : World) : Prop where
  lawful : Lawful w.log
  distinct : (w.sessions.map Session.id).Nodup
  known : ∀ e ∈ w.log, e.session ∈ w.sessions.map Session.id
  tracked : ∀ session ∈ w.sessions, Tracks w.log session
  recorded : Recorded w.log w.registration

theorem find?_mem
    {w : World}
    {sessionId : String}
    {session : Session}
    (hFind : w.find? sessionId = some session) :
    session ∈ w.sessions ∧ session.id = sessionId := by
  unfold find? at hFind
  refine ⟨List.mem_of_find?_eq_some hFind, ?_⟩
  have hId := List.find?_some hFind
  rw [decide_eq_true_eq] at hId
  exact hId

theorem put_ids
    (w : World)
    (session : Session) :
    (w.put session).sessions.map Session.id =
      w.sessions.map Session.id := by
  unfold put
  rw [List.map_map]
  apply List.map_congr_left
  intro other _
  simp only [Function.comp_apply]
  split
  case isTrue hId => exact hId.symm
  case isFalse => rfl

theorem mem_put
    {w : World}
    {session session' : Session}
    (hMem : session' ∈ (w.put session).sessions) :
    session' = session ∨
      session' ∈ w.sessions ∧ session'.id ≠ session.id := by
  unfold put at hMem
  rcases List.mem_map.mp hMem with ⟨other, hOther, hSame⟩
  split at hSame
  case isTrue => exact .inl hSame.symm
  case isFalse hId =>
    right
    rw [← hSame]
    exact ⟨hOther, hId⟩

/- One session's record and events, rewritten together. -/
theorem Inv.record
    {w : World}
    (hInv : w.Inv)
    {session session' : Session}
    (hMem : session ∈ w.sessions)
    (hId : session'.id = session.id)
    {events : List Event}
    (hEvents : ∀ e ∈ events, e.session = session.id)
    {reg : Registration}
    (hLawful : Lawful (w.log ++ events))
    (hTracks : Tracks (w.log ++ events) session')
    (hRecorded : Recorded (w.log ++ events) reg) :
    Inv { w.put session' with
      registration := reg
      log := w.log ++ events } := by
  constructor
  case lawful => exact hLawful
  case distinct =>
    show ((w.put session').sessions.map Session.id).Nodup
    rw [put_ids]
    exact hInv.distinct
  case known =>
    intro e he
    show e.session ∈ (w.put session').sessions.map Session.id
    rw [put_ids]
    rcases List.mem_append.mp he with hOld | hNew
    · exact hInv.known e hOld
    · rw [hEvents e hNew]
      exact List.mem_map_of_mem hMem
  case tracked =>
    intro other hOther
    rcases mem_put hOther with rfl | ⟨hOld, hApart⟩
    · exact hTracks
    · apply (hInv.tracked other hOld).append_other
      intro e he hSame
      apply hApart
      rw [hId, ← hEvents e he, hSame]
  case recorded => exact hRecorded

theorem authenticate_ok
    {w : World}
    {sessionId : String}
    {session : Session}
    (hAuthenticate :
      w.authenticate sessionId = .ok session) :
    session ∈ w.sessions ∧
      session.state ≠ .abandoned ∧
      session.state ≠ .terminated := by
  unfold authenticate at hAuthenticate
  cases hFind : w.find? sessionId with
  | none =>
      rw [hFind] at hAuthenticate
      cases hAuthenticate
  | some found =>
      rw [hFind] at hAuthenticate
      dsimp only at hAuthenticate
      split at hAuthenticate
      case isTrue => cases hAuthenticate
      case isFalse hNotAbandoned =>
        split at hAuthenticate
        case isTrue => cases hAuthenticate
        case isFalse hNotTerminated =>
          split at hAuthenticate
          case isTrue => cases hAuthenticate
          case isFalse =>
            cases hAuthenticate
            exact ⟨(find?_mem hFind).1, hNotAbandoned,
              hNotTerminated⟩

/- A request was authenticated, routed and answered. -/
theorem request_ok
    {course : Course}
    {w w' : World}
    {sessionId : String}
    {request : Request}
    {lrs : LrsAnswer}
    (hRequest :
      w.request course sessionId request lrs = .ok w') :
    ∃ session plan status,
      w.authenticate sessionId = .ok session ∧
      route course w.registration session request =
        .ok plan ∧
      lrs = .answered status ∧
      let pair := recordAnswer course w.now w.registration
        session request.graded plan status
      w' =
        { w.put pair.1 with
          registration := pair.2
          log := w.log ++
            if lrs.isAccepted then
              acceptedEvents session plan.verdicts
            else [] } := by
  unfold World.request at hRequest
  rcases bind_eq_ok.mp hRequest with
    ⟨session, hAuthenticate, hRequest⟩
  rcases bind_eq_ok.mp hRequest with
    ⟨plan, hRoute, hRequest⟩
  rcases bind_eq_ok.mp hRequest with
    ⟨⟨session', reg⟩, hProxy, hSame⟩
  unfold proxy at hProxy
  rcases bind_eq_ok.mp hProxy with ⟨plan', hRoute', hAnswer⟩
  rw [hRoute] at hRoute'
  cases hRoute'
  cases lrs with
  | unavailable message => cases hAnswer
  | answered status =>
      refine ⟨session, plan, status, hAuthenticate, hRoute,
        rfl, ?_⟩
      rw [Except.ok.injEq] at hAnswer
      dsimp only
      rw [hAnswer]
      exact (Except.ok.inj hSame).symm

theorem request_inv
    {course : Course}
    {w w' : World}
    {sessionId : String}
    {request : Request}
    {lrs : LrsAnswer}
    (hRequest :
      w.request course sessionId request lrs = .ok w')
    (hInv : w.Inv) :
    w'.Inv := by
  rcases request_ok hRequest with
    ⟨session, plan, status, hAuthenticate, hRoute, rfl, hSame⟩
  dsimp only at hSame
  subst hSame
  rcases authenticate_ok hAuthenticate with
    ⟨hMem, hNotAbandoned, hNotTerminated⟩
  have hTracks := hInv.tracked session hMem
  by_cases hAccepted :
      (LrsAnswer.answered status).isAccepted = true
  case neg =>
    -- the LRS refused: nothing is recorded
    rw [if_neg hAccepted]
    have hNothing := recordAnswer_nothing course w.now
      w.registration session request.graded plan
      (.inl (Bool.eq_false_iff.mpr hAccepted))
    rw [hNothing.2]
    refine hInv.record hMem hNothing.1.id ?_ ?_ ?_ ?_
    · intro e he
      cases he
    · rw [List.append_nil]
      exact hInv.lawful
    · rw [List.append_nil]
      exact hTracks.of_sameRecord hNothing.1
    · rw [List.append_nil]
      exact hInv.recorded
  case pos =>
    rw [if_pos hAccepted]
    rcases recordAnswer_accepted course w.now w.registration
      session request.graded plan hAccepted with
      ⟨session₁, state, hFirst, hPassed, hCompleted, hSession,
        hReg⟩
    have hTracks₁ := hTracks.of_sameRecord hFirst
    have hSent := applyVerbs_session w.now (session₁, state)
      (plan.verdicts.filterMap (fun v => v))
    have hBatch : ∃ view statements,
        checkEach view statements [] = .ok plan.verdicts ∧
        Lawful (w.log ++
          plan.verdicts.map
            (Event.accepted session.id session.auIndex)) := by
      have hFaces := hTracks.faces hInv.recorded hNotAbandoned
        hNotTerminated course request.graded
      rcases route_verdicts hRoute with hNone | ⟨sts, hCheck⟩
      · refine ⟨viewOf course session w.registration
          request.graded, [], ?_, ?_⟩
        · rw [hNone]
          rfl
        · rw [hNone, List.map_nil, List.append_nil]
          exact hInv.lawful
      · exact ⟨_, sts, hCheck,
          checkEach_lawful hCheck hFaces hInv.lawful⟩
    rcases hBatch with ⟨view, statements, hCheck, hLawful⟩
    refine hInv.record hMem ?_ ?_ hLawful ?_ ?_
    · rw [hSession.id, hSent.1]
      exact hFirst.id
    · intro e he
      rcases List.mem_map.mp he with ⟨_, _, rfl⟩
      rfl
    · have hAfter := hTracks₁.batch
        (by rw [hFirst.state]; exact hNotAbandoned)
        (by rw [hFirst.state]; exact hNotTerminated)
        hCheck w.now state
      rw [hFirst.id, hFirst.auIndex] at hAfter
      exact hAfter.of_sameRecord hSession
    · exact hInv.recorded.batch ⟨hPassed, hCompleted⟩ hReg

/- Abandoning ends a session that is still open. -/
theorem abandon_inv
    {w : World}
    (hInv : w.Inv)
    (sessionId : String)
    (lrs : Bool) :
    (w.abandon sessionId lrs).Inv := by
  unfold abandon
  split
  case h_1 => exact hInv
  case h_2 session hFind =>
    split
    case isFalse => exact hInv
    case isTrue hOpen =>
      rw [Bool.and_eq_true] at hOpen
      have hMem := (find?_mem hFind).1
      have hTracks := hInv.tracked session hMem
      have hNone : verbs [.abandoned session.id] session.id =
          [] := rfl
      have hAllowed :
          Allowed w.log (.abandoned session.id) :=
        trivial
      have hTracks' :
          Tracks (w.log ++ [.abandoned session.id])
            (session.abandon w.now) := by
        constructor
        case sent =>
          show session.sent = verbs _ session.id
          rw [verbs_append, hNone, List.append_nil]
          exact hTracks.sent
        case begun =>
          intro hState
          cases hState
        case ended =>
          intro hMem
          have hEnded := hTracks.ended hMem
          rw [hEnded] at hOpen
          cases hOpen.1
        case abandoned => exact fun _ => rfl
      have hId : (session.abandon w.now).id = session.id :=
        rfl
      refine hInv.record hMem hId ?_
        (hInv.lawful.snoc hAllowed) hTracks' ?_
      · intro e he
        rcases List.mem_singleton.mp he with rfl
        rfl
      · constructor
        · intro other auIndex hMem
          rcases List.mem_append.mp hMem with hOld | hNew
          · exact hInv.recorded.passed other auIndex hOld
          · simp at hNew
        · intro other auIndex hMem
          rcases List.mem_append.mp hMem with hOld | hNew
          · exact hInv.recorded.completed other auIndex hOld
          · simp at hNew

/- Results in the registration are enough. -/
theorem Inv.of_results
    {w : World}
    (hInv : w.Inv)
    {reg : Registration}
    (hResults : ∀ i,
      (reg.aus i).passed = (w.registration.aus i).passed ∧
      (reg.aus i).completed =
        (w.registration.aus i).completed) :
    Inv { w with registration := reg } := by
  refine ⟨hInv.lawful, hInv.distinct, hInv.known,
    hInv.tracked, ?_⟩
  constructor
  · intro other auIndex hMem
    rw [(hResults auIndex).1]
    exact hInv.recorded.passed other auIndex hMem
  · intro other auIndex hMem
    rw [(hResults auIndex).2]
    exact hInv.recorded.completed other auIndex hMem

theorem waive_inv
    {course : Course}
    {w : World}
    (hInv : w.Inv)
    (auIndex : Nat)
    (reason : String)
    (lrs : Bool) :
    (w.waive course auIndex reason lrs).Inv := by
  unfold waive
  split
  case isTrue => exact hInv
  case isFalse =>
    split
    case isTrue => exact hInv
    case isFalse =>
      dsimp only
      split
      case isTrue => exact hInv
      case isFalse =>
        split
        case isFalse => exact hInv
        case isTrue =>
          apply hInv.of_results
          intro i
          rw [Registration.evaluate_aus]
          by_cases hAu : i = auIndex
          · rw [hAu, Registration.setAu_same]
            exact ⟨rfl, rfl⟩
          · rw [Registration.setAu_other _ _ hAu]
            exact ⟨rfl, rfl⟩

theorem abandonAll_inv
    {w : World}
    (hInv : w.Inv)
    (sessions : List Session)
    (writes : Nat) :
    (w.abandonAll sessions writes).1.Inv := by
  induction sessions generalizing w writes with
  | nil => exact hInv
  | cons session sessions ih =>
      unfold abandonAll
      split
      case isFalse => exact ih hInv writes
      case isTrue =>
        cases writes with
        | zero => exact hInv
        | succ writes =>
            exact ih (abandon_inv hInv session.id true) writes

theorem abandon_ids
    (w : World)
    (sessionId : String)
    (lrs : Bool) :
    (w.abandon sessionId lrs).sessions.map Session.id =
      w.sessions.map Session.id := by
  unfold abandon
  split
  case h_1 => rfl
  case h_2 session hFind =>
    split
    case isFalse => rfl
    case isTrue => exact put_ids w _

theorem abandonAll_ids
    (w : World)
    (sessions : List Session)
    (writes : Nat) :
    (w.abandonAll sessions writes).1.sessions.map Session.id =
      w.sessions.map Session.id := by
  induction sessions generalizing w writes with
  | nil => rfl
  | cons session sessions ih =>
      unfold abandonAll
      split
      case isFalse => exact ih w writes
      case isTrue =>
        cases writes with
        | zero => rfl
        | succ writes =>
            rw [← abandon_ids w session.id true]
            exact ih (w.abandon session.id true) writes

/- A new session has no history. -/
theorem Inv.add
    {w : World}
    (hInv : w.Inv)
    {session : Session}
    (hNew : session.id ∉ w.sessions.map Session.id)
    (hSent : session.sent = [])
    (hState : session.state = .launched) :
    Inv { w with sessions := w.sessions ++ [session] } := by
  have hUnknown : ∀ e ∈ w.log, e.session ≠ session.id := by
    intro e he hSame
    exact hNew (hSame ▸ hInv.known e he)
  constructor
  case lawful => exact hInv.lawful
  case distinct =>
    rw [List.map_append]
    refine List.nodup_append.mpr
      ⟨hInv.distinct, List.pairwise_singleton _ _, ?_⟩
    rintro id hId _ hLast rfl
    rw [List.map_singleton, List.mem_singleton] at hLast
    exact hNew (hLast ▸ hId)
  case known =>
    intro e he
    rw [List.map_append, List.mem_append]
    exact .inl (hInv.known e he)
  case tracked =>
    intro other hOther
    rcases List.mem_append.mp hOther with hOld | hLast
    · exact hInv.tracked other hOld
    · rcases List.mem_singleton.mp hLast with rfl
      have hEmpty : Tracks [] other := by
        constructor
        · exact hSent
        · intro hBegun
          rw [hState] at hBegun
          cases hBegun
        · intro hEnded
          rw [hSent] at hEnded
          cases hEnded
        · intro hMem
          cases hMem
      exact hEmpty.append_other hUnknown
  case recorded => exact hInv.recorded

theorem launch_inv
    {course : Course}
    {w : World}
    (hInv : w.Inv)
    {sessionId : String}
    (hNew : w.isNew sessionId = true)
    (auIndex : Nat)
    (launchMode : Option String)
    (lrsWrites : Nat) :
    (w.launch course sessionId auIndex launchMode
      lrsWrites).Inv := by
  have hAbsent :
      sessionId ∉ w.sessions.map Session.id := by
    intro hMem
    rcases List.mem_map.mp hMem with ⟨session, hOld, hId⟩
    unfold isNew at hNew
    have hOther := List.all_eq_true.mp hNew session hOld
    rw [decide_eq_true_eq] at hOther
    exact hOther hId
  have hEvaluated : Inv { w with
      registration := w.registration.evaluate course } :=
    hInv.of_results (fun i => ⟨rfl, rfl⟩)
  unfold launch
  split
  case h_1 => exact hInv
  case h_2 au _ =>
    dsimp only
    split
    case h_1 => exact hEvaluated
    case h_2 mode _ =>
      have hAbandoned :=
        abandonAll_inv hEvaluated w.sessions lrsWrites
      have hIds := abandonAll_ids { w with
        registration := w.registration.evaluate course }
        w.sessions lrsWrites
      split
      case h_1 w' hRefused =>
        rw [hRefused] at hAbandoned
        exact hAbandoned
      case h_2 w' left hDone =>
        rw [hDone] at hAbandoned hIds
        split
        case isTrue => exact hAbandoned
        case isFalse =>
          refine hAbandoned.add ?_ rfl rfl
          rw [hIds]
          exact hAbsent

theorem step_inv
    (course : Course)
    (w : World)
    (a : Action)
    (hInv : w.Inv) :
    (w.step course a).Inv := by
  cases a with
  | tick elapsed =>
      exact ⟨hInv.lawful, hInv.distinct, hInv.known,
        hInv.tracked, hInv.recorded⟩
  | launch sessionId auIndex launchMode lrsWrites =>
      simp only [step]
      split
      case isTrue hNew =>
        exact launch_inv hInv hNew auIndex launchMode
          lrsWrites
      case isFalse => exact hInv
  | request sessionId request lrs =>
      simp only [step]
      cases hRequest :
          w.request course sessionId request lrs with
      | ok w' => exact request_inv hRequest hInv
      | error raised => exact hInv
  | abandon sessionId lrs => exact abandon_inv hInv _ _
  | waive auIndex reason lrs => exact waive_inv hInv _ _ _

theorem fresh_inv
    (registrationId : String) :
    (fresh registrationId).Inv := by
  constructor
  · exact .nil
  · exact List.nodup_nil
  · intro e he
    cases he
  · intro session hMem
    cases hMem
  · constructor
    · intro other auIndex hMem
      cases hMem
    · intro other auIndex hMem
      cases hMem

/- Rewriting a row with itself changes nothing. -/
theorem put_self
    {w : World}
    (hDistinct : (w.sessions.map Session.id).Nodup)
    {session : Session}
    (hMem : session ∈ w.sessions) :
    w.put session = w := by
  have hRows :
      w.sessions.map (fun other =>
        if other.id = session.id then session else other) =
      w.sessions := by
    conv_rhs => rw [← List.map_id w.sessions]
    apply List.map_congr_left
    intro other hOther
    split
    case isTrue hId =>
      exact (List.inj_on_of_nodup_map hDistinct hOther hMem
        hId).symm
    case isFalse => rfl
  unfold put
  rw [hRows]

/- Statements the LRS did not accept leave no trace. -/
theorem step_refused
    {course : Course}
    {w : World}
    (hInv : w.Inv)
    {sessionId : String}
    {request : Request}
    {lrs : LrsAnswer}
    (hResource : request.resource = "statements")
    (hRefused :
      lrs.isAccepted = false ∨
        ∃ raised,
          w.request course sessionId request lrs =
            .error raised) :
    w.step course (.request sessionId request lrs) = w := by
  simp only [step]
  cases hRequest : w.request course sessionId request lrs with
  | error raised => rfl
  | ok w' =>
      have hNot : lrs.isAccepted = false := by
        rcases hRefused with hNot | ⟨raised, hRaised⟩
        · exact hNot
        · rw [hRaised] at hRequest
          cases hRequest
      rcases request_ok hRequest with
        ⟨session, plan, status, hAuthenticate, hRoute, rfl,
          hSame⟩
      have hMem := (authenticate_ok hAuthenticate).1
      rcases route_statements hResource hRoute with
        ⟨hLaunchData, hPrefs⟩
      have hAnswer :
          recordAnswer course w.now w.registration session
            request.graded plan status =
          (session, w.registration) := by
        have hStatus :
            (decide (status = 200) ||
              decide (status = 204)) = false := hNot
        unfold recordAnswer
        simp only [hLaunchData, hPrefs, hStatus,
          Bool.false_and, Bool.and_false, Bool.false_eq_true,
          if_false, Session.markLaunchData,
          Session.markPrefs]
      rw [hAnswer, hNot] at hSame
      rw [hSame]
      dsimp only
      rw [put_self hInv.distinct hMem]
      simp

/- The cmi5 session rules, over every run. -/
theorem run_rules
    (course : Course)
    (registrationId : String)
    (actions : List Action) :
    let w :=
      Runs.run (step course) (fresh registrationId) actions
    (∀ session,
      (∀ verb, (verbs w.log session).head? = some verb →
        verb = initialized) ∧
      (∀ verb ∈ verbs w.log session, verb ∈ auDefined) ∧
      (verbs w.log session).Nodup ∧
      ¬ (passed ∈ verbs w.log session ∧
        failed ∈ verbs w.log session)) ∧
    (∀ before after session auIndex verdict,
      w.log =
          before ++ .accepted session auIndex verdict :: after →
      .abandoned session ∉ before ∧
      terminated ∉ verbs before session ∧
      ((verdict = some failed ∨ verdict = some passed) →
        ∀ other,
          .accepted other auIndex (some passed) ∉ before) ∧
      (verdict = some completed →
        ∀ other,
          .accepted other auIndex (some completed) ∉
            before)) ∧
    ∀ sessionId (request : Request) (lrs : LrsAnswer),
      request.resource = "statements" →
      (lrs.isAccepted = false ∨
        ∃ raised,
          w.request course sessionId request lrs =
            .error raised) →
      w.step course (.request sessionId request lrs) = w := by
  intro w
  have hInv : w.Inv :=
    Runs.run_invariant Inv (step_inv course)
      (fresh_inv registrationId) actions
  have hLawful := hInv.lawful
  refine ⟨?_, ?_, ?_⟩
  · intro session
    refine ⟨?_, ?_, hLawful.once session, ?_⟩
    · intro verb hFirst
      exact hLawful.first_initialized hFirst
    · intro verb hMem
      exact hLawful.defined hMem
    · rintro ⟨hPassed, hFailed⟩
      exact hLawful.passed_or_failed hPassed hFailed
  · intro before after session auIndex verdict hSplit
    have hAllowed := Histories.Lawful.allowed_at hLawful hSplit
    refine ⟨hAllowed.notAbandoned, hAllowed.notTerminated,
      ?_, ?_⟩
    · rintro (rfl | rfl)
      · exact (hAllowed.verb _ rfl).neverPassed (.inr rfl)
      · exact (hAllowed.verb _ rfl).neverPassed (.inl rfl)
    · rintro rfl
      exact (hAllowed.verb _ rfl).neverCompleted rfl
  · intro sessionId request lrs hResource hRefused
    exact step_refused hInv hResource hRefused

end World

end Cmi5

end TrueNorth
