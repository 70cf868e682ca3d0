import TrueNorth.Cmi5.Rules

/-
  TrueNorth as the cmi5 LMS of one registration
  (cmi5/lms.py): launches, the AU's requests, abandoning
  and waiving.

  Every request locks the registration, so each is one
  step.  What it reads elsewhere (the enrolment, the marks,
  the LRS's answers) comes with the step.

  Key definitions include:
    * `Session`, `Registration`, `Course`
    * `checkStatements`, `afterStatements`
    * `route`, `authenticate`, `proxy`
    * `launch`, `abandon`, `waive`
-/

--------
-- Sessions and Registrations
--------

namespace TrueNorth

namespace Cmi5

inductive SessionState where
| launched
| initialized
| terminated
| abandoned
deriving DecidableEq

/- `OPEN_STATES`. -/
def SessionState.isOpen :
    SessionState → Bool
| .launched => true
| .initialized => true
| _ => false

/- One AU launch. -/
structure Session where
  id : String
  auIndex : Nat
  launchMode : String
  masteryScore : Option Double
  contextTemplate : List (String × Json)
  state : SessionState
  sent : List String
  launchDataFetched : Bool
  prefsFetched : Bool
  launchedAt : Nat
  initializedAt : Option Nat
  endedAt : Option Nat
  expiresAt : Nat

/- What `progress` says of one AU. -/
structure AuState where
  completed : Bool := false
  passed : Bool := false
  failed : Bool := false
  waived : Option String := none
  score : Option Double := none
deriving DecidableEq

structure Registration where
  id : String
  aus : Nat → AuState
  satisfied : List String

namespace Registration

/- The registration with another state for one AU. -/
def setAu
    (reg : Registration)
    (auIndex : Nat)
    (state : AuState) : Registration :=
  { reg with
    aus := fun i => if i = auIndex then state else reg.aus i }

@[simp] theorem setAu_same
    (reg : Registration)
    (auIndex : Nat)
    (state : AuState) :
    (reg.setAu auIndex state).aus auIndex = state := by
  simp [setAu]

theorem setAu_other
    (reg : Registration)
    {auIndex i : Nat}
    (state : AuState)
    (hOther : i ≠ auIndex) :
    (reg.setAu auIndex state).aus i = reg.aus i := by
  simp [setAu, hOther]

end Registration

structure AU where
  publisherId : String
  moveOn : String
  masteryScore : Option Double

/-
  The release, the Student and the settings.  `evaluate`
  gives the blocks and course recorded as satisfied.
-/
structure Course where
  account : Account
  iriBase : String
  runtimeId : String
  aus : List AU
  sessionSeconds : Nat
  evaluate : Registration → List String

/- `au_runtime_id`. -/
def Course.auRuntimeId
    (course : Course)
    (auIndex : Nat) : String :=
  course.runtimeId ++ "/au/" ++ toString auIndex

/- `evaluate`: only what is satisfied changes. -/
def Registration.evaluate
    (reg : Registration)
    (course : Course) : Registration :=
  { reg with satisfied := course.evaluate reg }

@[simp] theorem Registration.evaluate_aus
    (reg : Registration)
    (course : Course) :
    (reg.evaluate course).aus = reg.aus := rfl

--------
-- Statements
--------

open Checks

/- `_view`. -/
def viewOf
    (course : Course)
    (session : Session)
    (reg : Registration)
    (graded : Option Double) : SessionView where
  actor := course.account
  registration := reg.id
  sessionId := session.id
  auRuntimeId := course.auRuntimeId session.auIndex
  contextTemplate := session.contextTemplate
  launchMode := session.launchMode
  masteryScore := session.masteryScore
  initialized := session.state ≠ .launched
  terminated := session.state = .terminated
  prefsFetched := session.prefsFetched
  sent := session.sent
  auCompleted := (reg.aus session.auIndex).completed
  auPassed := (reg.aus session.auIndex).passed
  tnIriRoots :=
    [course.iriBase ++ "/", "http://truenorthrange.local/"]
  requireGraded := true
  graded := graded

/- What decoding a body gives. -/
inductive Body where
| json (payload : Json)
| notJson
| constant (name : String)
| notFinite (text : String)

def Body.payload :
    Body → Checked Json
| .json payload => .ok payload
| .notJson =>
    .error
      (violation "4.1.0.0-1" "the body is not JSON" 400)
| .constant name =>
    .error (violation "TN-NUMBER"
      (name ++ " is not a JSON number") 400)
| .notFinite text =>
    .error (violation "TN-NUMBER"
      (text ++ " is not a finite number") 400)

/- A statement without what the LRS sets itself. -/
def withoutServerSet :
    Json → Json
| .obj members =>
    .obj (members.filter (fun member =>
      member.1 ∉ ["authority", "stored"]))
| j => j

/-
  The statements one by one, each after the cmi5-defined
  verbs accepted before it.
-/
def checkEach
    (view : SessionView) :
    List Json → List String → Checked (List (Option String))
| [], _ => .ok []
| st :: sts, accepted => do
    let verdict ← check st view accepted
    let verdicts ←
      checkEach view sts (accepted ++ verdict.toList)
    .ok (verdict :: verdicts)

/- A PUT carries the one statement its parameter names. -/
def checkPut
    (statements : List Json)
    (statementId : Option String) : Checked Unit :=
  let notOne := violation "4.1.0.0-1"
    ("PUT carries one statement whose id is the " ++
      "statementId parameter") 400
  match statements with
  | [st] => do
      let id ← get st.orEmpty "id"
      refuseIf
        (match statementId with
          | none => !id.isNull
          | some text => !id.isText text)
        notOne
  | _ => .error notOne

/-
  `_check_statements`: what each statement is, and the body
  to forward.
-/
def checkStatements
    (view : SessionView)
    (method : String)
    (statementId : Option String)
    (body : Body) :
    Checked (List (Option String) × Json) := do
  let payload ← body.payload
  let statements := match payload with
    | .arr items => items
    | st => [st]
  refuseIf statements.isEmpty
    (violation "4.1.0.0-1" "no statements" 400)
  only (method = "PUT") (checkPut statements statementId)
  let verdicts ← checkEach view statements []
  let cleaned := match payload with
    | .arr items => .arr (items.map withoutServerSet)
    | st => withoutServerSet st
  .ok (verdicts, cleaned)

/- One accepted cmi5-defined verb, recorded. -/
def applyVerb
    (now : Nat)
    (session : Session)
    (state : AuState)
    (verb : String) : Session × AuState :=
  let session := { session with sent := session.sent ++ [verb] }
  if verb = initialized then
    ({ session with
        state := .initialized
        initializedAt := some now }, state)
  else if verb = terminated then
    ({ session with
        state := .terminated
        endedAt := some now }, state)
  else if verb = completed then
    (session, { state with completed := true })
  else if verb = passed then
    (session, { state with passed := true })
  else if verb = failed then
    (session, { state with failed := true })
  else (session, state)

/- `max(float(best), graded)`. -/
def bestMark
    (best : Option Double)
    (graded : Double) : Double :=
  match best with
  | none => graded
  | some best =>
      if Number.lt (.float best) (.float graded) then graded
      else best

/- The score of a result recorded with TrueNorth's mark. -/
def marked
    (state : AuState)
    (graded : Option Double)
    (accepted : List String) : AuState :=
  match graded with
  | none => state
  | some graded =>
      if passed ∈ accepted || failed ∈ accepted then
        { state with
          score := some (bestMark state.score graded) }
      else state

/- `_after_statements`. -/
def afterStatements
    (course : Course)
    (now : Nat)
    (session : Session)
    (reg : Registration)
    (accepted : List String)
    (graded : Option Double) : Session × Registration :=
  let state :=
    marked (reg.aus session.auIndex) graded accepted
  let recorded := accepted.foldl
    (fun pair verb => applyVerb now pair.1 pair.2 verb)
    (session, state)
  let reg := reg.setAu session.auIndex recorded.2
  (recorded.1,
    if completed ∈ accepted || passed ∈ accepted then
      reg.evaluate course
    else reg)

--------
-- Requests
--------

open Checks

/- What decoding the `agent` parameter gives. -/
inductive AgentParam where
| missing
| notJson
| json (agent : Json)

/- An AU's request, and what it reads elsewhere. -/
structure Request where
  method : String
  resource : String
  params : String → Option String
  agent : AgentParam
  body : Body
  -- why the Student is no longer entitled
  ended : Option String
  graded : Option Double

/- `_agent_param`. -/
def checkAgent
    (agent : AgentParam)
    (account : Account) : Checked Unit :=
  match agent with
  | .missing =>
      .error (violation "11.0.0.0-1"
        "the agent parameter is required" 400)
  | .notJson =>
      .error
        (violation "8.1.3.0-3" "agent is not JSON" 400)
  | .json given => do
      let same ← sameActor given account
      refuseIf (!same)
        (violation "8.1.3.0-3"
          "agent is not the launch actor" 403)

/- What a request that may be forwarded leaves to record. -/
structure Plan where
  verdicts : List (Option String) := []
  launchData : Bool := false
  prefs : Bool := false

/- `_still_entitled`. -/
def checkEntitled (ended : Option String) : Checked Unit :=
  match ended with
  | none => .ok ()
  | some message => .error (.cmi5 403 message)

/- A parameter names the launch activity. -/
def checkActivity
    (request : Request)
    (runtimeId : String) : Checked Unit :=
  refuseIf (request.params "activityId" ≠ some runtimeId)
    (violation "10.1.0.0-3"
      "activityId is not the launch activityId" 403)

/- A State document of this AU and registration. -/
def routeState
    (course : Course)
    (reg : Registration)
    (runtimeId : String)
    (request : Request) : Checked Plan := do
  checkAgent request.agent course.account
  checkActivity request runtimeId
  refuseIf (request.params "registration" ≠ some reg.id)
    (violation "8.1.4.0-3"
      "registration must be the launch registration" 403)
  let stateId := (request.params "stateId").getD ""
  refuseIf (stateId = "" && request.method ≠ "GET")
    (.cmi5 403
      ("name the stateId: the AU may not change or delete " ++
        "all its State documents at once"))
  if stateId = "LMS.LaunchData" then do
    refuseIf (request.method ≠ "GET")
      (violation "10.2.1.0-5"
        "LMS.LaunchData is the LMS's: read it, never write it"
        403)
    .ok { launchData := true }
  else .ok {}

/- The Agent Profile, read only. -/
def routeProfile
    (course : Course)
    (request : Request) : Checked Plan := do
  checkAgent request.agent course.account
  refuseIf (request.method ≠ "GET")
    (.cmi5 403 "Agent Profiles are read-only for an AU")
  .ok
    { prefs :=
        request.params "profileId" =
          some "cmi5LearnerPreferences" }

/- `proxy`, up to where the request is forwarded. -/
def route
    (course : Course)
    (reg : Registration)
    (session : Session)
    (request : Request) : Checked Plan := do
  checkEntitled request.ended
  let runtimeId := course.auRuntimeId session.auIndex
  let resource := request.resource
  if resource = "about" && request.method = "GET" then
    .ok {}
  else if resource = "statements" then do
    refuseIf
      (request.method ≠ "POST" && request.method ≠ "PUT")
      (.cmi5 403
        "the AU credential is write-only for statements")
    let (verdicts, _) ← checkStatements
      (viewOf course session reg request.graded)
      request.method (request.params "statementId")
      request.body
    .ok { verdicts := verdicts }
  else if resource = "activities/state" then
    routeState course reg runtimeId request
  else if resource = "agents/profile" then
    routeProfile course request
  else if resource = "agents" && request.method = "GET" then do
    checkAgent request.agent course.account
    .ok {}
  else if resource = "activities" ||
      resource = "activities/profile" then do
    checkActivity request runtimeId
    refuseIf (request.method ≠ "GET")
      (.cmi5 403 (resource ++ " is read-only for an AU"))
    .ok {}
  else
    .error (.cmi5 404
      (request.method ++ " " ++ resource ++
        " is not part of the AU's LRS"))

/- What the LRS answers, or that it cannot be reached. -/
inductive LrsAnswer where
| answered (status : Nat)
| unavailable (message : String)

namespace LrsAnswer

def isAccepted :
    LrsAnswer → Bool
| .answered status => status = 200 || status = 204
| .unavailable _ => false

end LrsAnswer

/- LMS.LaunchData was read. -/
def Session.markLaunchData
    (session : Session)
    (fetched : Bool) : Session :=
  if fetched then { session with launchDataFetched := true }
  else session

/- The learner preferences were read. -/
def Session.markPrefs
    (session : Session)
    (fetched : Bool) : Session :=
  if fetched then { session with prefsFetched := true }
  else session

/- What the LRS's answer leaves to record. -/
def recordAnswer
    (course : Course)
    (now : Nat)
    (reg : Registration)
    (session : Session)
    (graded : Option Double)
    (plan : Plan)
    (status : Nat) : Session × Registration :=
  let accepted := plan.verdicts.filterMap (fun v => v)
  let recorded := status = 200 || status = 204
  let session :=
    session.markLaunchData (recorded && plan.launchData)
  let (session, reg) :=
    if recorded && accepted ≠ [] then
      afterStatements course now session reg accepted graded
    else (session, reg)
  (session.markPrefs
      (plan.prefs && (status = 200 || status = 404)), reg)

/-
  `proxy`: what the AU's request leaves of its session and
  registration.
-/
def proxy
    (course : Course)
    (now : Nat)
    (reg : Registration)
    (session : Session)
    (request : Request)
    (lrs : LrsAnswer) :
    Checked (Session × Registration) := do
  let plan ← route course reg session request
  match lrs with
  | .unavailable message =>
      .error (.cmi5 503
        ("the LRS is unavailable: " ++ message))
  | .answered status =>
      .ok (recordAnswer course now reg session request.graded
        plan status)

--------
-- The World of One Registration
--------

/- What happened to a session, in the order it did. -/
inductive Event where
| accepted
    (session : String)
    (auIndex : Nat)
    (verdict : Option String)
| abandoned (session : String)
deriving DecidableEq

/-
  `log` is a ghost: the statements recorded as accepted and
  the sessions abandoned.
-/
structure World where
  registration : Registration
  sessions : List Session
  now : Nat
  log : List Event

inductive Action where
| tick (elapsed : Nat)
| launch
    (sessionId : String)
    (auIndex : Nat)
    (launchMode : Option String)
    (lrsWrites : Nat)
| request
    (sessionId : String)
    (request : Request)
    (lrs : LrsAnswer)
| abandon (sessionId : String) (lrs : Bool)
| waive (auIndex : Nat) (reason : String) (lrs : Bool)

/- `au_satisfied`. -/
def auSatisfied
    (au : AU)
    (state : AuState) : Bool :=
  state.waived.isSome ||
    match au.moveOn with
    | "NotApplicable" => true
    | "Passed" => state.passed
    | "Completed" => state.completed
    | "CompletedAndPassed" => state.completed && state.passed
    | "CompletedOrPassed" => state.completed || state.passed
    | _ => false

namespace Session

/- What `abandon` makes of an open session. -/
def abandon
    (now : Nat)
    (session : Session) : Session :=
  { session with
    state := .abandoned
    endedAt := some now }

end Session

namespace World

def find?
    (w : World)
    (sessionId : String) : Option Session :=
  w.sessions.find? (fun session => session.id = sessionId)

/- The session's row is rewritten. -/
def put
    (w : World)
    (session : Session) : World :=
  { w with
    sessions := w.sessions.map (fun other =>
      if other.id = session.id then session else other) }

/- `authenticate`, for the session its token names. -/
def authenticate
    (w : World)
    (sessionId : String) : Checked Session :=
  match w.find? sessionId with
  | none => .error (.cmi5 401 "not a valid cmi5 auth token")
  | some session =>
      if session.state = .abandoned then
        .error (.cmi5 403
          "8.1.2.0-2: the session was abandoned")
      else if session.state = .terminated then
        .error (.cmi5 403
          "8.1.2.0-2: the session is terminated")
      else if session.expiresAt < w.now then
        .error (.cmi5 403
          "8.1.2.0-2: the session has expired")
      else .ok session

/- What a request recorded as accepted. -/
def acceptedEvents
    (session : Session)
    (verdicts : List (Option String)) : List Event :=
  verdicts.map (Event.accepted session.id session.auIndex)

/- An AU's request, authenticated and proxied. -/
def request
    (course : Course)
    (w : World)
    (sessionId : String)
    (request : Request)
    (lrs : LrsAnswer) : Checked World := do
  let session ← w.authenticate sessionId
  let plan ← route course w.registration session request
  let (session', reg) ← proxy course w.now w.registration
    session request lrs
  .ok
    { w.put session' with
      registration := reg
      log := w.log ++
        if lrs.isAccepted then
          acceptedEvents session plan.verdicts
        else [] }

/- `abandon`: the LMS's statement, then no more. -/
def abandon
    (w : World)
    (sessionId : String)
    (lrs : Bool) : World :=
  match w.find? sessionId with
  | none => w
  | some session =>
      if session.state.isOpen && lrs then
        { w.put (session.abandon w.now) with
          log := w.log ++ [.abandoned session.id] }
      else w

/-
  `waive`.  A refused statement raises before anything is
  recorded.
-/
def waive
    (course : Course)
    (w : World)
    (auIndex : Nat)
    (reason : String)
    (lrs : Bool) : World :=
  if reason ∉ ["Tested Out", "Equivalent AU",
      "Equivalent Outside Activity", "Administrative"] then w
  else if course.aus.length ≤ auIndex then w
  else
    let state := w.registration.aus auIndex
    if state.waived.isSome then w
    else if lrs then
      { w with
        registration :=
          (w.registration.setAu auIndex
            { state with waived := some reason }).evaluate
              course }
    else w

/-
  Every session still open is abandoned, as long as the LRS
  takes the statement; what is left of its writes follows.
-/
def abandonAll
    (w : World) :
    List Session → Nat → World × Option Nat
| [], writes => (w, some writes)
| session :: sessions, writes =>
    if session.state.isOpen then
      match writes with
      | 0 => (w, none)
      | writes + 1 =>
          (w.abandon session.id true).abandonAll sessions
            writes
    else w.abandonAll sessions writes

/- `_context_template`. -/
def contextTemplate
    (au : AU)
    (sessionId : String) : List (String × Json) :=
  [("contextActivities", .obj
      [("grouping", .arr
        [.obj
          [("objectType", .str "Activity"),
           ("id", .str au.publisherId)]])]),
   ("extensions", .obj [(extSession, .str sessionId)])]

/- The launch mode asked for, or the one that fits. -/
def launchModeOf
    (au : AU)
    (state : AuState)
    (launchMode : Option String) : Option String :=
  match launchMode with
  | some mode =>
      if mode ∈ ["Normal", "Browse", "Review"] then some mode
      else none
  | none =>
      some
        (if auSatisfied au state &&
            au.moveOn ≠ "NotApplicable"
          then "Review" else "Normal")

/-
  `launch`, with the LRS taking the first `lrsWrites`
  writes.  Sessions it abandoned before a refusal stay so.
-/
def launch
    (course : Course)
    (w : World)
    (sessionId : String)
    (auIndex : Nat)
    (launchMode : Option String)
    (lrsWrites : Nat) : World :=
  match course.aus[auIndex]? with
  | none => w
  | some au =>
      let w := { w with
        registration := w.registration.evaluate course }
      match launchModeOf au (w.registration.aus auIndex)
          launchMode with
      | none => w
      | some mode =>
          match w.abandonAll w.sessions lrsWrites with
          | (w, none) => w
          | (w, some left) =>
              -- LMS.LaunchData and `launched`
              if left < 2 then w
              else
                { w with
                  sessions := w.sessions ++
                    [{ id := sessionId
                       auIndex := auIndex
                       launchMode := mode
                       masteryScore := au.masteryScore
                       contextTemplate :=
                         contextTemplate au sessionId
                       state := .launched
                       sent := []
                       launchDataFetched := false
                       prefsFetched := false
                       launchedAt := w.now
                       initializedAt := none
                       endedAt := none
                       expiresAt :=
                         w.now + course.sessionSeconds }] }

/- A session id is new when it is drawn. -/
def isNew
    (w : World)
    (sessionId : String) : Bool :=
  w.sessions.all (fun session => session.id ≠ sessionId)

/- A request that raises is rolled back. -/
def step
    (course : Course)
    (w : World) :
    Action → World
| .tick elapsed => { w with now := w.now + elapsed }
| .launch sessionId auIndex launchMode lrsWrites =>
    if w.isNew sessionId then
      w.launch course sessionId auIndex launchMode lrsWrites
    else w
| .request sessionId request lrs =>
    match w.request course sessionId request lrs with
    | .ok w' => w'
    | .error _ => w
| .abandon sessionId lrs => w.abandon sessionId lrs
| .waive auIndex reason lrs =>
    w.waive course auIndex reason lrs

/- A registration without a session. -/
def fresh (registrationId : String) : World where
  registration :=
    { id := registrationId
      aus := fun _ => {}
      satisfied := [] }
  sessions := []
  now := 0
  log := []

end World

end Cmi5

end TrueNorth
