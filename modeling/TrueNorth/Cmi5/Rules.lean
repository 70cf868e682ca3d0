import TrueNorth.Lib.Checks
import TrueNorth.Lib.Json

/-
  What an AU may send: the cmi5 rules (cmi5/rules.py).

  A statement is any JSON value.  Where Python would raise
  outside the rules (`.get` of what is no dictionary, an
  iteration over a number) the check crashes.

  Key definitions include:
    * `Raised`, `SessionView`
    * `inScope`, `ids`, `sameActor`
    * `matchesTemplate`
    * `check`, `checkDefined`
-/

--------
-- Identifiers
--------

namespace TrueNorth

namespace Cmi5

def catCmi5 : String :=
  "https://w3id.org/xapi/cmi5/context/categories/cmi5"

def catMoveon : String :=
  "https://w3id.org/xapi/cmi5/context/categories/moveon"

def extSession : String :=
  "https://w3id.org/xapi/cmi5/context/extensions/sessionid"

def extMastery : String :=
  "https://w3id.org/xapi/cmi5/context/extensions/masteryscore"

def launched : String :=
  "http://adlnet.gov/expapi/verbs/launched"

def initialized : String :=
  "http://adlnet.gov/expapi/verbs/initialized"

def completed : String :=
  "http://adlnet.gov/expapi/verbs/completed"

def passed : String :=
  "http://adlnet.gov/expapi/verbs/passed"

def failed : String :=
  "http://adlnet.gov/expapi/verbs/failed"

def terminated : String :=
  "http://adlnet.gov/expapi/verbs/terminated"

def voided : String :=
  "http://adlnet.gov/expapi/verbs/voided"

def abandoned : String :=
  "https://w3id.org/xapi/adl/verbs/abandoned"

def waived : String :=
  "https://w3id.org/xapi/adl/verbs/waived"

def satisfied : String :=
  "https://w3id.org/xapi/adl/verbs/satisfied"

def auDefined : List String :=
  [initialized, completed, passed, failed, terminated]

def judged : List String :=
  [completed, passed, failed]

/-
  A refusal: the requirement, the message and the status.
  `values` are what the message's %s and %r stand for.
-/
structure RuleViolation where
  req : String
  message : String
  values : List Json := []
  status : Nat := 400

/- The ways a request raises. -/
inductive Raised where
| rule (violation : RuleViolation)
| cmi5 (status : Nat) (message : String)
| crash

/- The Agent account of a TrueNorth user. -/
structure Account where
  homePage : String
  name : String
deriving DecidableEq

/- What the rules know of the session and registration. -/
structure SessionView where
  actor : Account
  registration : String
  sessionId : String
  auRuntimeId : String
  contextTemplate : List (String × Json)
  launchMode : String
  masteryScore : Option Double
  initialized : Bool
  terminated : Bool
  prefsFetched : Bool
  sent : List String
  auCompleted : Bool
  auPassed : Bool
  tnIriRoots : List String
  requireGraded : Bool
  graded : Option Double

--------
-- Readers
--------

open Checks

abbrev Checked := Except Raised

def violation
    (req message : String)
    (status : Nat) : Raised :=
  .rule { req := req, message := message, status := status }

/- `j.get(key)`. -/
def get
    (j : Json)
    (key : String) : Checked Json :=
  match j with
  | .obj members => .ok (Json.lookup members key)
  | _ => .error .crash

/- `d.get(key, default)`. -/
def getOr
    (members : List (String × Json))
    (key : String)
    (default : Json) : Json :=
  if Json.has members key then Json.lookup members key
  else default

/- `for item in j`. -/
def iterate (j : Json) : Checked (List Json) :=
  match j.iterate? with
  | some items => .ok items
  | none => .error .crash

/- `_ids`: of the activities of a list. -/
def ids (items : Json) : Checked (List Json) := do
  let activities ←
    iterate (if items.truthy then items else .arr [])
  .ok (activities.filterMap (fun activity =>
    activity.members?.map (Json.lookup · "id")))

/- `text in ids`. -/
def names
    (activityIds : List Json)
    (text : String) : Bool :=
  activityIds.any (Json.isText · text)

/- `str.isspace`, for one character. -/
def isSpace (c : Char) : Bool :=
  let n := c.toNat
  (9 ≤ n && n ≤ 13) || (28 ≤ n && n ≤ 32) || n = 0x85 ||
    n = 0xa0 || n = 0x1680 || (0x2000 ≤ n && n ≤ 0x200a) ||
    n = 0x2028 || n = 0x2029 || n = 0x202f || n = 0x205f ||
    n = 0x3000

/- Without the characters at the end that satisfy `p`. -/
def rstrip
    (p : Char → Bool)
    (text : List Char) : List Char :=
  (text.reverse.dropWhile p).reverse

/-
  `_norm_verb`.  Only ASCII letters are lowered: no other
  letter lowers to a character of a cmi5 verb id.
-/
def normVerb (verb : String) : List Char :=
  let stripped := rstrip isSpace (verb.toList.dropWhile isSpace)
  let v := rstrip (· = '/') (stripped.map Char.toLower)
  if "https://".toList.isPrefixOf v then
    "http://".toList ++ v.drop "https://".length
  else v

/- `_CANONICAL.get(_norm_verb(verb))`. -/
def canonical? (verb : String) : Option String :=
  (auDefined ++
    [launched, abandoned, waived, satisfied, voided]).find?
      (fun v => normVerb v = normVerb verb)

/- `verb.rsplit("/", 1)[1]`. -/
def lastSegment (verb : String) : String :=
  String.ofList
    (verb.toList.reverse.takeWhile (· ≠ '/')).reverse

def hexDigit? (c : Char) : Option Nat :=
  let n := c.toNat
  if 48 ≤ n && n ≤ 57 then some (n - 48)
  else if 65 ≤ n && n ≤ 70 then some (n - 55)
  else if 97 ≤ n && n ≤ 102 then some (n - 87)
  else none

/- Every occurrence of a text removed, as `replace` does. -/
def without
    (text : List Char)
    (gone : List Char) :
    Nat → List Char
| 0 => text
| fuel + 1 =>
    match text with
    | [] => []
    | c :: rest =>
        if gone.isPrefixOf text then
          without (text.drop gone.length) gone fuel
        else c :: without rest gone fuel

/-
  `uuid.UUID(text).version` of 32 hexadecimal digits, with
  braces, hyphens and a URN prefix optional.
-/
def uuidVersion? (text : String) : Option Nat :=
  let plain := text.toList
  let plain := without plain "urn:".toList plain.length
  let plain := without plain "uuid:".toList plain.length
  let braces := fun c : Char => c = '\x7b' || c = '\x7d'
  let plain := rstrip braces (plain.dropWhile braces)
  let digits := (plain.filter (· ≠ '-')).map hexDigit?
  if digits.length = 32 && digits.all Option.isSome then
    let digit := fun i => ((digits[i]?).join).getD 0
    -- the variant of RFC 4122 is the only one with versions
    if digit 16 / 4 = 2 then some (digit 12) else none
  else none

/- `is_reserved_id`; only texts and integers can be ids. -/
def isReservedId :
    Json → Bool
| .str text => uuidVersion? text = some 8
| .int value => uuidVersion? (toString value) = some 8
| _ => false

/- `_UTC.search`. -/
def isUtc (timestamp : String) : Bool :=
  let backwards := timestamp.toList.reverse
  -- `$` also matches before a last line feed
  [backwards, if backwards.head? = some '\n' then
      backwards.tail else backwards].any (fun text =>
    ["Z", "+00", "+00:", "+0000", "+00:00"].any (fun suffix =>
      suffix.toList.reverse.isPrefixOf text))

/-
  `in_scope`: the AU's own activity, or a plain path under
  it.
-/
def inScope
    (objectId : Json)
    (auRuntimeId : String) : Bool :=
  match objectId with
  | .str text =>
      let root := (auRuntimeId ++ "/").toList
      text = auRuntimeId ||
        (root.isPrefixOf text.toList &&
          let rest := text.toList.drop root.length
          rest.all (fun c => c ∉ ['%', '\\', '?', '#']) &&
            (rest.splitOn '/').all (fun segment =>
              segment ∉ [[], ['.'], ['.', '.']]))
  | _ => false

/- `same_actor`. -/
def sameActor
    (given : Json)
    (expected : Account) : Checked Bool :=
  match given with
  | .obj members =>
      if (getOr members "objectType" (.str "Agent")).isText
          "Agent" then do
        let account := (Json.lookup members "account").orEmpty
        let homePage ← get account "homePage"
        let name ← get account "name"
        .ok (homePage.isText expected.homePage &&
          name.isText expected.name &&
          !(["mbox", "mbox_sha1sum", "openid"].any
            (Json.has members)))
      else .ok false
  | _ => .ok false

--------
-- The Context Template
--------

open Checks

/- The activities the template wants first in a list. -/
def followsTemplate
    (key : String)
    (wanted : List Json)
    (have_ : List Json) : Checked Unit :=
  match wanted, have_ with
  | [], _ => .ok ()
  | _ :: _, [] => .error (notFollowed key)
  | activity :: wanted, given :: have_ => do
      let expected ← get activity "id"
      refuseIf (!given.eq expected) (notFollowed key)
      followsTemplate key wanted have_
where
  notFollowed (key : String) : Raised :=
    violation "10.2.1.0-6"
      ("context.contextActivities." ++ key ++
        " does not follow the contextTemplate") 400

/- One property of the template. -/
def matchesProperty
    (context : List (String × Json))
    (prop : String)
    (expected : Json) : Checked Unit := do
  let given := Json.lookup context prop
  if prop = "contextActivities" then
    match expected with
    | .obj lists =>
        each (fun list => do
          let have_ ← ids (← get given.orEmpty list.1)
          let wanted ← iterate list.2
          followsTemplate list.1 wanted have_) lists
    | _ => .error .crash
  else
    match expected with
    | .obj members =>
        match given with
        | .obj given =>
            each (fun member =>
              refuseIf
                (!(Json.lookup given member.1).eq member.2)
                (.rule
                  { req := "10.2.1.0-7"
                    message := "context." ++ prop ++
                      "[%r] overwrites the contextTemplate value"
                    values := [.str member.1] })) members
        | _ =>
            .error (violation "10.2.1.0-6"
              ("context." ++ prop ++
                " is missing (contextTemplate)") 400)
    | _ =>
        refuseIf (!given.eq expected)
          (violation "10.2.1.0-7"
            ("context." ++ prop ++
              " overwrites the contextTemplate value") 400)

/- `_matches_template`. -/
def matchesTemplate
    (context template : List (String × Json)) :
    Checked Unit :=
  each (fun property =>
    matchesProperty context property.1 property.2) template

--------
-- The Cmi5-Defined Statements
--------

open Checks

/- The result a statement has, if it is an object. -/
def resultOf
    (st : List (String × Json)) :
    Option (List (String × Json)) :=
  (Json.lookup st "result").members?

/- What a verb's missing result, or duration, violates. -/
def requirement
    (table : List (String × String))
    (verb : String) : Option String :=
  (table.find? (fun entry => entry.1 = verb)).map Prod.snd

def missingResult : List (String × String) :=
  [(completed, "9.5.3.0-1"), (passed, "9.5.2.0-1"),
   (failed, "9.5.2.0-2"), (terminated, "9.5.4.1-1")]

def durations : List (String × String) :=
  [(terminated, "9.5.4.1-1"), (completed, "9.5.4.1-2"),
   (passed, "9.5.4.1-3"), (failed, "9.5.4.1-4")]

/- The verb needs an entry of the table, by name. -/
def needs
    (table : List (String × String))
    (what verb : String)
    (lacking : Bool) : Checked Unit :=
  match requirement table verb with
  | none => .ok ()
  | some req =>
      refuseIf lacking
        (violation req (lastSegment verb ++ what) 400)

/- `float(x)` of a value known to be a number. -/
def toFloat (x : Number) : Checked Double :=
  match x.toDouble with
  | some value => .ok value
  | none => .error .crash

/- The score of a result that has one. -/
def checkScore
    (verb : String)
    (view : SessionView)
    (context score : List (String × Json)) :
    Checked Unit := do
  refuseIf (verb ≠ passed && verb ≠ failed)
    (violation "9.5.1.0-2"
      "only passed and failed may carry a score" 400)
  refuseIf
    (Json.has score "raw" &&
      (!Json.has score "min" || !Json.has score "max"))
    (violation "9.5.1.0-3"
      "a raw score needs min and max" 400)
  match view.masteryScore with
  | none => .ok ()
  | some mastery =>
      let ext ←
        get (Json.lookup context "extensions").orEmpty extMastery
      let judgedAgainst := violation "9.6.3.2-2"
        ("judged against the masteryScore: include it as " ++
          "the masteryscore extension") 400
      match ext.number? with
      | none => .error judgedAgainst
      | some number => do
          let given ← toFloat number
          refuseIf
            (!Number.eq (.float given) (.float mastery))
            judgedAgainst

/- A score that is an object of numbers, or none. -/
def scoreOf
    (result : List (String × Json)) :
    Checked (Option (List (String × Json))) :=
  let notNumbers := violation "4.1.0.0-1"
    "result.score values are numbers" 400
  match Json.lookup result "score" with
  | .null => .ok none
  | .obj score =>
      if ["scaled", "raw", "min", "max"].any (fun key =>
          Json.has score key &&
            (Json.lookup score key).number?.isNone)
      then .error notNumbers
      else .ok (some score)
  | _ => .error notNumbers

def checkScored
    (verb : String)
    (view : SessionView)
    (context : List (String × Json))
    (score : Option (List (String × Json))) :
    Checked Unit :=
  match score with
  | none => .ok ()
  | some score => checkScore verb view context score

/- The result a cmi5-defined statement carries. -/
def checkResult
    (verb : String)
    (view : SessionView)
    (context activities result : List (String × Json)) :
    Checked Unit := do
  refuseIf (Json.has result "completion" && verb ≠ completed)
    (violation "9.5.3.0-2"
      "only completed may carry result.completion" 400)
  refuseIf
    (verb = completed &&
      !(Json.lookup result "completion").isBool true)
    (violation "9.5.3.0-1"
      "completed needs result.completion = true" 400)
  refuseIf
    (Json.has result "success" &&
      verb ≠ passed && verb ≠ failed)
    (violation "9.5.2.0-3"
      "only passed and failed may carry result.success" 400)
  refuseIf
    (verb = passed &&
      !(Json.lookup result "success").isBool true)
    (violation "9.5.2.0-1"
      "passed needs result.success = true" 400)
  refuseIf
    (verb = failed &&
      !(Json.lookup result "success").isBool false)
    (violation "9.5.2.0-2"
      "failed needs result.success = false" 400)
  let categories ← ids (Json.lookup activities "category")
  refuseIf
    ((Json.has result "completion" ||
        Json.has result "success") &&
      !names categories catMoveon)
    (violation "9.6.2.2-1"
      "completed/passed/failed need the moveon category" 400)
  let score ← scoreOf result
  checkScored verb view context score
  needs durations " needs result.duration" verb
    (!Json.has result "duration")

/- The result, or that the verb needs none. -/
def checkCarried
    (verb : String)
    (view : SessionView)
    (context activities : List (String × Json))
    (result : Option (List (String × Json))) :
    Checked Unit :=
  match result with
  | none => needs missingResult " needs a result" verb true
  | some members =>
      checkResult verb view context activities members

/- `result.score.scaled`, if there is one. -/
def scaledOf
    (result : Option (List (String × Json))) :
    Checked Json := do
  let score := Json.lookup (result.getD []) "score"
  get score.orEmpty "scaled"

/- A score not within 1e-4 of the one TrueNorth marked. -/
def offMark
    (scaled : Json)
    (graded : Double) : Checked Bool :=
  match scaled.number? with
  | none =>
      if scaled.isNull then .ok true else .error .crash
  | some number => do
      let given ← toFloat number
      .ok (!given.isFinite ||
        Number.lt (.float (Double.ofRat (1 / 10000)))
          (.float (given.sub graded).abs))

/- A score compared with the mastery score, if both are. -/
def compared
    (scaled : Json)
    (view : SessionView)
    (test : Number → Number → Bool) : Checked Bool :=
  match view.masteryScore with
  | none => .ok false
  | some mastery =>
      if scaled.isNull then .ok false
      else
        match scaled.number? with
        | none => .error .crash
        | some number => .ok (test number (.float mastery))

/- What a passed or failed is judged against. -/
def checkMark
    (view : SessionView)
    (scaled : Json) : Checked Unit := do
  refuseIf (view.masteryScore.isSome && scaled.isNull)
    (violation "TN-SCORE"
      "judged against the masteryScore: report score.scaled"
      400)
  if view.requireGraded then
    match view.graded with
    | none =>
        .error (violation "TN-GRADE"
          ("no score marked by TrueNorth in this session: " ++
            "submit the quiz first") 403)
    | some graded => do
        let off ← offMark scaled graded
        refuseIf off
          (.rule
            { req := "TN-GRADE"
              message :=
                "score.scaled must be the score TrueNorth " ++
                  "marked (%s)"
              values := [.float graded]
              status := 403 })
  else .ok ()

/- A judging verb against what was sent and recorded. -/
def checkSequence
    (verb : String)
    (view : SessionView)
    (sent : List String)
    (scaled : Json) : Checked Unit := do
  refuseIf
    ((verb = initialized || verb = terminated) &&
      verb ∈ sent)
    (violation "9.3.0.0-2"
      (lastSegment verb ++ " already sent in this session")
      400)
  only (verb = completed) do
    refuseIf (completed ∈ sent)
      (violation "9.3.0.0-2"
        "completed already sent in this session" 400)
    refuseIf view.auCompleted
      (violation "9.3.0.0-6"
        "completed already recorded in this registration" 400)
  only (verb = passed) do
    let below ← compared scaled view Number.lt
    refuseIf below
      (.rule
        { req := "9.3.4.0-2"
          message :=
            "passed with a score %s below the masteryScore %s"
          values :=
            [scaled, (view.masteryScore.map Json.float).getD
              .null] })
    refuseIf (passed ∈ sent)
      (violation "9.3.0.0-2"
        "passed already sent in this session" 400)
    refuseIf (failed ∈ sent)
      (violation "9.3.0.0-3"
        "failed already sent in this session" 400)
    refuseIf view.auPassed
      (violation "9.3.0.0-7"
        "passed already recorded in this registration" 400)
  only (verb = failed) do
    let above ← compared scaled view
      (fun x y => Number.lt y x || Number.eq x y)
    refuseIf above
      (.rule
        { req := "9.3.6.0-1"
          message := "failed with a score %s at or above " ++
            "the masteryScore %s"
          values :=
            [scaled, (view.masteryScore.map Json.float).getD
              .null] })
    refuseIf (failed ∈ sent)
      (violation "9.3.0.0-2"
        "failed already sent in this session" 400)
    refuseIf (passed ∈ sent)
      (violation "9.3.0.0-3"
        "passed already sent in this session" 400)
    refuseIf view.auPassed
      (violation "9.3.0.0-8"
        "failed after passed in this registration" 400)

/- `_check_defined`. -/
def checkDefined
    (st context activities : List (String × Json))
    (verb : String)
    (view : SessionView)
    (earlier : List String) : Checked String := do
  refuseIf
    (!(getOr ((Json.lookup st "actor").members?.getD [])
      "objectType" (.str "Agent")).isText "Agent")
    (violation "9.2.0.0-2"
      "the actor of a cmi5-defined statement is an Agent" 400)
  refuseIf (verb ∉ auDefined)
    (violation "9.3.0.0-1"
      (verb ++ " is not a cmi5-defined AU verb") 400)
  let objectId :=
    Json.lookup ((Json.lookup st "object").members?.getD [])
      "id"
  refuseIf (!objectId.truthy)
    (violation "9.4.0.0-1" "object.id is missing" 400)
  refuseIf (!objectId.isText view.auRuntimeId)
    (violation "8.1.5.0-6"
      "object.id must be the launch activityId" 400)
  refuseIf (view.launchMode = "Browse" && verb ∈ judged)
    (violation "10.2.2.0-2"
      "no completed/passed/failed in Browse mode" 400)
  refuseIf (view.launchMode = "Review" && verb ∈ judged)
    (violation "10.2.2.0-3"
      "no completed/passed/failed in Review mode" 400)
  let result := resultOf st
  checkCarried verb view context activities result
  let scaled ← scaledOf result
  only (verb = passed || verb = failed)
    (checkMark view scaled)
  checkSequence verb view (view.sent ++ earlier) scaled
  .ok verb

--------
-- Any Statement
--------

open Checks

/- A statement with an actor, a verb and an object. -/
def readStatement
    (st : Json)
    (view : SessionView) :
    Checked (List (String × Json)) := do
  refuseIf (!view.prefsFetched)
    (violation "11.0.0.0-3"
      ("read the cmi5LearnerPreferences agent profile " ++
        "before sending statements") 400)
  match st with
  | .obj members => do
      each (fun prop =>
        refuseIf (!Json.has members prop)
          (violation "4.1.0.0-1"
            ("statement has no " ++ prop) 400))
        ["actor", "verb", "object"]
      .ok members
  | _ =>
      .error (violation "4.1.0.0-1"
        "a statement is a JSON object" 400)

/- The verb id, spelled as cmi5 does where it is cmi5's. -/
def readVerb
    (st : List (String × Json)) : Checked String := do
  let id ← get (Json.lookup st "verb").orEmpty "id"
  match id with
  | .str verb => do
      refuseIf (verb = "")
        (violation "4.1.0.0-1" "statement has no verb.id" 400)
      refuseIf (!(Json.obj st).finite)
        (violation "TN-NUMBER"
          "NaN and infinity are not JSON numbers" 400)
      match canonical? verb with
      | none => .ok verb
      | some canonical => do
          refuseIf (canonical ≠ verb)
            (.rule
              { req := "TN-VERB"
                message := "%r is %s spelled differently"
                values := [.str verb, .str canonical]
                status := 403 })
          .ok verb
  | _ =>
      .error
        (violation "4.1.0.0-1" "statement has no verb.id" 400)

/- The statement's own id, verb and time. -/
def checkIdentity
    (st : List (String × Json))
    (verb : String) : Checked Unit := do
  let id := Json.lookup st "id"
  refuseIf (!id.truthy)
    (violation "9.1.0.0-1"
      "the AU must give every statement an id" 400)
  refuseIf (isReservedId id)
    (violation "TN-ID"
      ("statement ids of UUID version 8 are reserved for " ++
        "the LMS") 403)
  refuseIf (verb = voided)
    (violation "6.3.0.0-1"
      "an AU may not void statements" 403)
  refuseIf (verb ∈ [launched, abandoned, waived, satisfied])
    (violation "9.3.0.0-1"
      (verb ++ " is the LMS's to send, not the AU's") 403)
  let timestamp := Json.lookup st "timestamp"
  refuseIf (!timestamp.truthy)
    (violation "9.7.0.0-1" "statement has no timestamp" 400)
  refuseIf
    (match timestamp with
      | .str text => !isUtc text
      | _ => true)
    (violation "9.7.0.0-2" "timestamp must be UTC" 400)

/- A TrueNorth activity that is not the AU's. -/
def outside
    (view : SessionView)
    (activityId : Json) : Bool :=
  (match activityId with
    | .str text => view.tnIriRoots.any (fun root =>
        root.toList.isPrefixOf text.toList)
    | _ => false) &&
  !inScope activityId view.auRuntimeId

def contextKeys : List String :=
  ["parent", "grouping", "other", "category"]

/- No list of the context names a foreign activity. -/
def checkActivities
    (activities : List (String × Json))
    (view : SessionView) : Checked Unit :=
  each (fun key => do
    let named ← ids (Json.lookup activities key)
    refuseIf (named.any (outside view))
      (violation "TN-SCOPE"
        ("context.contextActivities." ++ key ++
          " names a TrueNorth activity outside this AU")
        403)) contextKeys

/- The context and its contextActivities. -/
def checkContext
    (st : List (String × Json))
    (view : SessionView) :
    Checked (List (String × Json) × List (String × Json)) := do
  let same ← sameActor (Json.lookup st "actor") view.actor
  refuseIf (!same)
    (violation "8.1.3.0-3" "actor is not the launch actor" 400)
  match Json.lookup st "context" with
  | .obj context =>
      match Json.lookup context "contextActivities" with
      | .obj activities => do
          matchesTemplate context view.contextTemplate
          checkActivities activities view
          .ok (context, activities)
      | _ =>
          .error (violation "10.2.1.0-6"
            ("context has no contextActivities " ++
              "(contextTemplate)") 400)
  | _ =>
      .error
        (violation "9.6.0.0-1" "statement has no context" 400)

/- The registration and session, and the session's order. -/
def checkSession
    (context : List (String × Json))
    (verb : String)
    (view : SessionView)
    (earlier : List String) : Checked Unit := do
  refuseIf
    (!(Json.lookup context "registration").isText
      view.registration)
    (violation "9.6.1.0-1"
      ("context.registration is not the launch " ++
        "registration") 400)
  let session ←
    get (Json.lookup context "extensions").orEmpty extSession
  refuseIf (!session.isText view.sessionId)
    (violation "9.6.3.1-4"
      ("the sessionid extension is missing or not this " ++
        "session's") 400)
  refuseIf
    (!view.initialized && verb ≠ initialized &&
      initialized ∉ earlier)
    (violation "9.3.0.0-4"
      ("initialized must be the first statement of the " ++
        "session") 400)
  refuseIf (view.terminated || terminated ∈ earlier)
    (violation "9.3.0.0-5" "the session is terminated" 403)

/- The object is the AU's own activity. -/
def checkObject
    (st : List (String × Json))
    (view : SessionView) : Checked Unit :=
  let ownActivity := violation "TN-SCOPE"
    ("an AU's statements have its own activity as their " ++
      "object") 403
  match Json.lookup st "object" with
  | .obj object => do
      refuseIf
        (!(getOr object "objectType" (.str "Activity")).isText
          "Activity")
        ownActivity
      refuseIf
        (!inScope (Json.lookup object "id") view.auRuntimeId)
        (violation "TN-SCOPE"
          ("object.id must be the launch activityId or an " ++
            "activity under it") 403)
  | _ => .error ownActivity

/- A cmi5-allowed statement: any other verb, no result. -/
def checkAllowed
    (st : List (String × Json))
    (verb : String) : Checked Unit := do
  refuseIf (verb ∈ auDefined)
    (violation "TN-DEFINED"
      (lastSegment verb ++ " is cmi5-defined: send it with " ++
        "the cmi5 category") 403)
  match resultOf st with
  | none => .ok ()
  | some result =>
      refuseIf
        (["success", "completion", "score"].any
          (Json.has result))
        (violation "TN-RESULT"
          ("a cmi5-allowed statement carries no success, " ++
            "completion or score") 403)

/-
  `check`: the verb of a cmi5-defined statement, none for a
  cmi5-allowed one.
-/
def check
    (st : Json)
    (view : SessionView)
    (earlier : List String) : Checked (Option String) := do
  let st ← readStatement st view
  let verb ← readVerb st
  checkIdentity st verb
  let (context, activities) ← checkContext st view
  let categories ← ids (Json.lookup activities "category")
  let defined := names categories catCmi5
  refuseIf
    (names categories catMoveon &&
      (!defined || verb ∉ judged))
    (violation "9.6.2.2-2"
      ("the moveon category belongs only on completed, " ++
        "passed and failed") 400)
  checkSession context verb view earlier
  checkObject st view
  if defined then do
    let verb ← checkDefined st context activities verb view
      earlier
    .ok (some verb)
  else do
    checkAllowed st verb
    .ok none

end Cmi5

end TrueNorth
