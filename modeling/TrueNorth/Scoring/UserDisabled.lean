import TrueNorth.Lib.Checks
import TrueNorth.Lib.Json
import TrueNorth.Lib.Sightings
import TrueNorth.Lib.Texts

/-
  Whether an account is disabled (`validate_user_disabled`
  of scenario_engine/scoring/validators.py), read from the
  events of a store.

  A store is asked page by page, and may answer as it likes.
  Times are in microseconds since the first of the year 1.

  Key definitions include:
    * `Reading`, `Hit`, `Store`
    * `evidenceClass`, `fieldOf`
    * `eventId`, `targetUser`, `eventOrder`
    * `observedHits`
    * `validateUserDisabled`
-/

--------
-- Events
--------

namespace TrueNorth

namespace Scoring

namespace UserDisabled

/- A moment on a clock, and the clock's offset if it has one. -/
structure Moment where
  clock : Int
  offset : Option Int
deriving DecidableEq

/- Without an offset it is UTC. -/
def Moment.utc (moment : Moment) : Int :=
  moment.clock - moment.offset.getD 0

/-
  What Python makes of a value.  `timeOf` is what
  `datetime.fromisoformat` makes of a text that is stripped,
  its fraction cut to six digits and its Z an offset; `repr`
  is `str` of a float, a list or an object.
-/
structure Reading where
  timeOf : String → Option Moment
  repr : Json → String
  dumps : Json → String

/- What a store has found. -/
structure Hit where
  id : Option String
  source : Json

/- The members of what is a dictionary, or none. -/
def Hit.members (hit : Hit) : List (String × Json) :=
  hit.source.members?.getD []

inductive EvidenceClass where
| synthetic
| live
| observed
deriving DecidableEq

/- `evidence_class`. -/
def evidenceClass
    (source : List (String × Json)) : EvidenceClass :=
  match Json.lookup source "tn_ground_truth" with
  | .obj labels =>
      let declared := Json.lookup labels "evidence_class"
      if declared.isText "synthetic" then .synthetic
      else if declared.isText "live" then .live
      else if Json.has labels "simulated" &&
          (Json.lookup labels "simulated").isBool false then
        .live
      else .synthetic
  | _ =>
      let event := Json.lookup source "event"
      if (Json.lookup source "truenorth_simulated").isBool true ||
          (Json.lookup source "event.module").isText
            "truenorth.inject" ||
          (Json.lookup (event.members?.getD []) "module").isText
            "truenorth.inject"
      then .synthetic
      else .observed

/- The value at the end of a path, null if it breaks off. -/
def descend :
    List String → Json → Json
| [], current => current
| part :: parts, current =>
    match current with
    | .obj members =>
        if Json.has members part then
          descend parts (Json.lookup members part)
        else .null
    | _ => .null

/- `_field`: a flat key, else a nested path. -/
def fieldOf
    (source : List (String × Json))
    (dotted : String) : Json :=
  if Json.has source dotted then Json.lookup source dotted
  else
    descend ((dotted.toList.splitOn '.').map String.ofList)
      (.obj source)

def disabled : String := "4725"

def enabled : String := "4722"

def eventIdFields : List String :=
  ["EventID", "winlog.event_id", "event.code"]

def targetUserFields : List String :=
  ["TargetUserName", "winlog.event_data.TargetUserName",
   "user.target.name"]

variable (R : Reading)

/- `str`. -/
def str (value : Json) : String :=
  match value with
  | .null => "None"
  | .bool true => "True"
  | .bool false => "False"
  | .int n => toString n
  | .str text => text
  | other => R.repr other

/- `_event_id`: of the first field that is there. -/
def eventId (source : List (String × Json)) : Option String :=
  ((eventIdFields.map (fieldOf source)).find?
    (fun value => !value.isNull)).map (str R)

/- A text that is not empty. -/
def text? :
    Json → Option String
| .str text => if text = "" then none else some text
| _ => none

/- `_target_user`. -/
def targetUser
    (source : List (String × Json)) : Option String :=
  (targetUserFields.findSome? (fun name =>
    text? (fieldOf source name))).map Texts.casefold

/- `_instant`, of a JSON value. -/
def instant (value : Json) : Option Int :=
  match value with
  | .str text => (R.timeOf text).map Moment.utc
  | _ => none

/- `_ingested`. -/
def ingested (source : List (String × Json)) : Option Int :=
  let flat := Json.lookup source "truenorth.ingested_at"
  let nested := Json.lookup source "truenorth"
  instant R
    (if flat.truthy then flat
     else
       Json.lookup (nested.members?.getD []) "ingested_at")

/-
  `_event_order`: when it happened on the host, then when it
  was ingested.
-/
def eventOrder (source : List (String × Json)) : Int ×ₗ Int :=
  let floor : Int := 0
  toLex
    ((instant R (Json.lookup source "@timestamp")).getD floor,
     (ingested R source).getD floor)

/- `_in_window`. -/
def inWindow
    (window : Option Int × Option Int)
    (source : List (String × Json)) : Bool :=
  if window.1.isNone && window.2.isNone then true
  else
    match ingested R source with
    | none => false
    | some moment =>
        window.1.all (fun start => start ≤ moment) &&
          window.2.all (fun stop => moment ≤ stop)

--------
-- Stores
--------

/- Why an objective could not be judged. -/
inductive Unscored where
| placeholders
| notAnAccount
| windowStart
| windowEnd
| noWindow
| noStore
| unavailable
| tooMany (total : Nat)
| noEvents
| sameInstant
deriving DecidableEq

structure EventHits where
  total : Nat
  hits : List Hit

/-
  `search`, of an index, a query, a size and an offset; none
  when it raises.
-/
abbrev Store : Type :=
  String → String → Nat → Nat → Option EventHits

/- Most matches that are classified. -/
def maxScan : Nat := 10000

/- The page size. -/
def pageSize : Nat := 500

variable (R : Reading)

/- By what an event is known: its id, or else its content. -/
def Hit.key (hit : Hit) : String :=
  match hit.id with
  | some id => id
  | none => R.dumps (.obj hit.members)

def Hit.isObserved (hit : Hit) : Bool :=
  evidenceClass hit.members = .observed

/- The keys seen, and the observed hits. -/
abbrev Scan : Type :=
  List String × List Hit

/- One hit: kept if it is observed and not seen. -/
def note
    (scan : Scan)
    (hit : Hit) : Scan :=
  if hit.key R ∉ scan.1 && hit.isObserved then
    (scan.1 ++ [hit.key R], scan.2 ++ [hit])
  else scan

/-
  The pages of a query.  An offset grows at every page and
  stays below `maxScan`, so that the fuel is never used up.
-/
def pages (search : Nat → Option EventHits) :
    Nat → Nat → Scan → Except Unscored Scan
| 0, _, scan => .ok scan
| fuel + 1, offset, scan =>
    match search offset with
    | none => .error .unavailable
    | some found =>
        if found.total > maxScan then
          .error (.tooMany found.total)
        else
          let next := found.hits.foldl (note R) scan
          let offset := offset + found.hits.length
          if found.hits.isEmpty || offset ≥ found.total then
            .ok next
          else pages search fuel offset next

/- `_observed_hits`, after what other queries have found. -/
def observedFrom
    (search : String → Nat → Option EventHits) :
    List String → Scan → Except Unscored Scan
| [], scan => .ok scan
| query :: queries, scan =>
    match pages R (search query) (maxScan + 1) 0 scan with
    | .error why => .error why
    | .ok next => observedFrom search queries next

/- `_observed_hits`. -/
def observedHits
    (store : Store)
    (index : String)
    (queries : List String) :
    Except Unscored (List Hit) :=
  (observedFrom R (fun query => store index query pageSize)
    queries ([], [])).map Prod.snd

--------
-- The Verdict
--------

open Checks

/- An end of the window: a moment of the platform's, or not. -/
inductive Given where
| absent
| moment (at_ : Moment)
| value (json : Json)

structure Config where
  username : Json
  index : String := "truenorth-*"
  windowStart : Given
  windowEnd : Given

variable (R : Reading)

/- `_instant`. -/
def Given.instant (given : Given) : Option Int :=
  match given with
  | .absent => none
  | .moment at_ => some at_.utc
  | .value json => UserDisabled.instant R json

def Given.isAbsent :
    Given → Bool
| .absent => true
| .value json => json.isNull
| _ => false

/- `_window`, where one is required. -/
def windowOf (config : Config) :
    Except Unscored (Option Int × Option Int) := do
  let start := config.windowStart.instant R
  let stop := config.windowEnd.instant R
  refuseIf (!config.windowStart.isAbsent && start.isNone)
    .windowStart
  refuseIf (!config.windowEnd.isAbsent && stop.isNone)
    .windowEnd
  refuseIf start.isNone .noWindow
  .ok (start, stop)

def isLetter (c : Char) : Bool :=
  ('a' ≤ c && c ≤ 'z') || ('A' ≤ c && c ≤ 'Z')

def isDigit (c : Char) : Bool :=
  '0' ≤ c && c ≤ '9'

/- A placeholder starts the text. -/
def startsPlaceholder (text : List Char) : Bool :=
  match text with
  | '\x7b' :: '\x7b' :: rest =>
      match rest.dropWhile Texts.isSpace with
      | [] => false
      | c :: rest =>
          (isLetter c || c = '_') &&
            ['\x7d', '\x7d'].isPrefixOf
              ((rest.dropWhile (fun c =>
                isLetter c || isDigit c || c = '_')).dropWhile
                  Texts.isSpace)
  | _ => false

/- `unresolved`: whether there is any. -/
def unresolved (text : String) : Bool :=
  text.toList.tails.any startsPlaceholder

/- `ACCOUNT_NAME.match`. -/
def isAccountName (text : String) : Bool :=
  let named := fun (name : List Char) =>
    match name with
    | [] => false
    | c :: rest =>
        (isLetter c || isDigit c) && rest.length ≤ 63 &&
          rest.all (fun c =>
            isLetter c || isDigit c ||
              c ∈ ['.', '_', '$', '-'])
  let name := text.toList
  -- `$` also matches before a last line feed
  named name ||
    (name.getLast? = some '\n' && named name.dropLast)

/- `str(config.get("username") or "")`. -/
def username (config : Config) : String :=
  if config.username.truthy then str R config.username else ""

/- The account and the window, if they can be judged. -/
def checkConfig (config : Config) :
    Except Unscored (String × (Option Int × Option Int)) := do
  let username := username R config
  refuseIf (unresolved username) .placeholders
  refuseIf (!isAccountName username) .notAnAccount
  let window ← windowOf R config
  .ok (Texts.casefold username, window)

def queries : List String :=
  [disabled, enabled].flatMap (fun code =>
    eventIdFields.map (fun field => field ++ ":" ++ code))

/- An event of the account, inside the window. -/
def considered
    (wanted : String)
    (window : Option Int × Option Int)
    (hit : Hit) : Bool :=
  inWindow R window hit.members &&
    targetUser hit.members = some wanted

/- What the latest events say. -/
def judge (events : List Hit) :
    Except Unscored (Bool × List Hit) :=
  let place := fun (hit : Hit) => eventOrder R hit.members
  let sorted := events.insertionSort
    (fun a b => place a ≤ place b)
  match sorted.getLast? with
  | none => .error .noEvents
  | some last =>
      let latest := (events.filter (fun hit =>
        place hit = place last)).map
          (fun hit => eventId R hit.members)
      if (∀ id ∈ latest, id = some disabled ∨ id = some enabled) ∧
          some disabled ∈ latest ∧ some enabled ∈ latest then
        .error .sameInstant
      else if eventId R last.members ≠ some disabled then
        .ok (false, [])
      else .ok (true, [last])

/- The ids are those of a disable and of a re-enable. -/
def bothIds
    (R : Reading)
    (latest : List Hit) : Bool :=
  let ids := latest.map (fun hit => eventId R hit.members)
  (∀ id ∈ ids, id = some disabled ∨ id = some enabled) ∧
    some disabled ∈ ids ∧ some enabled ∈ ids

/- `validate_user_disabled`. -/
def validateUserDisabled
    (config : Config)
    (store : Option Store) :
    Except Unscored (Bool × List Hit) := do
  let (wanted, window) ← checkConfig R config
  match store with
  | none => .error .noStore
  | some store => do
      let observed ← observedHits R store config.index queries
      judge R (observed.filter (considered R wanted window))

/- The verdict: none is unscored. -/
def verdict
    (config : Config)
    (store : Store) : Option Bool :=
  (validateUserDisabled R config (some store)).toOption.map
    Prod.fst

end UserDisabled

end Scoring

end TrueNorth
