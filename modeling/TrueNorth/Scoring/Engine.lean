import TrueNorth.Lib.Dict
import TrueNorth.Lib.Json

/-
  The scoring engine (scenario_engine/scoring/engine.py):
  what `evaluate` makes of a scenario's objectives.

  Every objective is a task of one event loop.  The tasks
  start in list order, all of them before any that waits in
  its validator goes on, and each looks its dependencies up
  as it starts.  What the validators answer, and when the
  points are counted, comes with the evaluation.

  Key definitions include:
    * `Objective`, `Validation`
    * `ObjectiveResult`, `ScoringResult`
    * `ScoringEngine.start`, `ScoringEngine.startAll`
    * `ScoringEngine.evaluate`
    * `ScoringResult.verdict`
-/

--------
-- Objectives and Results
--------

namespace TrueNorth

namespace Scoring

/-
  What is read of an objective.  `threshold` is its
  validator's, and the validator itself only answers.
-/
structure Objective where
  name : String
  maxPoints : Int
  timeBonus : Bool
  timeLimitSeconds : Int
  partialCredit : Bool
  threshold : Int
  dependsOn : List String

/- What `ScoringValidator.validate` returns or raises. -/
inductive Answer where
| returned (achieved : Bool) (evidence : List Json)
| unscored (why : String)
| raised (message : String)

/-
  A validator's answer, whether it waits for something on
  the way, and the seconds since the start once it is in.
-/
structure Validation where
  answer : Answer
  waits : Bool
  elapsed : Rat

inductive Feedback where
| dependencyNotMet (dependency : String)
| achieved (name : String) (points maxPoints : Int)
| notYetAchieved (name : String) (maxPoints : Int)
deriving DecidableEq

def Feedback.text : Feedback → String
| .dependencyNotMet dependency =>
    "Dependency not met: " ++ dependency
| .achieved name points maxPoints =>
    "Objective '" ++ name ++ "' achieved — " ++
      toString points ++ "/" ++ toString maxPoints ++
      " points."
| .notYetAchieved name maxPoints =>
    "Objective '" ++ name ++ "' not yet achieved (0/" ++
      toString maxPoints ++ ")."

structure ObjectiveResult where
  objectiveId : String
  achieved : Bool
  pointsAwarded : Int
  maxPoints : Int
  evidence : List Json
  feedback : Feedback

/- What `gather` has for a task: why it is not scored, or
its result. -/
abbrev Outcome : Type := Except String ObjectiveResult

--------
-- Points
--------

/- `int(max_points * ratio)`; no double is too large. -/
def partOf
    (maxPoints : Int)
    (ratio : Double) : Option Int :=
  match (Number.int maxPoints).toDouble with
  | none => none
  | some points => (points.mul ratio).trunc?

/- An error report is not evidence of anything. -/
def isFound : Json → Bool
| .obj members => !Json.has members "error"
| _ => false

namespace Objective

/- A part of the points, for some of the evidence. -/
def creditRatio
    (obj : Objective)
    (found : Nat) : Double :=
  let ratio := Double.ofRat (found / (max obj.threshold 1 : Int))
  let half := Double.finite (1 / 2)
  if Number.lt (.float half) (.float ratio) then half
  else ratio

/- `_calculate_points`. -/
def calculatePoints
    (obj : Objective)
    (achieved : Bool)
    (evidence : List Json)
    (elapsed : Rat) : Option Int :=
  if achieved then
    if obj.timeBonus && obj.timeLimitSeconds > 0 &&
        elapsed < obj.timeLimitSeconds then
      (partOf obj.maxPoints (.finite (1 / 4))).map
        (obj.maxPoints + ·)
    else some obj.maxPoints
  else
    let found := (evidence.filter isFound).length
    if obj.partialCredit && found > 0 then
      partOf obj.maxPoints (obj.creditRatio found)
    else some 0

/- `_build_feedback`. -/
def buildFeedback
    (obj : Objective)
    (achieved : Bool)
    (points : Int) : Feedback :=
  if achieved then .achieved obj.name points obj.maxPoints
  else .notYetAchieved obj.name obj.maxPoints

/-
  `evaluate_objective` from its validator on, and what
  `evaluate` makes of an exception.
-/
def judge
    (obj : Objective)
    (oid : String)
    (validation : Validation) : Outcome :=
  match validation.answer with
  | .unscored why => .error why
  | .raised message =>
      .error ("evaluation failed: " ++ message)
  | .returned achieved evidence =>
      match obj.calculatePoints achieved evidence
          validation.elapsed with
      | none =>
          .error
            "evaluation failed: int too large to convert to float"
      | some points =>
          .ok
            { objectiveId := oid
              achieved := achieved
              pointsAwarded := points
              maxPoints := obj.maxPoints
              evidence := evidence
              feedback := obj.buildFeedback achieved points }

/- The result of an objective whose dependency is not met. -/
def dependencyNotMet
    (obj : Objective)
    (oid dependency : String) : ObjectiveResult where
  objectiveId := oid
  achieved := false
  pointsAwarded := 0
  maxPoints := obj.maxPoints
  evidence := []
  feedback := .dependencyNotMet dependency

end Objective

end Scoring

end TrueNorth

--------
-- The Engine
--------

namespace TrueNorth

namespace Scoring

/- `_results`. -/
abbrev Results : Type := Dict String ObjectiveResult

structure ScoringEngine where
  objectives : Dict String Objective
  results : Results

structure ScoringResult where
  totalScore : Int
  maxScore : Int
  objectives : List ObjectiveResult
  unscored : List (String × String)
  unscoredPoints : Int

/- A dependency is met by an achieved result so far. -/
def unmet
    (results : Results)
    (dependency : String) : Bool :=
  match results.get? dependency with
  | none => true
  | some result => !result.achieved

/- A task once it started: settled, or in its validator. -/
inductive Task where
| settled (oid : String) (outcome : Outcome)
| waiting (oid : String) (obj : Objective)

namespace ScoringEngine

/- `__init__`: a later objective of the same id counts. -/
def init
    (objectives : List (String × Objective)) :
    ScoringEngine where
  objectives := Dict.ofPairs objectives
  results := Dict.empty

section

variable (validate : String → Validation)

/- What a validated objective leaves in `_results`. -/
def record
    (results : Results)
    (oid : String) : Outcome → Results
| .ok result => results.set oid result
| .error _ => results

/-
  The start of `evaluate_objective`, to its end or to where
  its validator waits.  Only what was validated is recorded.
-/
def start
    (results : Results)
    (oid : String)
    (obj : Objective) : Task × Results :=
  match obj.dependsOn.find? (unmet results) with
  | some dependency =>
      (.settled oid (.ok (obj.dependencyNotMet oid dependency)),
        results)
  | none =>
      if (validate oid).waits then
        (.waiting oid obj, results)
      else
        let outcome := obj.judge oid (validate oid)
        (.settled oid outcome, record results oid outcome)

def startAll :
    Results → List (String × Objective) → List Task × Results
| results, [] => ([], results)
| results, (oid, obj) :: rest =>
    let started := start validate results oid obj
    let others := startAll started.2 rest
    (started.1 :: others.1, others.2)

/- How a task ends; whatever waited looks nothing up. -/
def outcomeOf :
    Task → String × Outcome
| .settled oid outcome => (oid, outcome)
| .waiting oid obj => (oid, obj.judge oid (validate oid))

/- The results of the validators that waited come last. -/
def resumeAll
    (results : Results)
    (tasks : List Task) : Results :=
  tasks.foldl
    (fun results task =>
      match task with
      | .settled _ _ => results
      | .waiting oid obj =>
          record results oid (obj.judge oid (validate oid)))
    results

end

/- Why a task's objective is not scored. -/
def unscoredOf
    (outcome : String × Outcome) : Option String :=
  match outcome.2 with
  | .ok _ => none
  | .error why => some why

/- The objectives in order, each with its outcome. -/
def outcomes
    (engine : ScoringEngine)
    (validate : String → Validation) :
    List (String × Outcome) :=
  (startAll validate engine.results
    engine.objectives.entries).1.map (outcomeOf validate)

/- `evaluate`. -/
def evaluate
    (engine : ScoringEngine)
    (validate : String → Validation) :
    ScoringResult × ScoringEngine :=
  let started := startAll validate engine.results
    engine.objectives.entries
  let outcomes := engine.outcomes validate
  let judged := outcomes.filterMap (fun o => o.2.toOption)
  let unscored := outcomes.filterMap (fun o =>
    (unscoredOf o).map (fun why => (o.1, why)))
  ({ totalScore :=
        (judged.map ObjectiveResult.pointsAwarded).sum
     maxScore := (judged.map ObjectiveResult.maxPoints).sum
     objectives := judged
     unscored := unscored
     unscoredPoints :=
        (unscored.map (fun u =>
          ((engine.objectives.get? u.1).map
            Objective.maxPoints).getD 0)).sum },
    { engine with
      results := resumeAll validate started.2 started.1 })

end ScoringEngine

end Scoring

end TrueNorth

--------
-- Verdicts
--------

namespace TrueNorth

namespace Scoring

/- What an evaluation says of an objective. -/
inductive Verdict where
| judged (achieved : Bool) (points : Int)
| dependencyNotMet
| unscored (why : String)
deriving DecidableEq

def ObjectiveResult.verdict
    (result : ObjectiveResult) : Verdict :=
  match result.feedback with
  | .dependencyNotMet _ => .dependencyNotMet
  | _ => .judged result.achieved result.pointsAwarded

namespace ScoringResult

def verdict
    (scored : ScoringResult)
    (oid : String) : Option Verdict :=
  match scored.objectives.find? (fun r =>
      r.objectiveId = oid) with
  | some result => some result.verdict
  | none =>
      (scored.unscored.find? (fun u => u.1 = oid)).map
        (fun u => .unscored u.2)

/- The objective is achieved in the evaluation. -/
def achieved
    (scored : ScoringResult)
    (oid : String) : Bool :=
  match scored.verdict oid with
  | some (.judged achieved _) => achieved
  | _ => false

end ScoringResult

end Scoring

end TrueNorth
