import TrueNorth.Lib.Dict
import TrueNorth.Lib.Numbers
import TrueNorth.Lib.Runs

/-
  One user's attempts at one quiz (routers/quizzes.py).

  A start holds the lock on the quiz's row while it counts
  and adds its attempt.  A submit reads its attempt, counts
  the others that are open, counts all of them, and only
  then writes.  Each statement sees what was committed when
  it ran, and the requests interleave between statements.

  Key definitions include:
    * `Quiz`, `Attempt`, `questionResult`
    * `Request`, `World`, `Action`
    * `step`
-/

--------
-- Quizzes and Attempts
--------

namespace TrueNorth

namespace Quizzes

structure Question where
  id : String
  correct : List Int
  explanation : String
  points : Int
deriving DecidableEq

structure Quiz where
  questions : List Question
  passPct : Int
  -- 0 is untimed
  timeLimitMinutes : Nat
  -- 0 is unlimited
  maxAttempts : Nat
  isPublished : Bool

abbrev Answers : Type := Dict String (List Int)

/- An attempt taken here; times are in microseconds. -/
structure Attempt where
  id : Nat
  startedAt : Nat
  maxScore : Int
  submittedAt : Option Nat := none
  answers : Answers := Dict.empty
  score : Int := 0
  passed : Option Bool := none
deriving DecidableEq

namespace Attempt

/- Not submitted yet. -/
def isOpen (attempt : Attempt) : Bool :=
  attempt.submittedAt.isNone

end Attempt

/- `QuestionResultOut`. -/
structure QuestionResult where
  questionId : String
  correct : Option Bool
  selected : List Int
  correctOptions : List Int
  explanation : String
  pointsEarned : Option Int
  pointsPossible : Int
deriving DecidableEq

/- `AttemptResultOut`. -/
structure AttemptResult where
  attemptId : Nat
  score : Int
  maxScore : Int
  pct : Double
  passed : Bool
  results : List QuestionResult
  keyRevealed : Bool
  late : Bool
deriving DecidableEq

/- `sorted`. -/
def sorted (options : List Int) : List Int :=
  options.mergeSort (· ≤ ·)

/- `sorted(set(answers.get(qid, [])))`. -/
def selectedIn
    (answers : Answers)
    (question : Question) : List Int :=
  sorted ((answers.get? question.id).getD []).dedup

def isCorrect
    (answers : Answers)
    (question : Question) : Bool :=
  selectedIn answers question = sorted question.correct

def earned
    (answers : Answers)
    (question : Question) : Int :=
  if isCorrect answers question then question.points else 0

/- The result of a question, with its key or without. -/
def questionResult
    (reveal : Bool)
    (answers : Answers)
    (question : Question) : QuestionResult where
  questionId := question.id
  correct :=
    if reveal then some (isCorrect answers question) else none
  selected := selectedIn answers question
  correctOptions :=
    if reveal then sorted question.correct else []
  explanation := if reveal then question.explanation else ""
  pointsEarned :=
    if reveal then some (earned answers question) else none
  pointsPossible := question.points

namespace Quiz

def scoreOf
    (quiz : Quiz)
    (answers : Answers) : Int :=
  (quiz.questions.map (earned answers)).sum

def possible (quiz : Quiz) : Int :=
  (quiz.questions.map Question.points).sum

/- `attempt.max_score`, or the points of the questions. -/
def maxScoreOf
    (quiz : Quiz)
    (attempt : Attempt) : Int :=
  if attempt.maxScore = 0 then quiz.possible
  else attempt.maxScore

/- `score / max_score * 100`. -/
def pct
    (score maxScore : Int) : Double :=
  if maxScore = 0 then .finite 0
  else (Double.ofRat (score / maxScore)).mul (.finite 100)

/- `round(pct, 1)`. -/
def rounded :
    Double → Double
| .finite value =>
    .ofRat (Double.roundEven (value * 10) / 10)
| pct => pct

/- `_past_time_limit`, with a grace of 30 seconds. -/
def pastTimeLimit
    (quiz : Quiz)
    (now : Nat)
    (attempt : Attempt) : Bool :=
  quiz.timeLimitMinutes ≠ 0 &&
    decide ((quiz.timeLimitMinutes * 60 + 30) * 1000000 <
      now - attempt.startedAt)

/- What a submit answers. -/
def result
    (quiz : Quiz)
    (attempt : Attempt)
    (answers : Answers)
    (late reveal : Bool) : AttemptResult :=
  let score := quiz.scoreOf answers
  let maxScore := quiz.maxScoreOf attempt
  { attemptId := attempt.id
    score := score
    maxScore := maxScore
    pct := rounded (pct score maxScore)
    passed := !Number.lt (.float (pct score maxScore))
      (.int quiz.passPct)
    results := quiz.questions.map (questionResult reveal answers)
    keyRevealed := reveal
    late := late }

/- What a submit writes to its attempt. -/
def submitted
    (quiz : Quiz)
    (now : Nat)
    (answers : Answers)
    (attempt : Attempt) : Attempt :=
  let result := quiz.result attempt answers false false
  { attempt with
    answers := answers
    score := result.score
    passed := some result.passed
    submittedAt := some now }

end Quiz

end Quizzes

end TrueNorth

--------
-- Requests
--------

namespace TrueNorth

namespace Quizzes

/- How far a request has come. -/
inductive Request where
| unsent
-- `start_attempt`
| starting
| locked
| counted
-- `submit_attempt`
| submitting
    (attemptId : Nat)
    (answers : Answers)
| read
    (attempt : Attempt)
    (answers : Answers)
    (late : Bool)
| othersCounted
    (attempt : Attempt)
    (answers : Answers)
    (late : Bool)
    (othersOpen : Nat)
| decided
    (attempt : Attempt)
    (answers : Answers)
    (late reveal : Bool)
| marked (result : AttemptResult)
| finished
deriving DecidableEq

/-
  What a user sees of it, in order: a submit is sent, the
  attempt is marked, and a response carries the key.
-/
inductive Event where
| sent (request : Nat)
| marked (request attemptId : Nat)
| revealed (request : Nat)
deriving DecidableEq

/- `lock` is the request that holds the quiz's row. -/
structure World where
  attempts : List Attempt
  lock : Option Nat
  requests : Nat → Request
  now : Nat
  log : List Event

inductive Action where
| tick (elapsed : Nat)
| sendStart (r : Nat)
| lockQuiz (r : Nat)
| countPrior (r : Nat)
| addAttempt (r attemptId startedAt : Nat)
| sendSubmit (r attemptId : Nat) (answers : Answers)
| readAttempt (r : Nat)
| countOthers (r : Nat)
| countMine (r : Nat)
| mark (r : Nat)
| respond (r : Nat)
-- an error or a lost connection
| abort (r : Nat)

namespace World

def fresh : World where
  attempts := []
  lock := none
  requests := fun _ => .unsent
  now := 0
  log := []

/- The request is further on. -/
def setRequest
    (w : World)
    (r : Nat)
    (request : Request) : World :=
  { w with
    requests := fun r' =>
      if r' = r then request else w.requests r' }

@[simp] theorem setRequest_self
    (w : World)
    (r : Nat)
    (request : Request) :
    (w.setRequest r request).requests r = request := by
  simp [setRequest]

theorem setRequest_other
    (w : World)
    {r r' : Nat}
    (request : Request)
    (hOther : r' ≠ r) :
    (w.setRequest r request).requests r' = w.requests r' := by
  simp [setRequest, hOther]

/- The lock goes when its transaction ends. -/
def unlock
    (w : World)
    (r : Nat) : World :=
  { w with lock := if w.lock = some r then none else w.lock }

def logged
    (w : World)
    (e : Event) : World :=
  { w with log := w.log ++ [e] }

/- A quiz that is a draft or has no questions refuses. -/
def sendStart
    (quiz : Quiz)
    (w : World)
    (r : Nat) : World :=
  match w.requests r with
  | .unsent =>
      w.setRequest r
        (if quiz.isPublished && !quiz.questions.isEmpty
          then .starting else .finished)
  | _ => w

/- `with_for_update`, which waits for the lock. -/
def lockQuiz
    (quiz : Quiz)
    (w : World)
    (r : Nat) : World :=
  match w.requests r with
  | .starting =>
      if quiz.maxAttempts ≠ 0 && w.lock.isNone then
        { w.setRequest r .locked with lock := some r }
      else w
  | _ => w

/- `prior`: every attempt counts, open or submitted. -/
def countPrior
    (quiz : Quiz)
    (w : World)
    (r : Nat) : World :=
  match w.requests r with
  | .locked =>
      if quiz.maxAttempts ≤ w.attempts.length then
        (w.setRequest r .finished).unlock r
      else w.setRequest r .counted
  | _ => w

/- Only a quiz without a limit skips the lock and the count. -/
def mayAdd
    (quiz : Quiz) :
    Request → Bool
| .counted => true
| .starting => quiz.maxAttempts = 0
| _ => false

/- The attempt is added under a new id, and committed. -/
def addAttempt
    (quiz : Quiz)
    (w : World)
    (r attemptId startedAt : Nat) : World :=
  if mayAdd quiz (w.requests r) &&
      attemptId ∉ w.attempts.map Attempt.id then
    { (w.setRequest r .finished).unlock r with
      attempts := w.attempts ++
        [{ id := attemptId
           startedAt := startedAt
           maxScore := quiz.possible }] }
  else w

def sendSubmit
    (w : World)
    (r attemptId : Nat)
    (answers : Answers) : World :=
  match w.requests r with
  | .unsent =>
      (w.setRequest r (.submitting attemptId answers)).logged
        (.sent r)
  | _ => w

/- The attempt, unless it is unknown or submitted. -/
def readAttempt
    (quiz : Quiz)
    (w : World)
    (r : Nat) : World :=
  match w.requests r with
  | .submitting attemptId answers =>
      match w.attempts.find? (fun a => a.id = attemptId) with
      | none => w.setRequest r .finished
      | some attempt =>
          if attempt.isOpen then
            let late := quiz.pastTimeLimit w.now attempt
            w.setRequest r (.read attempt
              (if late then Dict.empty else answers) late)
          else w.setRequest r .finished
  | _ => w

/- The attempts besides this one that are open. -/
def othersOpen
    (w : World)
    (attempt : Attempt) : List Attempt :=
  w.attempts.filter (fun other =>
    other.id ≠ attempt.id && other.isOpen)

/- `_final_attempt`, up to `others_open`. -/
def countOthers
    (quiz : Quiz)
    (w : World)
    (r : Nat) : World :=
  match w.requests r with
  | .read attempt answers late =>
      if quiz.maxAttempts = 0 then
        w.setRequest r (.decided attempt answers late false)
      else
        w.setRequest r (.othersCounted attempt answers late
          (w.othersOpen attempt).length)
  | _ => w

/- `_final_attempt`, from `mine.count()`. -/
def countMine
    (quiz : Quiz)
    (w : World)
    (r : Nat) : World :=
  match w.requests r with
  | .othersCounted attempt answers late othersOpen =>
      w.setRequest r (.decided attempt answers late
        (decide (quiz.maxAttempts ≤ w.attempts.length) &&
          othersOpen = 0))
  | _ => w

/- The attempt is marked, and committed. -/
def mark
    (quiz : Quiz)
    (w : World)
    (r : Nat) : World :=
  match w.requests r with
  | .decided attempt answers late reveal =>
      ({ w.setRequest r (.marked
          (quiz.result attempt answers late reveal)) with
        attempts := w.attempts.map (fun other : Attempt =>
          if other.id = attempt.id then
            quiz.submitted w.now answers other
          else other) }).logged (.marked r attempt.id)
  | _ => w

def respond
    (w : World)
    (r : Nat) : World :=
  match w.requests r with
  | .marked result =>
      let w := w.setRequest r .finished
      if result.keyRevealed then w.logged (.revealed r) else w
  | _ => w

def abort
    (w : World)
    (r : Nat) : World :=
  match w.requests r with
  | .unsent => w
  | _ => (w.setRequest r .finished).unlock r

end World

def step
    (quiz : Quiz)
    (w : World) :
    Action → World
| .tick elapsed => { w with now := w.now + elapsed }
| .sendStart r => w.sendStart quiz r
| .lockQuiz r => w.lockQuiz quiz r
| .countPrior r => w.countPrior quiz r
| .addAttempt r attemptId startedAt =>
    w.addAttempt quiz r attemptId startedAt
| .sendSubmit r attemptId answers =>
    w.sendSubmit r attemptId answers
| .readAttempt r => w.readAttempt quiz r
| .countOthers r => w.countOthers quiz r
| .countMine r => w.countMine quiz r
| .mark r => w.mark quiz r
| .respond r => w.respond r
| .abort r => w.abort r

end Quizzes

end TrueNorth
