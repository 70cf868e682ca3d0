import Mathlib.Data.List.Dedup
import TrueNorth.Quizzes.Attempts

/-
  The questions of a quiz as an author sends them and as they
  are saved (routers/quizzes.py, models.py).

  Key definitions include:
    * `QuestionIn`, `QuestionIn.accepts`
    * `validateQuestion`
    * `QuizQuestion`, `saved`
-/

--------
-- Questions
--------

namespace TrueNorth

namespace Quizzes

inductive QuestionType where
| mcq
| multi
| truefalse
| scenario
deriving DecidableEq

structure QuestionIn where
  questionType : QuestionType := .mcq
  stem : String
  options : List String
  correct : List Int
  explanation : String := ""
  competencyCode : String := ""
  difficulty : String := "intermediate"
  points : Int := 10
deriving DecidableEq

/- The bounds of the fields. -/
def QuestionIn.accepts (q : QuestionIn) : Bool :=
  3 ≤ q.stem.length &&
    (2 ≤ q.options.length && q.options.length ≤ 8) &&
    q.correct ≠ [] && (1 ≤ q.points && q.points ≤ 100)

/- `_validate_question`: the text of the 422, if it raises. -/
def validateQuestion (q : QuestionIn) : Except String Unit :=
  if q.correct.any (fun i => i < 0 || q.options.length ≤ i) then
    .error
      "Correct indices out of range for the provided options."
  else if q.questionType = .truefalse && q.options.length ≠ 2 then
    .error "truefalse questions need exactly 2 options."
  else if q.questionType = .mcq && q.correct.length ≠ 1 then
    .error "mcq questions need exactly one correct option."
  else .ok ()

/- A question the API takes. -/
def QuestionIn.isValid (q : QuestionIn) : Bool :=
  q.accepts && (validateQuestion q).isOk

/- A row of `quiz_questions`, its JSON fields read. -/
structure QuizQuestion where
  id : String
  ordinal : Nat
  questionType : QuestionType
  stem : String
  options : List String
  correct : List Int
  explanation : String
  competencyCode : String
  difficulty : String
  points : Int
deriving DecidableEq

/- What marking reads of it. -/
def QuizQuestion.asked (q : QuizQuestion) : Question where
  id := q.id
  correct := q.correct
  explanation := q.explanation
  points := q.points

/- The row of a question, under a new id. -/
def saved
    (id : String)
    (ordinal : Nat)
    (q : QuestionIn) : QuizQuestion where
  id := id
  ordinal := ordinal
  questionType := q.questionType
  stem := q.stem
  options := q.options
  correct := sorted q.correct.dedup
  explanation := q.explanation
  competencyCode := q.competencyCode
  difficulty := q.difficulty
  points := q.points

/- The rows of the questions that are sent, with their ids. -/
def savedAll
    (ids : List String)
    (body : List QuestionIn) : List QuizQuestion :=
  (ids.zip body).zipIdx.map (fun p => saved p.1.1 p.2 p.1.2)

theorem QuestionIn.points_of_isValid
    {q : QuestionIn}
    (hValid : q.isValid = true) :
    1 ≤ q.points ∧ q.points ≤ 100 := by
  unfold QuestionIn.isValid QuestionIn.accepts at hValid
  simp only [Bool.and_eq_true, decide_eq_true_eq] at hValid
  exact hValid.1.2

theorem ids_savedAll
    {ids : List String}
    {body : List QuestionIn}
    (hLength : ids.length = body.length) :
    (savedAll ids body).map QuizQuestion.id = ids := by
  unfold savedAll
  rw [List.map_map]
  have hIds : (ids.zip body).zipIdx.map
      (QuizQuestion.id ∘ fun p => saved p.1.1 p.2 p.1.2) =
        ((ids.zip body).zipIdx.map Prod.fst).map Prod.fst := by
    rw [List.map_map]
    rfl
  rw [hIds, List.zipIdx_map_fst,
    List.map_fst_zip (Nat.le_of_eq hLength)]

theorem mem_savedAll
    {ids : List String}
    {body : List QuestionIn}
    {row : QuizQuestion}
    (hMem : row ∈ savedAll ids body) :
    ∃ id ordinal, ∃ q ∈ body, row = saved id ordinal q := by
  rcases List.mem_map.mp hMem with ⟨⟨⟨id, q⟩, i⟩, hIn, rfl⟩
  have hPair := List.mem_map_of_mem (f := Prod.fst) hIn
  rw [List.zipIdx_map_fst] at hPair
  exact ⟨id, i, q, (List.of_mem_zip hPair).2, rfl⟩

end Quizzes

end TrueNorth
