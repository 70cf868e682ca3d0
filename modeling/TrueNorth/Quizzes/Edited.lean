import Mathlib.Data.List.Sort
import Mathlib.Algebra.Order.BigOperators.Group.List
import TrueNorth.Lib.Rounding
import TrueNorth.Quizzes.Questions

/-
  One user's attempts at a quiz whose questions an author
  replaces meanwhile (routers/quizzes.py).

  A start loads the questions and adds an attempt with the
  sum of their points; a submit loads its attempt, then the
  questions there are by now, and marks by these; a
  replacement loads the questions it deletes, then deletes
  them and saves others.  The requests interleave between
  these statements.

  Key definitions include:
    * `Sitting`, `Editing`, `Act`
    * `act`
    * `Fair`
    * `SameQuestions`
    * `Editing.Inv`

  Main theorems:
    * `fair_of_perm`
    * `act_inv`
    * `marked_fair`
-/

--------
-- Attempts And Edits
--------

namespace TrueNorth

namespace Quizzes

/-
  A row of `quiz_attempts`.  `posed` is what `max_score` was
  computed from, which no code reads.
-/
structure Sitting extends Attempt where
  questionOrder : List String
  posed : List QuizQuestion
deriving DecidableEq

/- How far a request has come. -/
inductive Edit where
| unsent
-- `start_attempt`
| starting (questions : List QuizQuestion)
-- `submit_attempt`
| submitting (attemptId : Nat) (answers : Answers)
| read (sitting : Sitting) (answers : Answers)
| loaded
    (attemptId : Nat)
    (answers : Answers)
    (questions : List QuizQuestion)
-- `replace_questions`
| replacing (removed : List String) (body : List QuestionIn)
| finished
deriving DecidableEq

/- `issued` is every question ever saved, which no code reads. -/
structure Editing where
  questions : List QuizQuestion
  sittings : List Sitting
  requests : Nat → Edit
  now : Nat
  issued : List QuizQuestion

inductive Act where
| tick (elapsed : Nat)
| sendStart (r : Nat)
| addAttempt (r attemptId startedAt : Nat) (order : List String)
| sendSubmit (r attemptId : Nat) (answers : Answers)
| readAttempt (r : Nat)
| loadQuestions (r : Nat)
| mark (r : Nat)
| sendReplace (r : Nat) (body : List QuestionIn)
| saveQuestions (r : Nat) (ids : List String)
-- an error or a lost connection
| abort (r : Nat)

/- The quiz, with these questions. -/
def Quiz.posing
    (quiz : Quiz)
    (questions : List QuizQuestion) : Quiz :=
  { quiz with questions := questions.map QuizQuestion.asked }

namespace Editing

/- A quiz that has no questions yet. -/
def fresh : Editing where
  questions := []
  sittings := []
  requests := fun _ => .unsent
  now := 0
  issued := []

def setRequest
    (w : Editing)
    (r : Nat)
    (request : Edit) : Editing :=
  { w with
    requests := fun r' =>
      if r' = r then request else w.requests r' }

/- `quiz.questions`, ordered by `ordinal`. -/
def load (w : Editing) : List QuizQuestion :=
  w.questions.insertionSort (fun q q' => q.ordinal ≤ q'.ordinal)

variable (quiz : Quiz)
variable (w : Editing)

def sendStart (r : Nat) : Editing :=
  match w.requests r with
  | .unsent =>
      w.setRequest r
        (if quiz.isPublished && !w.load.isEmpty
          then .starting w.load else .finished)
  | _ => w

/-
  The count of the attempts and the new one are under one
  lock.  `order` is the questions as they were shuffled.
-/
def addAttempt
    (r attemptId startedAt : Nat)
    (order : List String) : Editing :=
  match w.requests r with
  | .starting questions =>
      if quiz.maxAttempts ≠ 0 &&
          quiz.maxAttempts ≤ w.sittings.length then
        w.setRequest r .finished
      else if attemptId ∉ w.sittings.map (fun s => s.id) &&
          order.isPerm (questions.map QuizQuestion.id) then
        { w.setRequest r .finished with
          sittings := w.sittings ++
            [{ id := attemptId
               startedAt := startedAt
               maxScore := (quiz.posing questions).possible
               questionOrder := order
               posed := questions }] }
      else w
  | _ => w

def sendSubmit
    (r attemptId : Nat)
    (answers : Answers) : Editing :=
  match w.requests r with
  | .unsent => w.setRequest r (.submitting attemptId answers)
  | _ => w

/- The attempt, unless it is unknown or submitted. -/
def readAttempt (r : Nat) : Editing :=
  match w.requests r with
  | .submitting attemptId answers =>
      match w.sittings.find? (fun s => s.id = attemptId) with
      | none => w.setRequest r .finished
      | some sitting =>
          if sitting.isOpen then
            w.setRequest r (.read sitting answers)
          else w.setRequest r .finished
  | _ => w

/- The questions there are now, and whether it is too late. -/
def loadQuestions (r : Nat) : Editing :=
  match w.requests r with
  | .read sitting answers =>
      let late := quiz.pastTimeLimit w.now sitting.toAttempt
      w.setRequest r (.loaded sitting.id
        (if late then Dict.empty else answers) w.load)
  | _ => w

/- The attempt is marked, and committed. -/
def mark (r : Nat) : Editing :=
  match w.requests r with
  | .loaded attemptId answers questions =>
      { w.setRequest r .finished with
        sittings := w.sittings.map (fun s : Sitting =>
          if s.id = attemptId then
            { s with
              toAttempt := (quiz.posing questions).submitted
                w.now answers s.toAttempt }
          else s) }
  | _ => w

def sendReplace
    (r : Nat)
    (body : List QuestionIn) : Editing :=
  match w.requests r with
  | .unsent =>
      w.setRequest r
        (if body.all QuestionIn.accepts then
          .replacing (w.load.map QuizQuestion.id) body
        else .finished)
  | _ => w

/- Every new question has an id that none had before. -/
def saveQuestions
    (r : Nat)
    (ids : List String) : Editing :=
  match w.requests r with
  | .replacing removed body =>
      if !body.all QuestionIn.isValid then w.setRequest r .finished
      else if ids.length = body.length && ids.dedup = ids &&
          ids.all (fun id =>
            !(w.issued.map QuizQuestion.id).contains id) then
        let added := savedAll ids body
        { w.setRequest r .finished with
          questions := w.questions.filter (fun q =>
            !removed.contains q.id) ++ added
          issued := w.issued ++ added }
      else w
  | _ => w

def abort (r : Nat) : Editing :=
  match w.requests r with
  | .unsent => w
  | _ => w.setRequest r .finished

end Editing

def act
    (quiz : Quiz)
    (w : Editing) :
    Act → Editing
| .tick elapsed => { w with now := w.now + elapsed }
| .sendStart r => w.sendStart quiz r
| .addAttempt r attemptId startedAt order =>
    w.addAttempt quiz r attemptId startedAt order
| .sendSubmit r attemptId answers =>
    w.sendSubmit r attemptId answers
| .readAttempt r => w.readAttempt r
| .loadQuestions r => w.loadQuestions quiz r
| .mark r => w.mark quiz r
| .sendReplace r body => w.sendReplace r body
| .saveQuestions r ids => w.saveQuestions r ids
| .abort r => w.abort r

--------
-- Fair Marks
--------

/- The points of the questions that were answered right. -/
def gained
    (questions : List QuizQuestion)
    (answers : Answers) : Int :=
  (questions.map (fun q => earned answers q.asked)).sum

/- The points of the questions. -/
def worth (questions : List QuizQuestion) : Int :=
  (questions.map QuizQuestion.points).sum

/-
  The score is within the maximum and the percentage within
  a hundred, and both are of the same questions.
-/
structure Fair (s : Sitting) : Prop where
  nonneg : 0 ≤ s.score
  within : s.score ≤ s.maxScore
  percent : ∃ p, Quiz.rounded (Quiz.pct s.score s.maxScore) =
    .finite p ∧ 0 ≤ p ∧ p ≤ 100
  scored : s.score = gained s.posed s.answers
  highest : s.maxScore = worth s.posed

theorem scoreOf_posing
    (quiz : Quiz)
    (questions : List QuizQuestion)
    (answers : Answers) :
    (quiz.posing questions).scoreOf answers =
      gained questions answers := by
  unfold Quiz.scoreOf Quiz.posing gained
  rw [List.map_map]
  rfl

theorem possible_posing
    (quiz : Quiz)
    (questions : List QuizQuestion) :
    (quiz.posing questions).possible = worth questions := by
  unfold Quiz.possible Quiz.posing worth
  rw [List.map_map]
  rfl

theorem gained_perm
    {questions questions' : List QuizQuestion}
    (hPerm : questions.Perm questions')
    (answers : Answers) :
    gained questions answers = gained questions' answers :=
  (hPerm.map _).sum_eq

theorem earned_within
    {q : QuizQuestion}
    (hPoints : 1 ≤ q.points)
    (answers : Answers) :
    0 ≤ earned answers q.asked ∧
      earned answers q.asked ≤ q.points := by
  have hAsked : q.asked.points = q.points := rfl
  unfold earned
  rw [hAsked]
  split <;> omega

/- What is gained is at most what the questions are worth. -/
theorem gained_within
    {questions : List QuizQuestion}
    (hPoints : ∀ q ∈ questions, 1 ≤ q.points)
    (answers : Answers) :
    0 ≤ gained questions answers ∧
      gained questions answers ≤ worth questions := by
  induction questions with
  | nil => exact ⟨Int.le_refl 0, Int.le_refl 0⟩
  | cons q questions ih =>
      have hRest := ih (fun q' hMem =>
        hPoints q' (List.mem_cons_of_mem q hMem))
      have hFirst := earned_within
        (hPoints q List.mem_cons_self) answers
      unfold gained worth at hRest ⊢
      rw [List.map_cons, List.map_cons, List.sum_cons,
        List.sum_cons]
      omega

/- A score within the maximum is within a hundred percent. -/
theorem percent_within
    {score maxScore : Int}
    (hScore : 0 ≤ score)
    (hLe : score ≤ maxScore) :
    ∃ p, Quiz.rounded (Quiz.pct score maxScore) = .finite p ∧
      0 ≤ p ∧ p ≤ 100 := by
  have hRounded (x : Rat) (hx : 0 ≤ x) (hx' : x ≤ 100) :
      ∃ p, Quiz.rounded (.finite x) = .finite p ∧
        0 ≤ p ∧ p ≤ 100 := by
    have hTens : (Double.roundEven (x * 10) : Rat) ≤ 1000 := by
      have hInt : Double.roundEven (x * 10) ≤ 1000 := by
        apply Double.roundEven_le_int
        push_cast
        linarith
      exact_mod_cast hInt
    have hNonneg : (0 : Rat) ≤ Double.roundEven (x * 10) := by
      have hInt := Double.roundEven_nonneg
        (show (0 : Rat) ≤ x * 10 by linarith)
      exact_mod_cast hInt
    exact Double.ofRat_le_nat (b := 100) (by linarith)
      (by push_cast; linarith) (by norm_num)
  unfold Quiz.pct
  split
  · exact hRounded 0 le_rfl (by norm_num)
  · rename_i hSome
    have hScore' : (0 : Rat) ≤ score := by exact_mod_cast hScore
    have hLe' : (score : Rat) ≤ maxScore := by exact_mod_cast hLe
    have hMax : (0 : Rat) < maxScore := by
      have hInt : 0 < maxScore := by omega
      exact_mod_cast hInt
    rcases Double.ofRat_le_nat (b := 1)
        (div_nonneg hScore' hMax.le)
        (by
          push_cast
          exact (div_le_one hMax).mpr hLe') (by norm_num) with
      ⟨v, hv, hv0, hv1⟩
    push_cast at hv1
    rw [hv]
    rcases Double.ofRat_le_nat (q := v * 100) (b := 100)
        (by linarith) (by push_cast; linarith) (by norm_num) with
      ⟨u, hu, hu0, hu1⟩
    push_cast at hu1
    have hMul : Double.mul (.finite v) (.finite 100) = .finite u :=
      hu
    rw [hMul]
    exact hRounded u hu0 hu1

/- Marked by the questions it posed, an attempt is fair. -/
theorem fair_of_perm
    (quiz : Quiz)
    {s : Sitting}
    {questions : List QuizQuestion}
    (hPerm : questions.Perm s.posed)
    (hPoints : ∀ q ∈ s.posed, 1 ≤ q.points)
    (hMax : s.maxScore = worth s.posed)
    (now : Nat)
    (answers : Answers) :
    Fair { s with
      toAttempt := (quiz.posing questions).submitted now answers
        s.toAttempt } := by
  have hScore : (quiz.posing questions).scoreOf answers =
      gained s.posed answers := by
    rw [scoreOf_posing, gained_perm hPerm]
  have hWithin := gained_within hPoints answers
  have hLe : (quiz.posing questions).scoreOf answers ≤
      s.maxScore := by
    rw [hScore, hMax]
    exact hWithin.2
  have hNonneg : 0 ≤ (quiz.posing questions).scoreOf answers := by
    rw [hScore]
    exact hWithin.1
  exact
    { nonneg := hNonneg
      within := hLe
      percent := percent_within hNonneg hLe
      scored := hScore
      highest := hMax }

--------
-- What Every Step Keeps
--------

/- Different questions that were saved. -/
def Editing.Drawn
    (w : Editing)
    (questions : List QuizQuestion) : Prop :=
  (questions.map QuizQuestion.id).Nodup ∧
    ∀ q ∈ questions, q ∈ w.issued

/- The same attempt, marked or not. -/
def Sitting.Same (s s' : Sitting) : Prop :=
  s'.id = s.id ∧ s'.questionOrder = s.questionOrder ∧
    s'.posed = s.posed

/- What a request knows of the attempts and questions. -/
def Editing.Knows
    (w : Editing) :
    Edit → Prop
| .starting questions => w.Drawn questions
| .read sitting _ => ∃ s ∈ w.sittings, sitting.Same s
| .loaded attemptId _ questions =>
    ∃ s ∈ w.sittings, s.id = attemptId ∧ questions.Perm s.posed
| _ => True

/- A row of an attempt, as its start left it or marked. -/
structure Editing.Kept
    (w : Editing)
    (s : Sitting) : Prop where
  drawn : w.Drawn s.posed
  ordered : s.questionOrder.Perm (s.posed.map QuizQuestion.id)
  highest : s.maxScore = worth s.posed
  marked : s.submittedAt.isSome = true → Fair s

structure Editing.Inv (w : Editing) : Prop where
  ids : (w.issued.map QuizQuestion.id).Nodup
  points : ∀ q ∈ w.issued, 1 ≤ q.points
  current : w.Drawn w.questions
  sittingIds : (w.sittings.map (fun s => s.id)).Nodup
  sittings : ∀ s ∈ w.sittings, w.Kept s
  requests : ∀ r, w.Knows (w.requests r)

/- The questions are those the attempt was started with. -/
def Unchanged
    (questions : List QuizQuestion) :
    Edit → Prop
| .read sitting _ =>
    (questions.map QuizQuestion.id).Perm sitting.questionOrder
| _ => True

instance
    (questions : List QuizQuestion) :
    ∀ request, Decidable (Unchanged questions request)
| .read sitting _ =>
    inferInstanceAs (Decidable
      ((questions.map QuizQuestion.id).Perm sitting.questionOrder))
| .unsent => .isTrue trivial
| .starting _ => .isTrue trivial
| .submitting .. => .isTrue trivial
| .loaded .. => .isTrue trivial
| .replacing .. => .isTrue trivial
| .finished => .isTrue trivial

/-
  Where a submit loads the questions, they are those its
  attempt was started with, by their ids.
-/
def SameQuestions
    (w : Editing) :
    Act → Prop
| .loadQuestions r => Unchanged w.questions (w.requests r)
| _ => True

instance (w : Editing) : ∀ a, Decidable (SameQuestions w a)
| .loadQuestions r =>
    inferInstanceAs (Decidable (Unchanged w.questions (w.requests r)))
| .tick _ => .isTrue trivial
| .sendStart _ => .isTrue trivial
| .addAttempt .. => .isTrue trivial
| .sendSubmit .. => .isTrue trivial
| .readAttempt _ => .isTrue trivial
| .mark _ => .isTrue trivial
| .sendReplace .. => .isTrue trivial
| .saveQuestions .. => .isTrue trivial
| .abort _ => .isTrue trivial

namespace Editing

variable {w w' : Editing}

theorem Drawn.mono
    {questions : List QuizQuestion}
    (hDrawn : w.Drawn questions)
    (hIssued : ∀ q ∈ w.issued, q ∈ w'.issued) :
    w'.Drawn questions :=
  ⟨hDrawn.1, fun q hMem => hIssued q (hDrawn.2 q hMem)⟩

theorem Kept.mono
    {s : Sitting}
    (hKept : w.Kept s)
    (hIssued : ∀ q ∈ w.issued, q ∈ w'.issued) : w'.Kept s :=
  { hKept with drawn := hKept.drawn.mono hIssued }

/- What is known stays so when no row is taken away. -/
theorem Knows.mono
    {request : Edit}
    (hKnows : w.Knows request)
    (hIssued : ∀ q ∈ w.issued, q ∈ w'.issued)
    (hSittings : ∀ s ∈ w.sittings, ∃ s' ∈ w'.sittings, s.Same s') :
    w'.Knows request := by
  cases request with
  | starting questions => exact Drawn.mono hKnows hIssued
  | read sitting answers =>
      rcases hKnows with ⟨s, hMem, hSame⟩
      rcases hSittings s hMem with ⟨s', hMem', hSame'⟩
      exact ⟨s', hMem', hSame'.1.trans hSame.1,
        hSame'.2.1.trans hSame.2.1, hSame'.2.2.trans hSame.2.2⟩
  | loaded attemptId answers questions =>
      rcases hKnows with ⟨s, hMem, hId, hPerm⟩
      rcases hSittings s hMem with ⟨s', hMem', hSame⟩
      refine ⟨s', hMem', hSame.1.trans hId, ?_⟩
      rw [hSame.2.2]
      exact hPerm
  | _ => trivial

/- Questions that were saved are told apart by their ids. -/
theorem Drawn.perm
    {questions questions' : List QuizQuestion}
    (hIds : (w.issued.map QuizQuestion.id).Nodup)
    (hDrawn : w.Drawn questions)
    (hDrawn' : w.Drawn questions')
    (hPerm : (questions.map QuizQuestion.id).Perm
      (questions'.map QuizQuestion.id)) :
    questions.Perm questions' := by
  have hOne {qs qs' : List QuizQuestion}
      (hQs : w.Drawn qs) (hQs' : w.Drawn qs')
      (hSub : ∀ id ∈ qs.map QuizQuestion.id,
        id ∈ qs'.map QuizQuestion.id) :
      ∀ q ∈ qs, q ∈ qs' := by
    intro q hMem
    rcases List.mem_map.mp (hSub q.id (List.mem_map_of_mem hMem)) with
      ⟨q', hMem', hSame⟩
    have hEq := List.inj_on_of_nodup_map hIds (hQs'.2 q' hMem')
      (hQs.2 q hMem) hSame
    exact hEq ▸ hMem'
  apply (List.perm_ext_iff_of_nodup hDrawn.1.of_map
    hDrawn'.1.of_map).mpr
  intro q
  constructor
  · exact hOne hDrawn hDrawn' (fun id => hPerm.mem_iff.mp) q
  · exact hOne hDrawn' hDrawn (fun id => hPerm.mem_iff.mpr) q

theorem perm_load (w : Editing) : w.load.Perm w.questions :=
  List.perm_insertionSort _ _

theorem Inv.drawn_load
    (hInv : w.Inv) : w.Drawn w.load := by
  refine ⟨?_, ?_⟩
  · exact (w.perm_load.map _).nodup_iff.mpr hInv.current.1
  · intro q hMem
    exact hInv.current.2 q (w.perm_load.mem_iff.mp hMem)

theorem fresh_inv : fresh.Inv :=
  { ids := List.nodup_nil
    points := fun _ hMem => nomatch hMem
    current := ⟨List.nodup_nil, fun _ hMem => nomatch hMem⟩
    sittingIds := List.nodup_nil
    sittings := fun _ hMem => nomatch hMem
    requests := fun _ => trivial }

/- A request goes on with what it knows. -/
theorem setRequest_inv
    (hInv : w.Inv)
    (r : Nat)
    {request : Edit}
    (hKnows : w.Knows request) : (w.setRequest r request).Inv :=
  { hInv with
    sittings := fun s hMem =>
      (hInv.sittings s hMem).mono (fun _ hIn => hIn)
    requests := by
      intro r'
      have hOld := hInv.requests r'
      unfold setRequest
      simp only
      split
      · exact hKnows
      · exact hOld }

--------
-- Every Step
--------

variable {quiz : Quiz}
variable {w : Editing}

theorem sendStart_inv
    (hInv : w.Inv)
    (r : Nat) : (w.sendStart quiz r).Inv := by
  unfold sendStart
  split
  · apply setRequest_inv hInv
    split
    · exact hInv.drawn_load
    · trivial
  · exact hInv

theorem addAttempt_inv
    (hInv : w.Inv)
    (r attemptId startedAt : Nat)
    (order : List String) :
    (w.addAttempt quiz r attemptId startedAt order).Inv := by
  unfold addAttempt
  split
  · rename_i questions hStarting
    have hDrawn : w.Drawn questions := by
      have hKnows := hInv.requests r
      rw [hStarting] at hKnows
      exact hKnows
    split
    · exact setRequest_inv hInv r trivial
    split
    · rename_i hFree
      rw [Bool.and_eq_true, decide_eq_true_eq, List.isPerm_iff]
        at hFree
      have hFinished : w.Knows .finished := trivial
      have hSet := setRequest_inv hInv r hFinished
      refine
        { hSet with
          sittingIds := ?_
          sittings := ?_
          requests := ?_ }
      · rw [List.map_append, List.map_singleton,
          List.nodup_append]
        refine ⟨hInv.sittingIds, List.nodup_singleton _, ?_⟩
        rintro id hOld id' hNew rfl
        rw [List.mem_singleton.mp hNew] at hOld
        exact hFree.1 hOld
      · intro s hMem
        rcases List.mem_append.mp hMem with hOld | hNew
        · exact (hInv.sittings s hOld).mono (fun _ hIn => hIn)
        · rw [List.mem_singleton.mp hNew]
          exact
            { drawn := hDrawn
              ordered := hFree.2
              highest := possible_posing quiz questions
              marked := fun hSome => nomatch hSome }
      · intro r'
        refine (hSet.requests r').mono (fun _ hIn => hIn) ?_
        intro s hMem
        exact ⟨s, List.mem_append_left _ hMem, rfl, rfl, rfl⟩
    · exact hInv
  · exact hInv

theorem readAttempt_inv
    (hInv : w.Inv)
    (r : Nat) : (w.readAttempt r).Inv := by
  unfold readAttempt
  split
  · split
    · exact setRequest_inv hInv r trivial
    · rename_i sitting hFound
      split
      · apply setRequest_inv hInv
        exact ⟨sitting, List.mem_of_find?_eq_some hFound,
          rfl, rfl, rfl⟩
      · exact setRequest_inv hInv r trivial
  · exact hInv

/- Here the condition is used: the ids say which they are. -/
theorem loadQuestions_inv
    (hInv : w.Inv)
    {r : Nat}
    (hSame : SameQuestions w (.loadQuestions r)) :
    (w.loadQuestions quiz r).Inv := by
  unfold loadQuestions
  split
  · rename_i sitting answers hRead
    apply setRequest_inv hInv
    have hKnows := hInv.requests r
    rw [hRead] at hKnows
    rcases hKnows with ⟨s, hMem, hId, hOrder, -⟩
    refine ⟨s, hMem, hId, ?_⟩
    have hKept := hInv.sittings s hMem
    apply Drawn.perm hInv.ids hInv.drawn_load hKept.drawn
    have hIds : (w.questions.map QuizQuestion.id).Perm
        sitting.questionOrder := by
      have hIds : Unchanged w.questions (w.requests r) := hSame
      rw [hRead] at hIds
      exact hIds
    rw [← hOrder] at hIds
    exact (w.perm_load.map _).trans (hIds.trans hKept.ordered)
  · exact hInv

theorem mark_inv
    (hInv : w.Inv)
    (r : Nat) : (w.mark quiz r).Inv := by
  unfold mark
  split
  · rename_i attemptId answers questions hLoaded
    have hKnows := hInv.requests r
    rw [hLoaded] at hKnows
    rcases hKnows with ⟨marked, hMarked, hId, hPerm⟩
    have hFinished : w.Knows .finished := trivial
    have hSet := setRequest_inv hInv r hFinished
    refine
      { hSet with
        sittingIds := ?_
        sittings := ?_
        requests := ?_ }
    · rw [List.map_map]
      have hSame : w.sittings.map (fun s => s.id) =
          w.sittings.map ((fun s : Sitting => s.id) ∘ fun s =>
            if s.id = attemptId then
              { s with
                toAttempt := (quiz.posing questions).submitted
                  w.now answers s.toAttempt }
            else s) := by
        apply List.map_congr_left
        intro s _
        simp only [Function.comp_apply]
        split <;> rfl
      rw [← hSame]
      exact hInv.sittingIds
    · intro s' hMem
      rcases List.mem_map.mp hMem with ⟨s, hs, rfl⟩
      have hKept := hInv.sittings s hs
      split
      · rename_i hThis
        have hEq : s = marked :=
          List.inj_on_of_nodup_map hInv.sittingIds hs hMarked
            (hThis.trans hId.symm)
        have hPoints : ∀ q ∈ s.posed, 1 ≤ q.points :=
          fun q hIn => hInv.points q (hKept.drawn.2 q hIn)
        exact
          { drawn := hKept.drawn
            ordered := hKept.ordered
            highest := hKept.highest
            marked := fun _ =>
              fair_of_perm quiz (hEq ▸ hPerm) hPoints
                hKept.highest w.now answers }
      · exact hKept.mono (fun _ hIn => hIn)
    · intro r'
      refine (hSet.requests r').mono (fun _ hIn => hIn) ?_
      intro s hMem
      refine ⟨_, List.mem_map_of_mem hMem, ?_⟩
      split
      · exact ⟨rfl, rfl, rfl⟩
      · exact ⟨rfl, rfl, rfl⟩
  · exact hInv

theorem saveQuestions_inv
    (hInv : w.Inv)
    (r : Nat)
    (ids : List String) : (w.saveQuestions r ids).Inv := by
  unfold saveQuestions
  split
  · rename_i removed body hReplacing
    split
    · exact setRequest_inv hInv r trivial
    rename_i hValid
    split
    · rename_i hNew
      simp only [Bool.and_eq_true, decide_eq_true_eq,
        List.all_eq_true, Bool.not_eq_true'] at hNew
      rcases hNew with ⟨⟨hLength, hDistinct⟩, hFresh⟩
      have hIds := ids_savedAll hLength
      have hNodup : ids.Nodup := by
        rw [← hDistinct]
        exact List.nodup_dedup ids
      have hApart : ∀ id ∈ ids,
          id ∉ w.issued.map QuizQuestion.id := by
        intro id hMem hOld
        have hNot := hFresh id hMem
        rw [List.contains_iff_mem.mpr hOld] at hNot
        cases hNot
      have hIssued : ∀ q ∈ w.issued,
          q ∈ w.issued ++ savedAll ids body :=
        fun q hMem => List.mem_append_left _ hMem
      have hFinished : w.Knows .finished := trivial
      have hSet := setRequest_inv hInv r hFinished
      refine
        { hSet with
          ids := ?_
          points := ?_
          current := ⟨?_, ?_⟩
          sittings := ?_
          requests := ?_ }
      · rw [List.map_append, hIds, List.nodup_append]
        refine ⟨hInv.ids, hNodup, ?_⟩
        rintro id hOld id' hMem rfl
        exact hApart id hMem hOld
      · intro q hMem
        rcases List.mem_append.mp hMem with hOld | hAdded
        · exact hInv.points q hOld
        · rcases mem_savedAll hAdded with ⟨id, i, q', hIn, rfl⟩
          have hAll : body.all QuestionIn.isValid = true := by
            simpa using hValid
          exact (QuestionIn.points_of_isValid
            (List.all_eq_true.mp hAll q' hIn)).1
      · rw [List.map_append, hIds, List.nodup_append]
        refine ⟨hInv.current.1.sublist
          (List.filter_sublist.map _), hNodup, ?_⟩
        rintro id hOld id' hMem rfl
        rcases List.mem_map.mp hOld with ⟨q, hq, rfl⟩
        exact hApart q.id hMem (List.mem_map_of_mem
          (hInv.current.2 q (List.mem_filter.mp hq).1))
      · intro q hMem
        rcases List.mem_append.mp hMem with hOld | hAdded
        · exact hIssued q
            (hInv.current.2 q (List.mem_filter.mp hOld).1)
        · exact List.mem_append_right _ hAdded
      · intro s hMem
        exact (hInv.sittings s hMem).mono hIssued
      · intro r'
        refine (hSet.requests r').mono hIssued ?_
        intro s hMem
        exact ⟨s, hMem, rfl, rfl, rfl⟩
    · exact hInv
  · exact hInv

/- A step that loads the right questions keeps it all. -/
theorem act_inv
    (a : Act)
    (hSame : SameQuestions w a)
    (hInv : w.Inv) : (act quiz w a).Inv := by
  cases a with
  | tick elapsed =>
      exact
        { hInv with
          sittings := fun s hMem =>
            (hInv.sittings s hMem).mono (fun _ hIn => hIn) }
  | sendStart r => exact sendStart_inv hInv r
  | addAttempt r attemptId startedAt order =>
      exact addAttempt_inv hInv r attemptId startedAt order
  | sendSubmit r attemptId answers =>
      change (w.sendSubmit r attemptId answers).Inv
      unfold sendSubmit
      split
      · exact setRequest_inv hInv r trivial
      · exact hInv
  | readAttempt r => exact readAttempt_inv hInv r
  | loadQuestions r => exact loadQuestions_inv hInv hSame
  | mark r => exact mark_inv hInv r
  | sendReplace r body =>
      change (w.sendReplace r body).Inv
      unfold sendReplace
      split
      · apply setRequest_inv hInv
        split <;> trivial
      · exact hInv
  | saveQuestions r ids => exact saveQuestions_inv hInv r ids
  | abort r =>
      change (w.abort r).Inv
      unfold abort
      split
      · exact hInv
      · exact setRequest_inv hInv r trivial

end Editing

end Quizzes

end TrueNorth

--------
-- Every Marked Attempt
--------

namespace TrueNorth

namespace Quizzes

/-
  In every run in which each submit finds the questions its
  attempt was started with, every attempt that is marked is
  marked fairly.
-/
theorem marked_fair
    (quiz : Quiz)
    (actions : List Act)
    (hSame :
      Runs.Meets (act quiz) SameQuestions Editing.fresh actions) :
    ∀ s ∈ (Runs.run (act quiz) Editing.fresh actions).sittings,
      s.submittedAt.isSome = true → Fair s := by
  have hInv :
      (Runs.run (act quiz) Editing.fresh actions).Inv :=
    hSame.invariant Editing.Inv
      (fun w a hStep hInv => Editing.act_inv a hStep hInv)
      Editing.fresh_inv
  intro s hMem hMarked
  exact (hInv.sittings s hMem).marked hMarked

end Quizzes

end TrueNorth

--------
-- A Question Replaced Meanwhile
--------

namespace TrueNorth

namespace Quizzes

namespace Replaced

def quiz : Quiz where
  questions := []
  passPct := 70
  timeLimitMinutes := 0
  maxAttempts := 0
  isPublished := true

def question (points : Int) : QuestionIn where
  stem := "Which?"
  options := ["This", "That"]
  correct := [0]
  points := points

/- The answer to the question of an id. -/
def answers (id : String) : Answers where
  entries := [(id, [0])]
  nodup := List.nodup_singleton id

def replace (r : Nat) (id : String) (points : Int) : List Act :=
  [.sendReplace r [question points], .saveQuestions r [id]]

def start (r attemptId : Nat) (id : String) : List Act :=
  [.sendStart r, .addAttempt r attemptId 0 [id]]

def submit (r attemptId : Nat) (id : String) : List Act :=
  [.sendSubmit r attemptId (answers id), .readAttempt r,
    .loadQuestions r, .mark r]

/- A second attempt shows the ids of the new questions. -/
def replacedMeanwhile : List Act :=
  replace 1 "q1" 10 ++ start 2 7 "q1" ++ replace 3 "q2" 100 ++
    start 4 8 "q2" ++ submit 5 7 "q2"

def replacedBefore : List Act :=
  replace 1 "q1" 10 ++ replace 3 "q2" 100 ++ start 2 7 "q2" ++
    submit 5 7 "q2"

/- An attempt with a maximum of 10 scores 100. -/
theorem marked_beyond :
    ¬ ∀ s ∈ (Runs.run (act quiz) Editing.fresh
        replacedMeanwhile).sittings,
      s.submittedAt.isSome = true → Fair s := by
  intro hAll
  have hBeyond :
      ∃ s ∈ (Runs.run (act quiz) Editing.fresh
          replacedMeanwhile).sittings,
        s.submittedAt.isSome = true ∧ s.score = 100 ∧
          s.maxScore = 10 := by
    decide +kernel
  rcases hBeyond with ⟨s, hMem, hMarked, hScore, hMax⟩
  have hWithin := (hAll s hMem hMarked).within
  rw [hScore, hMax] at hWithin
  omega

theorem marked_fair_before :
    Runs.Meets (act quiz) SameQuestions Editing.fresh
        replacedBefore ∧
      ∀ s ∈ (Runs.run (act quiz) Editing.fresh
          replacedBefore).sittings,
        s.submittedAt.isSome = true → Fair s := by
  have hSame :
      Runs.Meets (act quiz) SameQuestions Editing.fresh
        replacedBefore := by
    decide
  exact ⟨hSame, marked_fair quiz replacedBefore hSame⟩

end Replaced

end Quizzes

end TrueNorth
