import Mathlib.Data.List.Dedup
import Mathlib.Data.List.Perm.Subperm
import TrueNorth.Quizzes.Attempts

/-
  When the answer key goes out.  A submit that found no
  other attempt open, and then the limit reached, takes its
  own for the last: it is, unless an attempt was started
  between the two counts.

  Key definitions include:
    * `KeyKept`, `markedIds`
    * `CountIsCurrent`
    * `Inv`

  Main theorems:
    * `step_inv`
    * `key_after_last_attempt`
-/

--------
-- What Is Promised
--------

namespace TrueNorth

namespace Quizzes

/-
  No submit that is sent after a response with the key is
  ever marked.
-/
def KeyKept (log : List Event) : Prop :=
  ∀ before after r, log = before ++ .revealed r :: after →
    ∀ r' attemptId, .sent r' ∈ after →
      .marked r' attemptId ∉ log

/- The attempts that were marked. -/
def markedIds (log : List Event) : List Nat :=
  (log.filterMap (fun e =>
    match e with
    | .marked _ attemptId => some attemptId
    | _ => none)).dedup

theorem mem_markedIds
    {log : List Event}
    {attemptId : Nat} :
    attemptId ∈ markedIds log ↔
      ∃ r, .marked r attemptId ∈ log := by
  unfold markedIds
  rw [List.mem_dedup, List.mem_filterMap]
  constructor
  · rintro ⟨e, hMem, hSome⟩
    cases e with
    | marked r other =>
        cases hSome
        exact ⟨r, hMem⟩
    | _ => cases hSome
  · rintro ⟨r, hMem⟩
    exact ⟨_, hMem, rfl⟩

/-
  The count of the others is still right when all attempts
  are counted: where it was zero and the limit is reached,
  no other attempt is open.
-/
def CountIsCurrent
    (quiz : Quiz)
    (w : World) :
    Action → Prop
| .countMine r =>
    match w.requests r with
    | .othersCounted attempt _ _ othersOpen =>
        othersOpen = 0 →
          quiz.maxAttempts ≤ w.attempts.length →
            w.othersOpen attempt = []
    | _ => True
| _ => True

instance
    (quiz : Quiz)
    (w : World)
    (a : Action) :
    Decidable (CountIsCurrent quiz w a) := by
  cases a with
  | countMine r =>
      unfold CountIsCurrent
      dsimp only
      split <;> infer_instance
  | _ => exact .isTrue trivial

end Quizzes

end TrueNorth

--------
-- The Invariant
--------

namespace TrueNorth

namespace Quizzes

namespace World

def ids (w : World) : List Nat :=
  w.attempts.map Attempt.id

/- The limit is reached and these attempts are submitted. -/
structure Closed
    (quiz : Quiz)
    (attempts : List Attempt)
    (which : Attempt → Prop) : Prop where
  limited : quiz.maxAttempts ≠ 0
  reached : quiz.maxAttempts ≤ attempts.length
  submitted : ∀ attempt ∈ attempts, which attempt →
    attempt.isOpen = false

/- The request was not sent after a response with the key. -/
def Early
    (log : List Event)
    (r : Nat) : Prop :=
  ∀ before after r', log = before ++ .revealed r' :: after →
    .sent r ∉ after

/- What holds while a request has come this far. -/
def Fits
    (quiz : Quiz)
    (w : World)
    (r : Nat) :
    Request → Prop
| .unsent =>
    .sent r ∉ w.log ∧ ∀ attemptId, .marked r attemptId ∉ w.log
| .starting => True
| .locked => w.lock = some r
| .counted =>
    w.lock = some r ∧ w.attempts.length < quiz.maxAttempts
| .submitting _ _ => True
| .read attempt _ _ => attempt.id ∈ w.ids ∧ Early w.log r
| .othersCounted attempt _ _ _ =>
    quiz.maxAttempts ≠ 0 ∧ attempt.id ∈ w.ids ∧ Early w.log r
| .decided attempt _ _ reveal =>
    attempt.id ∈ w.ids ∧ Early w.log r ∧
      (reveal = true →
        Closed quiz w.attempts (fun other => other.id ≠ attempt.id))
| .marked result =>
    result.keyRevealed = true → Closed quiz w.attempts (fun _ => True)
| .finished => True

structure Inv
    (quiz : Quiz)
    (w : World) : Prop where
  fits : ∀ r, w.Fits quiz r (w.requests r)
  bound : quiz.maxAttempts ≠ 0 →
    w.attempts.length ≤ quiz.maxAttempts
  known : ∀ r attemptId, .marked r attemptId ∈ w.log →
    attemptId ∈ w.ids
  closed : ∀ r, .revealed r ∈ w.log →
    Closed quiz w.attempts (fun _ => True)
  kept : KeyKept w.log

variable {quiz : Quiz}
variable {w w' : World}

theorem fresh_inv (quiz : Quiz) :
    fresh.Inv quiz where
  fits := by
    intro r
    exact ⟨List.not_mem_nil, fun _ => List.not_mem_nil⟩
  bound := fun _ => Nat.zero_le _
  known := by
    intro r attemptId hMem
    cases hMem
  closed := by
    intro r hMem
    cases hMem
  kept := by
    intro before after r hSplit
    cases before <;> cases hSplit

/- A request that is further on, and nothing else. -/
theorem Inv.setRequest
    (hInv : w.Inv quiz)
    {r : Nat}
    {request : Request}
    (hFits : w.Fits quiz r request) :
    (w.setRequest r request).Inv quiz where
  fits := by
    intro r'
    by_cases hHere : r' = r
    · rw [hHere, setRequest_self]
      exact hFits
    · rw [setRequest_other w request hHere]
      exact hInv.fits r'
  bound := hInv.bound
  known := hInv.known
  closed := hInv.closed
  kept := hInv.kept

/- Another request keeps what it has when a lock goes. -/
theorem Fits.unlock
    {r r' : Nat}
    (hOther : r' ≠ r)
    (hFits : w.Fits quiz r' (w.requests r')) :
    (w.unlock r).Fits quiz r' (w.requests r') := by
  have hLock : w.lock = some r' → (w.unlock r).lock = some r' := by
    intro hLock
    unfold World.unlock
    simp [hLock, hOther]
  cases hRequest : w.requests r' with
  | locked =>
      rw [hRequest] at hFits
      exact hLock hFits
  | counted =>
      rw [hRequest] at hFits
      exact ⟨hLock hFits.1, hFits.2⟩
  | _ =>
      rw [hRequest] at hFits
      exact hFits

/- A request that ends leaves the lock. -/
theorem Inv.finish
    (hInv : w.Inv quiz)
    (r : Nat) :
    ((w.setRequest r .finished).unlock r).Inv quiz where
  fits := by
    intro r'
    by_cases hHere : r' = r
    · have hRequest :
          ((w.setRequest r .finished).unlock r).requests r' =
            .finished := by
        rw [hHere]
        exact setRequest_self w r .finished
      rw [hRequest]
      trivial
    · have hFinished : (w.setRequest r .finished).Inv quiz :=
        hInv.setRequest trivial
      exact Fits.unlock hHere (hFinished.fits r')
  bound := hInv.bound
  known := hInv.known
  closed := hInv.closed
  kept := hInv.kept

--------
-- The Steps of a Start
--------

variable {quiz : Quiz}
variable {w : World}

/- What a request fits, read off how far it is. -/
theorem Inv.fitsAt
    (hInv : w.Inv quiz)
    {r : Nat}
    {request : Request}
    (hRequest : w.requests r = request) :
    w.Fits quiz r request := by
  rw [← hRequest]
  exact hInv.fits r

theorem sendStart_inv
    (hInv : w.Inv quiz)
    (r : Nat) :
    (w.sendStart quiz r).Inv quiz := by
  unfold World.sendStart
  split
  · apply hInv.setRequest
    split <;> trivial
  · exact hInv

/- The lock was free: no other request is under it. -/
theorem lockQuiz_inv
    (hInv : w.Inv quiz)
    (r : Nat) :
    (w.lockQuiz quiz r).Inv quiz := by
  unfold World.lockQuiz
  split
  · split
    · next hFree =>
        rw [Bool.and_eq_true, Option.isNone_iff_eq_none] at hFree
        have hNone := hFree.2
        refine ⟨?_, hInv.bound, hInv.known, hInv.closed,
          hInv.kept⟩
        intro r'
        by_cases hHere : r' = r
        · have hRequest :
              (w.setRequest r .locked).requests r' = .locked := by
            rw [hHere]
            exact setRequest_self w r .locked
          show World.Fits quiz _ r'
            ((w.setRequest r .locked).requests r')
          rw [hRequest, hHere]
          exact rfl
        · have hSame := setRequest_other w .locked hHere
          show World.Fits quiz _ r'
            ((w.setRequest r .locked).requests r')
          rw [hSame]
          have hFits := hInv.fits r'
          cases hRequest : w.requests r' with
          | locked =>
              rw [hRequest] at hFits
              have hLock : w.lock = some r' := hFits
              rw [hNone] at hLock
              cases hLock
          | counted =>
              rw [hRequest] at hFits
              have hLock : w.lock = some r' := hFits.1
              rw [hNone] at hLock
              cases hLock
          | _ =>
              rw [hRequest] at hFits
              exact hFits
    · exact hInv
  · exact hInv

theorem countPrior_inv
    (hInv : w.Inv quiz)
    (r : Nat) :
    (w.countPrior quiz r).Inv quiz := by
  unfold World.countPrior
  split
  · next hRequest =>
      split
      · exact hInv.finish r
      · next hBelow =>
          apply hInv.setRequest
          exact ⟨hInv.fitsAt hRequest, Nat.not_le.mp hBelow⟩
  · exact hInv

/- An attempt is added only while the limit is not reached. -/
theorem addAttempt_room
    (hInv : w.Inv quiz)
    {r : Nat}
    (hReady : mayAdd quiz (w.requests r) = true)
    (hLimited : quiz.maxAttempts ≠ 0) :
    w.lock = some r ∧ w.attempts.length < quiz.maxAttempts := by
  cases hRequest : w.requests r with
  | counted => exact hInv.fitsAt hRequest
  | starting =>
      rw [hRequest] at hReady
      exact absurd (of_decide_eq_true hReady) hLimited
  | _ =>
      rw [hRequest] at hReady
      cases hReady

theorem addAttempt_inv
    (hInv : w.Inv quiz)
    (r attemptId startedAt : Nat) :
    (w.addAttempt quiz r attemptId startedAt).Inv quiz := by
  unfold World.addAttempt
  split
  · next hAdds =>
      rw [Bool.and_eq_true] at hAdds
      have hRoom := addAttempt_room hInv hAdds.1
      have hOpen : ∀ which, ¬Closed quiz w.attempts which := by
        intro which hClosed
        have hBelow := (hRoom hClosed.limited).2
        exact absurd hClosed.reached (Nat.not_le.mpr hBelow)
      have hFinished := hInv.finish r
      have hMore : ∀ {id : Nat} {a : Attempt},
          id ∈ w.ids →
            id ∈ (w.attempts ++ [a]).map Attempt.id := by
        intro id a hMem
        rw [List.map_append]
        exact List.mem_append_left _ hMem
      refine ⟨?_, ?_, ?_, ?_, hInv.kept⟩
      · intro r'
        have hFits := hFinished.fits r'
        dsimp only at hFits ⊢
        cases hRequest :
            ((w.setRequest r .finished).unlock r).requests r' with
        | counted =>
            exfalso
            have hOther : r' ≠ r := by
              rintro rfl
              have hSelf := setRequest_self w r' .finished
              change (w.setRequest r' .finished).requests r' =
                _ at hRequest
              rw [hSelf] at hRequest
              cases hRequest
            have hSame := setRequest_other w .finished hOther
            change (w.setRequest r .finished).requests r' =
              _ at hRequest
            rw [hSame] at hRequest
            have hCounted := hInv.fitsAt hRequest
            have hLimited : quiz.maxAttempts ≠ 0 :=
              Nat.ne_of_gt (Nat.zero_lt_of_lt hCounted.2)
            have hLock := hCounted.1
            rw [(hRoom hLimited).1] at hLock
            exact hOther (Option.some.inj hLock).symm
        | read attempt answers late =>
            rw [hRequest] at hFits
            exact ⟨hMore hFits.1, hFits.2⟩
        | othersCounted attempt answers late othersOpen =>
            rw [hRequest] at hFits
            exact ⟨hFits.1, hMore hFits.2.1, hFits.2.2⟩
        | decided attempt answers late reveal =>
            rw [hRequest] at hFits
            exact ⟨hMore hFits.1, hFits.2.1, fun hReveal =>
              absurd (hFits.2.2 hReveal) (hOpen _)⟩
        | marked result =>
            rw [hRequest] at hFits
            exact fun hReveal => absurd (hFits hReveal) (hOpen _)
        | _ =>
            rw [hRequest] at hFits
            exact hFits
      · intro hLimited
        rw [List.length_append, List.length_singleton]
        exact (hRoom hLimited).2
      · intro r' attemptId' hMem
        exact hMore (hInv.known r' attemptId' hMem)
      · intro r' hMem
        exact absurd (hInv.closed r' hMem) (hOpen _)
  · exact hInv

--------
-- The Steps of a Submit
--------

variable {quiz : Quiz}
variable {w : World}

/- An event at the end of the log, and what came before. -/
theorem split_snoc
    {log before after : List Event}
    {e e' : Event}
    (hSplit : log ++ [e] = before ++ e' :: after) :
    (e' = e ∧ after = []) ∨
      ∃ rest, log = before ++ e' :: rest ∧
        after = rest ++ [e] := by
  rcases List.eq_nil_or_concat after with rfl | ⟨rest, last, rfl⟩
  · have hEnds := List.append_inj' hSplit rfl
    exact .inl ⟨(List.cons.inj hEnds.2).1.symm, rfl⟩
  · right
    rw [List.concat_eq_append] at hSplit ⊢
    rw [← List.cons_append, ← List.append_assoc] at hSplit
    have hEnds := List.append_inj' hSplit rfl
    have hLast := (List.cons.inj hEnds.2).1
    exact ⟨rest, hEnds.1, by rw [hLast]⟩

/- An event of another request leaves a request as it was. -/
theorem Fits.logged
    {r : Nat}
    {e : Event}
    {request : Request}
    (hSent : e ≠ .sent r)
    (hMarked : ∀ attemptId, e ≠ .marked r attemptId)
    (hFits : w.Fits quiz r request) :
    (w.logged e).Fits quiz r request := by
  have hEarly : Early w.log r → Early (w.log ++ [e]) r := by
    intro hEarly before after r' hSplit hMem
    rcases split_snoc hSplit with ⟨_, rfl⟩ | ⟨rest, hLog, rfl⟩
    · cases hMem
    · rcases List.mem_append.mp hMem with hMem | hMem
      · exact hEarly before rest r' hLog hMem
      · exact hSent (List.mem_singleton.mp hMem).symm
  cases request with
  | unsent =>
      refine ⟨?_, ?_⟩
      · intro hMem
        rcases List.mem_append.mp hMem with hMem | hMem
        · exact hFits.1 hMem
        · exact hSent (List.mem_singleton.mp hMem).symm
      · intro attemptId hMem
        rcases List.mem_append.mp hMem with hMem | hMem
        · exact hFits.2 attemptId hMem
        · exact hMarked attemptId (List.mem_singleton.mp hMem).symm
  | read attempt answers late =>
      exact ⟨hFits.1, hEarly hFits.2⟩
  | othersCounted attempt answers late othersOpen =>
      exact ⟨hFits.1, hFits.2.1, hEarly hFits.2.2⟩
  | decided attempt answers late reveal =>
      exact ⟨hFits.1, hEarly hFits.2.1, hFits.2.2⟩
  | _ => exact hFits

theorem sendSubmit_inv
    (hInv : w.Inv quiz)
    (r attemptId : Nat)
    (answers : Answers) :
    (w.sendSubmit r attemptId answers).Inv quiz := by
  unfold World.sendSubmit
  split
  · next hRequest =>
      have hNew := hInv.fitsAt hRequest
      have hSet : (w.setRequest r
          (.submitting attemptId answers)).Inv quiz :=
        hInv.setRequest trivial
      refine ⟨?_, hInv.bound, ?_, ?_, ?_⟩
      · intro r'
        by_cases hHere : r' = r
        · have hSelf : ((w.setRequest r
              (.submitting attemptId answers)).logged
                (.sent r)).requests r' =
              .submitting attemptId answers := by
            rw [hHere]
            exact setRequest_self w r _
          rw [hSelf]
          trivial
        · refine Fits.logged ?_ ?_ (hSet.fits r')
          · intro hSame
            cases hSame
            exact hHere rfl
          · intro other hSame
            cases hSame
      · intro r' attemptId' hMem
        rcases List.mem_append.mp hMem with hMem | hMem
        · exact hInv.known r' attemptId' hMem
        · cases List.mem_singleton.mp hMem
      · intro r' hMem
        rcases List.mem_append.mp hMem with hMem | hMem
        · exact hInv.closed r' hMem
        · cases List.mem_singleton.mp hMem
      · intro before after r' hSplit r'' attemptId' hSent hMem
        rcases List.mem_append.mp hMem with hMem | hMem
        · rcases split_snoc hSplit with
            ⟨hSame, _⟩ | ⟨rest, hLog, rfl⟩
          · cases hSame
          · rcases List.mem_append.mp hSent with hSent | hSent
            · exact hInv.kept before rest r' hLog r'' attemptId'
                hSent hMem
            · cases List.mem_singleton.mp hSent
              exact hNew.2 attemptId' hMem
        · cases List.mem_singleton.mp hMem
  · exact hInv

/- No attempt is read as open after a response with the key. -/
theorem readAttempt_inv
    (hInv : w.Inv quiz)
    (r : Nat) :
    (w.readAttempt quiz r).Inv quiz := by
  unfold World.readAttempt
  split
  · next attemptId answers _ =>
      split
      · exact hInv.setRequest trivial
      · next attempt hFind =>
          have hMem := List.mem_of_find?_eq_some hFind
          split
          · next hOpen =>
              apply hInv.setRequest
              refine ⟨List.mem_map_of_mem hMem, ?_⟩
              intro before after r' hLog _
              have hRevealed : .revealed r' ∈ w.log := by
                rw [hLog]
                exact List.mem_append_right _ List.mem_cons_self
              have hClosed := (hInv.closed r' hRevealed).submitted
                attempt hMem trivial
              rw [hOpen] at hClosed
              cases hClosed
          · exact hInv.setRequest trivial
  · exact hInv

theorem countOthers_inv
    (hInv : w.Inv quiz)
    (r : Nat) :
    (w.countOthers quiz r).Inv quiz := by
  unfold World.countOthers
  split
  · next attempt answers late hRequest =>
      have hFits := hInv.fitsAt hRequest
      split
      · apply hInv.setRequest
        exact ⟨hFits.1, hFits.2, fun hReveal => by cases hReveal⟩
      · next hLimited =>
          apply hInv.setRequest
          exact ⟨hLimited, hFits⟩
  · exact hInv

/- A count that is current finds the last attempt. -/
theorem countMine_inv
    (hInv : w.Inv quiz)
    {r : Nat}
    (hCurrent : CountIsCurrent quiz w (.countMine r)) :
    (w.countMine quiz r).Inv quiz := by
  unfold World.countMine
  split
  · next attempt answers late othersOpen hRequest =>
      have hFits := hInv.fitsAt hRequest
      apply hInv.setRequest
      refine ⟨hFits.2.1, hFits.2.2, ?_⟩
      intro hReveal
      rw [Bool.and_eq_true, decide_eq_true_eq,
        decide_eq_true_eq] at hReveal
      unfold CountIsCurrent at hCurrent
      dsimp only at hCurrent
      rw [hRequest] at hCurrent
      have hNone := hCurrent hReveal.2 hReveal.1
      refine ⟨hFits.1, hReveal.1, ?_⟩
      intro other hMem hOther
      unfold World.othersOpen at hNone
      have hNot := List.filter_eq_nil_iff.mp hNone other hMem
      simpa [hOther] using hNot
  · exact hInv

/- The attempts with one of them written. -/
def written
    (quiz : Quiz)
    (w : World)
    (attemptId : Nat)
    (answers : Answers) : List Attempt :=
  w.attempts.map (fun other : Attempt =>
    if other.id = attemptId then
      quiz.submitted w.now answers other
    else other)

theorem written_ids
    (attemptId : Nat)
    (answers : Answers) :
    (w.written quiz attemptId answers).map Attempt.id = w.ids := by
  unfold World.written World.ids
  rw [List.map_map]
  apply List.map_congr_left
  intro other _
  simp only [Function.comp_apply]
  split <;> rfl

/- Of the attempts written, one is submitted; the rest stay. -/
theorem mem_written
    {attemptId : Nat}
    {answers : Answers}
    {attempt : Attempt}
    (hMem : attempt ∈ w.written quiz attemptId answers) :
    (attempt.id = attemptId ∧ attempt.isOpen = false) ∨
      attempt ∈ w.attempts := by
  rcases List.mem_map.mp hMem with ⟨other, hOther, hSame⟩
  split at hSame
  · next hId =>
      rw [← hSame]
      exact .inl ⟨hId, rfl⟩
  · rw [← hSame]
    exact .inr hOther

theorem Closed.written
    {which : Attempt → Prop}
    (hClosed : Closed quiz w.attempts which)
    (attemptId : Nat)
    (answers : Answers) :
    Closed quiz (w.written quiz attemptId answers) which where
  limited := hClosed.limited
  reached := by
    unfold World.written
    rw [List.length_map]
    exact hClosed.reached
  submitted := by
    intro attempt hMem hWhich
    rcases mem_written hMem with ⟨_, hNot⟩ | hOld
    · exact hNot
    · exact hClosed.submitted attempt hOld hWhich

/- The last attempt is written: all are submitted. -/
theorem Closed.writtenLast
    {attemptId : Nat}
    (hClosed : Closed quiz w.attempts
      (fun other => other.id ≠ attemptId))
    (answers : Answers) :
    Closed quiz (w.written quiz attemptId answers)
      (fun _ => True) where
  limited := hClosed.limited
  reached := (hClosed.written attemptId answers).reached
  submitted := by
    intro attempt hMem _
    rcases mem_written hMem with ⟨_, hNot⟩ | hOld
    · exact hNot
    · by_cases hId : attempt.id = attemptId
      · unfold World.written at hMem
        rcases List.mem_map.mp hMem with ⟨other, _, hSame⟩
        split at hSame
        · rw [← hSame]
          rfl
        · next hOther =>
            rw [hSame] at hOther
            exact absurd hId hOther
      · exact hClosed.submitted attempt hOld hId

/- A request keeps what it has when an attempt is written. -/
theorem Fits.written
    {r attemptId : Nat}
    {request : Request}
    (hFits : w.Fits quiz r request)
    (answers : Answers) :
    World.Fits quiz
      { w with attempts := w.written quiz attemptId answers } r
      request := by
  have hIds := @written_ids quiz w attemptId answers
  have hMem : ∀ {id : Nat}, id ∈ w.ids →
      id ∈ (w.written quiz attemptId answers).map
        Attempt.id := by
    intro id hMem
    rw [hIds]
    exact hMem
  cases request with
  | counted =>
      refine ⟨hFits.1, ?_⟩
      show (w.written quiz attemptId answers).length < _
      unfold World.written
      rw [List.length_map]
      exact hFits.2
  | read attempt answers' late =>
      exact ⟨hMem hFits.1, hFits.2⟩
  | othersCounted attempt answers' late othersOpen =>
      exact ⟨hFits.1, hMem hFits.2.1, hFits.2.2⟩
  | decided attempt answers' late reveal =>
      exact ⟨hMem hFits.1, hFits.2.1, fun hReveal =>
        (hFits.2.2 hReveal).written _ _⟩
  | marked result =>
      exact fun hReveal => (hFits hReveal).written _ _
  | _ => exact hFits

theorem mark_inv
    (hInv : w.Inv quiz)
    (r : Nat) :
    (w.mark quiz r).Inv quiz := by
  unfold World.mark
  split
  · next attempt answers late reveal hRequest =>
      have hOwn := hInv.fitsAt hRequest
      have hIds := @written_ids quiz w attempt.id answers
      refine ⟨?_, ?_, ?_, ?_, ?_⟩
      · intro r'
        by_cases hHere : r' = r
        · rw [hHere]
          have hSelf := setRequest_self w r
            (.marked (quiz.result attempt answers late reveal))
          show World.Fits quiz _ r ((w.setRequest r
            (.marked (quiz.result attempt answers late
              reveal))).requests r)
          rw [hSelf]
          intro hReveal
          exact (hOwn.2.2 hReveal).writtenLast answers
        · have hSame := setRequest_other w
            (.marked (quiz.result attempt answers late reveal))
            hHere
          show World.Fits quiz _ r' ((w.setRequest r
            (.marked (quiz.result attempt answers late
              reveal))).requests r')
          rw [hSame]
          have hFits := @Fits.written quiz w r' attempt.id _
            (hInv.fits r') answers
          refine Fits.logged ?_ ?_ hFits
          · intro hSent
            cases hSent
          · intro attemptId hMarked
            cases hMarked
            exact hHere rfl
      · intro hLimited
        show (w.written quiz attempt.id answers).length ≤ _
        unfold World.written
        rw [List.length_map]
        exact hInv.bound hLimited
      · intro r' attemptId hMem
        show attemptId ∈
          (w.written quiz attempt.id answers).map Attempt.id
        rw [hIds]
        rcases List.mem_append.mp hMem with hMem | hMem
        · exact hInv.known r' attemptId hMem
        · cases List.mem_singleton.mp hMem
          exact hOwn.1
      · intro r' hMem
        rcases List.mem_append.mp hMem with hMem | hMem
        · exact (hInv.closed r' hMem).written _ _
        · cases List.mem_singleton.mp hMem
      · intro before after r' hSplit r'' attemptId hSent hMem
        rcases split_snoc hSplit with
          ⟨hSame, _⟩ | ⟨rest, hLog, rfl⟩
        · cases hSame
        · rcases List.mem_append.mp hSent with hSent | hSent
          · rcases List.mem_append.mp hMem with hMem | hMem
            · exact hInv.kept before rest r' hLog r'' attemptId
                hSent hMem
            · cases List.mem_singleton.mp hMem
              exact hOwn.2.1 before rest r' hLog hSent
          · cases List.mem_singleton.mp hSent
  · exact hInv

theorem respond_inv
    (hInv : w.Inv quiz)
    (r : Nat) :
    (w.respond r).Inv quiz := by
  unfold World.respond
  split
  · next result hRequest =>
      have hOwn := hInv.fitsAt hRequest
      have hSet : (w.setRequest r .finished).Inv quiz :=
        hInv.setRequest trivial
      dsimp only
      split
      · next hReveal =>
          refine ⟨?_, hInv.bound, ?_, ?_, ?_⟩
          · intro r'
            refine Fits.logged ?_ ?_ (hSet.fits r')
            · intro hSame
              cases hSame
            · intro attemptId hSame
              cases hSame
          · intro r' attemptId hMem
            rcases List.mem_append.mp hMem with hMem | hMem
            · exact hInv.known r' attemptId hMem
            · cases List.mem_singleton.mp hMem
          · intro r' _
            exact hOwn hReveal
          · intro before after r' hSplit r'' attemptId hSent
              hMem
            rcases split_snoc hSplit with
              ⟨_, rfl⟩ | ⟨rest, hLog, rfl⟩
            · cases hSent
            · rcases List.mem_append.mp hSent with
                hSent | hSent
              · rcases List.mem_append.mp hMem with hMem | hMem
                · exact hInv.kept before rest r' hLog r''
                    attemptId hSent hMem
                · cases List.mem_singleton.mp hMem
              · cases List.mem_singleton.mp hSent
      · exact hSet
  · exact hInv

theorem abort_inv
    (hInv : w.Inv quiz)
    (r : Nat) :
    (w.abort r).Inv quiz := by
  unfold World.abort
  split
  · exact hInv
  · exact hInv.finish r

end World

end Quizzes

end TrueNorth

--------
-- The Answer Key
--------

namespace TrueNorth

namespace Quizzes

open World

theorem step_inv
    {quiz : Quiz}
    {w : World}
    (a : Action)
    (hCurrent : CountIsCurrent quiz w a)
    (hInv : w.Inv quiz) :
    (step quiz w a).Inv quiz := by
  cases a with
  | tick elapsed =>
      exact ⟨hInv.fits, hInv.bound, hInv.known, hInv.closed,
        hInv.kept⟩
  | sendStart r => exact sendStart_inv hInv r
  | lockQuiz r => exact lockQuiz_inv hInv r
  | countPrior r => exact countPrior_inv hInv r
  | addAttempt r attemptId startedAt =>
      exact addAttempt_inv hInv r attemptId startedAt
  | sendSubmit r attemptId answers =>
      exact sendSubmit_inv hInv r attemptId answers
  | readAttempt r => exact readAttempt_inv hInv r
  | countOthers r => exact countOthers_inv hInv r
  | countMine r => exact countMine_inv hInv hCurrent
  | mark r => exact mark_inv hInv r
  | respond r => exact respond_inv hInv r
  | abort r => exact abort_inv hInv r

/- No more attempts are marked than there are. -/
theorem Inv.markedIds_le
    {quiz : Quiz}
    {w : World}
    (hInv : w.Inv quiz)
    (hLimited : quiz.maxAttempts ≠ 0) :
    (markedIds w.log).length ≤ quiz.maxAttempts := by
  have hSubset : markedIds w.log ⊆ w.ids := by
    intro attemptId hMem
    rcases mem_markedIds.mp hMem with ⟨r, hMarked⟩
    exact hInv.known r attemptId hMarked
  have hShort : (markedIds w.log).length ≤ w.ids.length :=
    (List.subperm_of_subset (List.nodup_dedup _)
      hSubset).length_le
  unfold World.ids at hShort
  rw [List.length_map] at hShort
  exact Nat.le_trans hShort (hInv.bound hLimited)

/-
  In every run in which each second count finds the first
  one still right: no submit that is sent after a response
  with the key is marked, and no more attempts are marked
  than the quiz allows.
-/
theorem key_after_last_attempt
    (quiz : Quiz)
    (actions : List Action)
    (hCurrent :
      Runs.Meets (step quiz) (CountIsCurrent quiz) fresh
        actions) :
    let w := Runs.run (step quiz) fresh actions
    KeyKept w.log ∧
      (quiz.maxAttempts ≠ 0 →
        (markedIds w.log).length ≤ quiz.maxAttempts) := by
  intro w
  have hInv : w.Inv quiz :=
    hCurrent.invariant (World.Inv quiz)
      (fun w a hStep hInv => step_inv a hStep hInv)
      (fresh_inv quiz)
  exact ⟨hInv.kept, Inv.markedIds_le hInv⟩

end Quizzes

end TrueNorth

--------
-- Two Tabs
--------

namespace TrueNorth

namespace Quizzes

namespace TwoTabs

/- A quiz of one question that may be taken twice. -/
def quiz : Quiz where
  questions := [⟨"q1", [0], "The first.", 10⟩]
  passPct := 70
  timeLimitMinutes := 0
  maxAttempts := 2
  isPublished := true

/- The right answer. -/
def answers : Answers where
  entries := [("q1", [0])]
  nodup := by decide

def start (r attemptId : Nat) : List Action :=
  [.sendStart r, .lockQuiz r, .countPrior r,
    .addAttempt r attemptId 0]

def submitUpToOthers (r attemptId : Nat) : List Action :=
  [.sendSubmit r attemptId answers, .readAttempt r,
    .countOthers r]

def submitFromMine (r : Nat) : List Action :=
  [.countMine r, .mark r, .respond r]

/- The second attempt is started between the two counts. -/
def startedBetween : List Action :=
  start 1 10 ++ submitUpToOthers 2 10 ++ start 3 11 ++
    submitFromMine 2 ++ submitUpToOthers 4 11 ++
    submitFromMine 4

/- The second attempt is started after the first is marked. -/
def startedAfter : List Action :=
  start 1 10 ++ submitUpToOthers 2 10 ++ submitFromMine 2 ++
    start 3 11 ++ submitUpToOthers 4 11 ++ submitFromMine 4

/- The second attempt is marked with the key known. -/
theorem marked_with_key_known :
    (Runs.run (step quiz) World.fresh startedBetween).log =
        [.sent 2, .marked 2 10, .revealed 2, .sent 4,
          .marked 4 11, .revealed 4] ∧
      ¬KeyKept
        (Runs.run (step quiz) World.fresh startedBetween).log := by
  have hLog :
      (Runs.run (step quiz) World.fresh startedBetween).log =
        [.sent 2, .marked 2 10, .revealed 2, .sent 4,
          .marked 4 11, .revealed 4] := by
    decide
  refine ⟨hLog, ?_⟩
  rw [hLog]
  intro hKept
  exact hKept [.sent 2, .marked 2 10]
    [.sent 4, .marked 4 11, .revealed 4] 2 rfl 4 11
    (by decide) (by decide)

theorem key_after_second_attempt :
    let w := Runs.run (step quiz) World.fresh startedAfter
    KeyKept w.log ∧
      (quiz.maxAttempts ≠ 0 →
        (markedIds w.log).length ≤ quiz.maxAttempts) :=
  key_after_last_attempt quiz startedAfter (by decide)

end TwoTabs

end Quizzes

end TrueNorth
