import TrueNorth.Lib.Rounding
import TrueNorth.Scoring.ListOrder

/-
  One engine, evaluated again and again.  The bonuses of all
  evaluations are kept in one list; the points of each are
  counted anew.

  Key definitions include:
    * `Scenario`
    * `Session.evaluate`, `Session.after`
    * `ScoringResult.finding`
    * `repeated_scoring`
-/

--------
-- Parts Of The Points
--------

namespace TrueNorth

namespace Scoring

/- A half at most is no more than the whole. -/
theorem partOf_le
    {maxPoints points : Int}
    {ratio : Rat}
    (hPoints : 0 ≤ maxPoints)
    (hRatio : 0 ≤ ratio ∧ ratio ≤ 1 / 2)
    (hPart : partOf maxPoints (.finite ratio) = some points) :
    0 ≤ points ∧ points ≤ maxPoints := by
  unfold partOf at hPart
  simp only [Number.toDouble] at hPart
  cases hWhole : Double.ofRat maxPoints with
  | infinite negative => rw [hWhole] at hPart; cases hPart
  | nan => rw [hWhole] at hPart; cases hPart
  | finite whole =>
      rw [hWhole] at hPart
      simp only [Double.mul] at hPart
      have hCast : (0 : Rat) ≤ maxPoints := Int.cast_nonneg hPoints
      have hWholeNonneg := Double.ofRat_nonneg hCast hWhole
      cases hValue : Double.ofRat (whole * ratio) with
      | infinite negative => rw [hValue] at hPart; cases hPart
      | nan => rw [hValue] at hPart; cases hPart
      | finite value =>
          have hProduct : 0 ≤ whole * ratio :=
            mul_nonneg hWholeNonneg hRatio.1
          have hNonneg := Double.ofRat_nonneg hProduct hValue
          rw [hValue, Double.trunc?,
            if_neg (not_lt.mpr hNonneg)] at hPart
          cases hPart
          refine ⟨Rat.le_floor_iff.mpr hNonneg, ?_⟩
          have hSmall (hOne : value < 1) :
              value.floor ≤ maxPoints := by
            have hFloor : value.floor < 1 :=
              Rat.floor_lt_iff.mpr hOne
            omega
          have hHalf : whole * ratio ≤ whole * (1 / 2) :=
            mul_le_mul_of_nonneg_left hRatio.2 hWholeNonneg
          rcases Double.ofRat_le hProduct hValue with hClose | hOne
          · rcases Double.ofRat_le hCast hWhole with
              hWholeClose | hWholeOne
            · have hFloor := Rat.floor_le value
              have hLe : (value.floor : Rat) ≤ maxPoints := by
                linarith
              exact_mod_cast hLe
            · exact hSmall (by linarith)
          · exact hSmall hOne

--------
-- Bonuses
--------

/- An entry of `_bonuses`. -/
structure Bonus where
  objectiveId : String
  points : Int
  elapsedSeconds : Int
  timeLimitSeconds : Int
deriving DecidableEq

def Bonus.reason (bonus : Bonus) : String :=
  "Completed in " ++ toString bonus.elapsedSeconds ++
    "s (limit " ++ toString bonus.timeLimitSeconds ++ "s)"

namespace Objective

/- The bonus of an objective that is achieved in time. -/
def timeBonusPoints
    (obj : Objective)
    (achieved : Bool)
    (elapsed : Rat) : Option Int :=
  if achieved && (obj.timeBonus && obj.timeLimitSeconds > 0 &&
      elapsed < obj.timeLimitSeconds) then
    partOf obj.maxPoints (.finite (1 / 4))
  else none

/- The bonus that an objective may have at most. -/
def fullBonus (obj : Objective) : Int :=
  if obj.timeBonus && obj.timeLimitSeconds > 0 then
    (partOf obj.maxPoints (.finite (1 / 4))).getD 0
  else 0

/- `int(elapsed)`, and the record of a bonus. -/
def bonus
    (obj : Objective)
    (oid : String)
    (elapsed : Rat)
    (points : Int) : Bonus where
  objectiveId := oid
  points := points
  elapsedSeconds :=
    if elapsed < 0 then elapsed.ceil else elapsed.floor
  timeLimitSeconds := obj.timeLimitSeconds

/- The points of an achieved objective, and one bonus. -/
theorem points_of_achieved
    {obj : Objective}
    {evidence : List Json}
    {elapsed : Rat}
    {points : Int}
    (hPoints :
      obj.calculatePoints true evidence elapsed = some points) :
    points =
      obj.maxPoints + (obj.timeBonusPoints true elapsed).getD 0 := by
  unfold calculatePoints at hPoints
  unfold timeBonusPoints
  rw [if_pos rfl] at hPoints
  rw [Bool.true_and]
  split at hPoints
  · rename_i hInTime
    rw [if_pos hInTime]
    cases hPart : partOf obj.maxPoints (.finite (1 / 4)) with
    | none => rw [hPart] at hPoints; cases hPoints
    | some bonus =>
        rw [hPart] at hPoints
        exact (Option.some.inj hPoints).symm
  · rename_i hLate
    rw [if_neg hLate]
    have hWhole := Option.some.inj hPoints
    rw [Option.getD_none, add_zero, hWhole]

/- Some of the points, for an objective not achieved. -/
theorem points_of_not_achieved
    {obj : Objective}
    {evidence : List Json}
    {elapsed : Rat}
    {points : Int}
    (hNonneg : 0 ≤ obj.maxPoints)
    (hPoints :
      obj.calculatePoints false evidence elapsed = some points) :
    points ≤ obj.maxPoints := by
  unfold calculatePoints at hPoints
  rw [if_neg (by decide)] at hPoints
  simp only at hPoints
  split at hPoints
  · have hRatio : ∃ ratio, 0 ≤ ratio ∧ ratio ≤ 1 / 2 ∧
        obj.creditRatio (evidence.filter isFound).length =
          .finite ratio := by
      unfold creditRatio
      simp only
      split
      · exact ⟨1 / 2, by norm_num, le_rfl, rfl⟩
      · rename_i hNot
        have hQuotient :
            (0 : Rat) ≤ ((evidence.filter isFound).length : Rat) /
              (max obj.threshold 1 : Int) := by
          apply div_nonneg (Nat.cast_nonneg _)
          exact Int.cast_nonneg
            (le_trans zero_le_one (le_max_right _ _))
        cases hRatio : Double.ofRat
            (((evidence.filter isFound).length : Rat) /
              (max obj.threshold 1 : Int)) with
        | finite ratio =>
            rw [hRatio] at hNot
            simp only [Number.lt, Number.value,
              decide_eq_true_eq] at hNot
            exact ⟨ratio, Double.ofRat_nonneg hQuotient hRatio,
              not_lt.mp hNot, rfl⟩
        | infinite negative =>
            have hPositive : negative = false := by
              unfold Double.ofRat at hRatio
              split at hRatio
              · cases hRatio
              · simp only at hRatio
                split at hRatio
                · cases hRatio
                · cases hRatio
                  exact decide_eq_false (not_lt.mpr hQuotient)
            rw [hRatio, hPositive] at hNot
            exact absurd rfl hNot
        | nan =>
            unfold Double.ofRat at hRatio
            split at hRatio
            · cases hRatio
            · simp only at hRatio
              split at hRatio <;> cases hRatio
    rcases hRatio with ⟨ratio, hZero, hHalf, hEq⟩
    rw [hEq] at hPoints
    exact (partOf_le hNonneg ⟨hZero, hHalf⟩ hPoints).2
  · cases hPoints
    exact hNonneg

/- No objective earns more than its points and a bonus. -/
theorem points_le
    {obj : Objective}
    {achieved : Bool}
    {evidence : List Json}
    {elapsed : Rat}
    {points : Int}
    (hNonneg : 0 ≤ obj.maxPoints)
    (hPoints :
      obj.calculatePoints achieved evidence elapsed =
        some points) :
    points ≤ obj.maxPoints + obj.fullBonus := by
  have hQuarter : 0 ≤
      (partOf obj.maxPoints (.finite (1 / 4))).getD 0 := by
    cases hPart : partOf obj.maxPoints (.finite (1 / 4)) with
    | none => exact le_rfl
    | some bonus =>
        exact (partOf_le hNonneg (by norm_num) hPart).1
  have hFull : 0 ≤ obj.fullBonus := by
    unfold fullBonus
    split
    · exact hQuarter
    · exact le_rfl
  cases achieved with
  | false =>
      have hSome := points_of_not_achieved hNonneg hPoints
      omega
  | true =>
      rw [points_of_achieved hPoints]
      apply Int.add_le_add_left
      unfold timeBonusPoints fullBonus
      rw [Bool.true_and]
      by_cases hLimited :
          (obj.timeBonus && obj.timeLimitSeconds > 0) = true
      · rw [hLimited, Bool.true_and, if_pos rfl]
        split
        · exact le_rfl
        · exact hQuarter
      · rw [Bool.not_eq_true] at hLimited
        rw [hLimited, Bool.false_and, if_neg (by decide),
          if_neg (by decide)]
        exact le_rfl

end Objective

end Scoring

end TrueNorth

--------
-- Sessions
--------

namespace TrueNorth

namespace Scoring

/- The objectives of a scenario: no points are negative. -/
structure Scenario where
  objectives : List (String × Objective)
  hPoints : ∀ entry ∈ objectives, 0 ≤ entry.2.maxPoints

/- An engine with what its evaluations leave on it. -/
structure Session where
  engine : ScoringEngine
  bonuses : List Bonus
  totalScore : Int

def Task.isSettled : Task → Bool
| .settled _ _ => true
| .waiting _ _ => false

namespace ScoringEngine

/- The bonus that a result brings, if any. -/
def bonusOf
    (engine : ScoringEngine)
    (validate : String → Validation)
    (outcome : String × Outcome) : Option Bonus :=
  match outcome.2 with
  | .error _ => none
  | .ok result =>
      (engine.objectives.get? outcome.1).bind (fun obj =>
        (obj.timeBonusPoints result.achieved
            (validate outcome.1).elapsed).map
          (obj.bonus outcome.1 (validate outcome.1).elapsed))

/- What an evaluation adds to `_bonuses`, as tasks end. -/
def newBonuses
    (engine : ScoringEngine)
    (validate : String → Validation) : List Bonus :=
  let tasks :=
    (startAll validate engine.results
      engine.objectives.entries).1
  (tasks.filter Task.isSettled ++
      tasks.filter (fun task => !task.isSettled)).filterMap
    (fun task =>
      engine.bonusOf validate (outcomeOf validate task))

end ScoringEngine

namespace Session

def init (objectives : List (String × Objective)) : Session where
  engine := ScoringEngine.init objectives
  bonuses := []
  totalScore := 0

/- `evaluate`: the result, with all bonuses so far. -/
def evaluate
    (s : Session)
    (validate : String → Validation) :
    (ScoringResult × List Bonus) × Session :=
  let scored := s.engine.evaluate validate
  let bonuses := s.bonuses ++ s.engine.newBonuses validate
  ((scored.1, bonuses),
    { engine := scored.2
      bonuses := bonuses
      totalScore := scored.1.totalScore })

/- The engine after some evaluations. -/
def after
    (s : Session)
    (calls : List (String → Validation)) : Session :=
  calls.foldl (fun s validate => (s.evaluate validate).2) s

end Session

/-
  What an evaluation finds of an objective: whether it is
  achieved, and how much evidence there is for it.
-/
def ScoringResult.finding
    (scored : ScoringResult)
    (oid : String) : Option (Bool × Nat) :=
  (scored.objectives.find? (fun r => r.objectiveId = oid)).map
    (fun r => (r.achieved, (r.evidence.filter isFound).length))

--------
-- One Evaluation
--------

open ScoringEngine

variable {validate : String → Validation}

/-
  The outcome of an objective: a result has its points for
  what was found of it.
-/
def Fits
    (validate : String → Validation)
    (entry : String × Objective)
    (outcome : String × Outcome) : Prop :=
  outcome.1 = entry.1 ∧
    ∀ result, outcome.2 = .ok result →
      result.objectiveId = entry.1 ∧
        result.maxPoints = entry.2.maxPoints ∧
        entry.2.calculatePoints result.achieved result.evidence
            (validate entry.1).elapsed =
          some result.pointsAwarded

theorem fits_judge
    (oid : String)
    (obj : Objective) :
    Fits validate (oid, obj)
      (oid, obj.judge oid (validate oid)) := by
  refine ⟨rfl, ?_⟩
  intro result hOk
  simp only at hOk
  unfold Objective.judge at hOk
  split at hOk
  · cases hOk
  · cases hOk
  · split at hOk
    · cases hOk
    · rename_i points hPoints
      cases hOk
      exact ⟨rfl, rfl, hPoints⟩

theorem fits_dependencyNotMet
    (oid dependency : String)
    (obj : Objective) :
    Fits validate (oid, obj)
      (oid, .ok (obj.dependencyNotMet oid dependency)) := by
  refine ⟨rfl, ?_⟩
  rintro result ⟨⟩
  refine ⟨rfl, rfl, ?_⟩
  simp [Objective.calculatePoints, Objective.dependencyNotMet]

/- The outcomes of an evaluation are in order, and fit. -/
theorem outcomes_fit
    (validate : String → Validation)
    (results : Results)
    (entries : List (String × Objective)) :
    List.Forall₂ (Fits validate) entries
      ((startAll validate results entries).1.map
        (outcomeOf validate)) := by
  induction entries generalizing results with
  | nil => exact .nil
  | cons entry entries ih =>
      rcases entry with ⟨oid, obj⟩
      simp only [startAll_cons, List.map_cons]
      refine .cons ?_ (ih _)
      cases hFind : obj.dependsOn.find? (unmet results) with
      | some dependency =>
          rw [start_blocked hFind]
          exact fits_dependencyNotMet oid dependency obj
      | none =>
          rw [(start_validated hFind).1]
          exact fits_judge oid obj

theorem toOption_ok
    (result : ObjectiveResult) :
    Except.toOption (.ok result : Outcome) = some result :=
  rfl

theorem toOption_error
    (why : String) :
    Except.toOption (.error why : Outcome) = none :=
  rfl

/- The points of an outcome, none where it is not scored. -/
def awarded (outcome : String × Outcome) : Int :=
  match outcome.2 with
  | .ok result => result.pointsAwarded
  | .error _ => 0

theorem sum_judged
    (outcomes : List (String × Outcome)) :
    ((outcomes.filterMap (fun o => o.2.toOption)).map
        ObjectiveResult.pointsAwarded).sum =
      (outcomes.map awarded).sum := by
  induction outcomes with
  | nil => rfl
  | cons outcome outcomes ih =>
      rcases outcome with ⟨oid, found⟩
      cases found with
      | error why =>
          rw [List.filterMap_cons_none rfl, ih, List.map_cons,
            List.sum_cons]
          exact (zero_add _).symm
      | ok result =>
          simp only [List.filterMap_cons, toOption_ok,
            List.map_cons, List.sum_cons, ih]
          rfl

theorem totalScore_eq
    (engine : ScoringEngine) :
    (engine.evaluate validate).1.totalScore =
      ((engine.outcomes validate).map awarded).sum :=
  sum_judged _

/- No more than the points and the bonuses there are. -/
theorem total_le
    {entries : List (String × Objective)}
    {outcomes : List (String × Outcome)}
    (hFit : List.Forall₂ (Fits validate) entries outcomes)
    (hNonneg : ∀ entry ∈ entries, 0 ≤ entry.2.maxPoints) :
    (outcomes.map awarded).sum ≤
      (entries.map (fun entry =>
        entry.2.maxPoints + entry.2.fullBonus)).sum := by
  induction hFit with
  | nil => exact le_rfl
  | @cons entry outcome entries outcomes hFirst _ ih =>
      rw [List.forall_mem_cons] at hNonneg
      rw [List.map_cons, List.map_cons, List.sum_cons,
        List.sum_cons]
      refine Int.add_le_add ?_ (ih hNonneg.2)
      unfold awarded
      cases hOutcome : outcome.2 with
      | ok result =>
          exact Objective.points_le hNonneg.1
            (hFirst.2 result hOutcome).2.2
      | error why =>
          -- nothing is scored, and the bonus is not negative
          have hZero :
              entry.2.calculatePoints false [] 0 = some 0 := by
            simp [Objective.calculatePoints]
          exact Objective.points_le hNonneg.1 hZero

/- The points that are no bonus. -/
def ownPoints (result : ObjectiveResult) : Int :=
  if result.achieved then result.maxPoints
  else result.pointsAwarded

theorem sum_ownPoints
    (engine : ScoringEngine)
    {entries : List (String × Objective)}
    {outcomes : List (String × Outcome)}
    (hFit : List.Forall₂ (Fits validate) entries outcomes)
    (hGet : ∀ entry ∈ entries,
      engine.objectives.get? entry.1 = some entry.2) :
    (outcomes.map awarded).sum =
      ((outcomes.filterMap (fun o => o.2.toOption)).map
          ownPoints).sum +
        ((outcomes.filterMap (engine.bonusOf validate)).map
          Bonus.points).sum := by
  induction hFit with
  | nil => rfl
  | @cons entry outcome entries outcomes hFirst _ ih =>
      rw [List.forall_mem_cons] at hGet
      have hRest := ih hGet.2
      rcases outcome with ⟨oid, found⟩
      cases found with
      | error why =>
          have hNone :
              engine.bonusOf validate (oid, .error why) = none :=
            rfl
          simp only [List.filterMap_cons, toOption_error, hNone,
            List.map_cons, List.sum_cons, hRest]
          exact zero_add _
      | ok result =>
          rcases hFirst with ⟨hName, hResult⟩
          rcases hResult result rfl with ⟨_, hMax, hPoints⟩
          simp only at hName
          subst hName
          have hSplit :
              result.pointsAwarded =
                ownPoints result +
                  (entry.2.timeBonusPoints result.achieved
                    (validate entry.1).elapsed).getD 0 := by
            unfold ownPoints
            cases hAchieved : result.achieved with
            | true =>
                rw [hAchieved] at hPoints
                rw [if_pos rfl, hMax]
                exact Objective.points_of_achieved hPoints
            | false =>
                simp [Objective.timeBonusPoints]
          have hBonus :
              engine.bonusOf validate (entry.1, .ok result) =
                (entry.2.timeBonusPoints result.achieved
                    (validate entry.1).elapsed).map
                  (entry.2.bonus entry.1
                    (validate entry.1).elapsed) := by
            simp only [bonusOf, hGet.1, Option.bind_some]
          rw [List.filterMap_cons, List.filterMap_cons, hBonus]
          cases hTime : entry.2.timeBonusPoints result.achieved
              (validate entry.1).elapsed with
          | none =>
              rw [hTime, Option.getD_none, add_zero] at hSplit
              simp only [toOption_ok, Option.map_none,
                List.map_cons, List.sum_cons, awarded]
              rw [hRest, hSplit, add_assoc]
          | some bonus =>
              rw [hTime, Option.getD_some] at hSplit
              simp only [toOption_ok, Option.map_some,
                List.map_cons, List.sum_cons, awarded,
                Objective.bonus]
              rw [hRest, hSplit]
              omega

--------
-- The Same Findings
--------

open ScoringEngine

variable {validate validate' : String → Validation}

def findingOf (outcome : Outcome) : Option (Bool × Nat) :=
  outcome.toOption.map (fun r =>
    (r.achieved, (r.evidence.filter isFound).length))

theorem outcomes_nodup
    (engine : ScoringEngine)
    (validate : String → Validation) :
    ((engine.outcomes validate).map Prod.fst).Nodup := by
  unfold ScoringEngine.outcomes
  rw [startAll_names]
  exact engine.objectives.nodup

/- What an evaluation finds is in the outcome. -/
theorem finding_of_mem
    {engine : ScoringEngine}
    {oid : String}
    {outcome : Outcome}
    (hMem : (oid, outcome) ∈ engine.outcomes validate) :
    (engine.evaluate validate).1.finding oid =
      findingOf outcome := by
  have hJudged := Dict.find?_filterMap
    (outcomes_nodup engine validate)
    (f := fun o => o.2.toOption)
    (g := ObjectiveResult.objectiveId)
    (by
      rintro ⟨oid', outcome'⟩ hIn result hSome
      have hOk : outcome' = .ok result :=
        Checks.eq_ok_of_toOption hSome
      rw [hOk] at hIn
      exact startAll_named _ oid' result hIn) hMem
  unfold ScoringResult.finding ScoringEngine.evaluate findingOf
  simp only [hJudged]

/- The points follow from what was found, and when. -/
theorem awarded_of_finding
    {entry : String × Objective}
    {outcome outcome' : String × Outcome}
    (hFit : Fits validate entry outcome)
    (hFit' : Fits validate' entry outcome')
    (hSame : findingOf outcome.2 = findingOf outcome'.2)
    (hTime : (validate entry.1).elapsed =
      (validate' entry.1).elapsed) :
    awarded outcome = awarded outcome' := by
  unfold awarded
  cases hOutcome : outcome.2 with
  | error why =>
      cases hOutcome' : outcome'.2 with
      | error why' => rfl
      | ok result' =>
          rw [hOutcome, hOutcome'] at hSame
          cases hSame
  | ok result =>
      cases hOutcome' : outcome'.2 with
      | error why' =>
          rw [hOutcome, hOutcome'] at hSame
          cases hSame
      | ok result' =>
          rw [hOutcome, hOutcome'] at hSame
          have hFound := Prod.mk.inj (Option.some.inj hSame)
          have hPoints := (hFit.2 result hOutcome).2.2
          have hPoints' := (hFit'.2 result' hOutcome').2.2
          unfold Objective.calculatePoints at hPoints hPoints'
          rw [hFound.1, hFound.2, hTime] at hPoints
          exact Option.some.inj (hPoints.symm.trans hPoints')

theorem total_congr
    {entries : List (String × Objective)}
    {outcomes outcomes' : List (String × Outcome)}
    (hFit : List.Forall₂ (Fits validate) entries outcomes)
    (hFit' : List.Forall₂ (Fits validate') entries outcomes')
    (hSame : ∀ oid outcome outcome',
      (oid, outcome) ∈ outcomes → (oid, outcome') ∈ outcomes' →
        findingOf outcome = findingOf outcome')
    (hTime : ∀ oid,
      (validate oid).elapsed = (validate' oid).elapsed) :
    (outcomes.map awarded).sum = (outcomes'.map awarded).sum := by
  induction hFit generalizing outcomes' with
  | nil =>
      cases hFit'
      rfl
  | @cons entry outcome entries outcomes hFirst _ ih =>
      cases hFit' with
      | @cons _ outcome' _ outcomes' hFirst' hRest' =>
          have hHead := hSame entry.1 outcome.2 outcome'.2
            (by rw [← hFirst.1]; exact List.mem_cons_self)
            (by rw [← hFirst'.1]; exact List.mem_cons_self)
          have hTail := ih hRest'
            (fun oid o o' hMem hMem' =>
              hSame oid o o' (List.mem_cons_of_mem _ hMem)
                (List.mem_cons_of_mem _ hMem'))
          rw [List.map_cons, List.map_cons, List.sum_cons,
            List.sum_cons, hTail,
            awarded_of_finding hFirst hFirst' hHead
              (hTime entry.1)]

--------
-- Again And Again
--------

open ScoringEngine

namespace Session

/- An evaluation leaves the objectives what they are. -/
theorem objectives_after
    (s : Session)
    (calls : List (String → Validation)) :
    (s.after calls).engine.objectives = s.engine.objectives := by
  induction calls generalizing s with
  | nil => rfl
  | cons validate calls ih => exact ih (s.evaluate validate).2

end Session

theorem newBonuses_perm
    (engine : ScoringEngine)
    (validate : String → Validation) :
    (engine.newBonuses validate).Perm
      ((engine.outcomes validate).filterMap
        (engine.bonusOf validate)) := by
  unfold newBonuses ScoringEngine.outcomes
  rw [List.filterMap_map]
  exact (List.filter_append_perm Task.isSettled _).filterMap _

/- Each new bonus is of an achieved objective of its own. -/
theorem newBonuses_spec
    (engine : ScoringEngine)
    (validate : String → Validation) :
    ((engine.newBonuses validate).map Bonus.objectiveId).Nodup ∧
      ∀ bonus ∈ engine.newBonuses validate,
        ∃ result ∈ (engine.evaluate validate).1.objectives,
          result.objectiveId = bonus.objectiveId ∧
            result.achieved = true := by
  have hPerm := newBonuses_perm engine validate
  have hOwn : ∀ o ∈ engine.outcomes validate, ∀ bonus,
      engine.bonusOf validate o = some bonus →
        bonus.objectiveId = o.1 ∧
          ∃ result, o.2 = .ok result ∧
            result.achieved = true := by
    rintro ⟨oid, outcome⟩ _ bonus hBonus
    cases outcome with
    | error why => cases hBonus
    | ok result =>
        unfold bonusOf at hBonus
        rcases Option.bind_eq_some_iff.mp hBonus with
          ⟨obj, _, hPoints⟩
        rcases Option.map_eq_some_iff.mp hPoints with
          ⟨points, hTime, rfl⟩
        refine ⟨rfl, result, rfl, ?_⟩
        unfold Objective.timeBonusPoints at hTime
        cases hAchieved : result.achieved with
        | true => rfl
        | false =>
            rw [hAchieved] at hTime
            cases hTime
  refine ⟨?_, ?_⟩
  · rw [(hPerm.map Bonus.objectiveId).nodup_iff]
    have hNames := outcomes_nodup engine validate
    generalize engine.outcomes validate = outcomes
      at hOwn hNames ⊢
    induction outcomes with
    | nil => exact List.nodup_nil
    | cons o outcomes ih =>
        rw [List.forall_mem_cons] at hOwn
        rw [List.map_cons, List.nodup_cons] at hNames
        have hRest := ih hOwn.2 hNames.2
        cases hBonus : engine.bonusOf validate o with
        | none => rwa [List.filterMap_cons_none hBonus]
        | some bonus =>
            rw [List.filterMap_cons_some hBonus, List.map_cons,
              List.nodup_cons]
            refine ⟨?_, hRest⟩
            intro hMem
            rcases List.mem_map.mp hMem with
              ⟨bonus', hIn, hSame⟩
            rcases List.mem_filterMap.mp hIn with
              ⟨o', hIn', hBonus'⟩
            apply hNames.1
            rw [← (hOwn.1 bonus hBonus).1, ← hSame,
              (hOwn.2 o' hIn' bonus' hBonus').1]
            exact List.mem_map_of_mem hIn'
  · intro bonus hMem
    rcases List.mem_filterMap.mp (hPerm.mem_iff.mp hMem) with
      ⟨o, hIn, hBonus⟩
    rcases hOwn o hIn bonus hBonus with
      ⟨hName, result, hOk, hAchieved⟩
    refine ⟨result, ?_, ?_, hAchieved⟩
    · exact List.mem_filterMap.mpr ⟨o, hIn, by rw [hOk]; rfl⟩
    · rw [hName]
      apply startAll_named _ o.1 result
      rw [← hOk]
      exact hIn

/- A result has the points of its own objective. -/
theorem maxPoints_of_judged
    {engine : ScoringEngine}
    {result : ObjectiveResult}
    (hMem : result ∈ (engine.evaluate validate).1.objectives) :
    (engine.objectives.get? result.objectiveId).map
      Objective.maxPoints = some result.maxPoints := by
  rcases List.mem_filterMap.mp hMem with ⟨o, hIn, hSome⟩
  have hOk : o.2 = .ok result := Checks.eq_ok_of_toOption hSome
  have hFit := outcomes_fit validate
    engine.results engine.objectives.entries
  have hEntry : ∃ entry ∈ engine.objectives.entries,
      Fits validate entry o := by
    unfold ScoringEngine.outcomes at hIn
    generalize (startAll validate engine.results
      engine.objectives.entries).1.map (outcomeOf validate) =
        outcomes at hIn hFit
    generalize engine.objectives.entries = entries at hFit ⊢
    induction hFit with
    | nil => cases hIn
    | @cons entry outcome entries outcomes hFirst _ ih =>
        rcases List.mem_cons.mp hIn with rfl | hIn
        · exact ⟨entry, List.mem_cons_self, hFirst⟩
        · rcases ih hIn with ⟨entry', hMem', hFits⟩
          exact ⟨entry', List.mem_cons_of_mem _ hMem', hFits⟩
  rcases hEntry with ⟨entry, hEntry, hFits⟩
  rcases hFits.2 result hOk with ⟨hName, hMax, _⟩
  rw [hName, Dict.get?_eq_some_iff.mpr hEntry, hMax]
  rfl

theorem names_of_judged
    (engine : ScoringEngine)
    (validate : String → Validation) :
    ((engine.evaluate validate).1.objectives.map
      ObjectiveResult.objectiveId).Nodup := by
  have hNames := outcomes_nodup engine validate
  have hNamed : Named (engine.outcomes validate) :=
    startAll_named _
  unfold ScoringEngine.evaluate
  simp only
  generalize engine.outcomes validate = outcomes
    at hNames hNamed ⊢
  induction outcomes with
  | nil => exact List.nodup_nil
  | cons o outcomes ih =>
      rw [List.map_cons, List.nodup_cons] at hNames
      have hRest := ih hNames.2 (fun oid result hMem =>
        hNamed oid result (List.mem_cons_of_mem _ hMem))
      rcases o with ⟨oid, outcome⟩
      cases outcome with
      | error why => exact hRest
      | ok result =>
          rw [List.filterMap_cons]
          simp only [toOption_ok]
          rw [List.map_cons, List.nodup_cons]
          refine ⟨?_, hRest⟩
          intro hMem
          rcases List.mem_map.mp hMem with
            ⟨result', hIn, hSame⟩
          rcases List.mem_filterMap.mp hIn with
            ⟨⟨oid', outcome'⟩, hIn', hSome⟩
          have hOk : outcome' = .ok result' :=
            Checks.eq_ok_of_toOption hSome
          subst hOk
          have hOwn := hNamed oid result List.mem_cons_self
          have hOther := hNamed oid' result'
            (List.mem_cons_of_mem _ hIn')
          apply hNames.1
          rw [show (oid, (Except.ok result : Outcome)).1 = oid
            from rfl, ← hOwn, ← hSame, hOther]
          exact List.mem_map_of_mem hIn'

/-
  The total of an evaluation, after any others: the points
  of what is achieved and found in it, each objective once,
  with one bonus at most for each; the same where the same
  is found at the same times; and never more than the points
  and bonuses there are.
-/
theorem repeated_scoring
    (sc : Scenario)
    (calls : List (String → Validation))
    (validate : String → Validation) :
    let s := (Session.init sc.objectives).after calls
    let scored := (s.evaluate validate).1.1
    let fresh := s.engine.newBonuses validate
    (scored.totalScore =
        (scored.objectives.map ownPoints).sum +
          (fresh.map Bonus.points).sum ∧
      (scored.objectives.map
        ObjectiveResult.objectiveId).Nodup ∧
      (∀ result ∈ scored.objectives,
        ((Dict.ofPairs sc.objectives).get?
            result.objectiveId).map Objective.maxPoints =
          some result.maxPoints) ∧
      (fresh.map Bonus.objectiveId).Nodup ∧
      ∀ bonus ∈ fresh, ∃ result ∈ scored.objectives,
        result.objectiveId = bonus.objectiveId ∧
          result.achieved = true) ∧
    (∀ calls' validate',
      let s' := (Session.init sc.objectives).after calls'
      (∀ oid, scored.finding oid =
        (s'.evaluate validate').1.1.finding oid) →
      (∀ oid, (validate oid).elapsed = (validate' oid).elapsed) →
        scored.totalScore =
          (s'.evaluate validate').1.1.totalScore) ∧
    scored.totalScore ≤
      ((Dict.ofPairs sc.objectives).entries.map (fun entry =>
        entry.2.maxPoints + entry.2.fullBonus)).sum := by
  intro s scored fresh
  have hObjectives (calls' : List (String → Validation)) :
      ((Session.init sc.objectives).after calls').engine.objectives =
        Dict.ofPairs sc.objectives :=
    Session.objectives_after _ calls'
  have hFit := fun (engine : ScoringEngine) validate =>
    outcomes_fit validate engine.results
      engine.objectives.entries
  have hTotal : scored.totalScore =
      ((s.engine.outcomes validate).map awarded).sum :=
    totalScore_eq s.engine
  refine ⟨⟨?_, names_of_judged s.engine validate, ?_,
    newBonuses_spec s.engine validate⟩, ?_, ?_⟩
  · have hSum := sum_ownPoints s.engine
      (hFit s.engine validate)
      (fun entry hMem => Dict.get?_eq_some_iff.mpr hMem)
    have hPerm := newBonuses_perm s.engine validate
    rw [hTotal, (hPerm.map Bonus.points).sum_eq]
    exact hSum
  · intro result hMem
    rw [← hObjectives calls]
    exact maxPoints_of_judged hMem
  · intro calls' validate' s' hSame hTime
    have hTotal' : (s'.evaluate validate').1.1.totalScore =
        ((s'.engine.outcomes validate').map awarded).sum :=
      totalScore_eq s'.engine
    have hEntries : s'.engine.objectives.entries =
        s.engine.objectives.entries := by
      rw [hObjectives calls', hObjectives calls]
    have hFit' := hFit s'.engine validate'
    rw [hEntries] at hFit'
    rw [hTotal, hTotal']
    unfold ScoringEngine.outcomes
    rw [hEntries]
    apply total_congr (hFit s.engine validate) hFit' _ hTime
    intro oid outcome outcome' hMem hMem'
    have hFound : scored.finding oid = findingOf outcome :=
      finding_of_mem hMem
    have hFound' : (s'.evaluate validate').1.1.finding oid =
        findingOf outcome' := by
      apply finding_of_mem
      unfold ScoringEngine.outcomes
      rw [hEntries]
      exact hMem'
    rw [← hFound, ← hFound', hSame oid]
  · rw [hTotal, ← hObjectives calls]
    apply total_le (hFit s.engine validate)
    intro entry hMem
    have hGet := Dict.get?_eq_some_iff.mpr hMem
    rw [hObjectives calls] at hGet
    exact sc.hPoints _ (Dict.mem_of_get?_ofPairs hGet)

namespace Drill

def contain : Objective where
  name := "contain"
  maxPoints := 40
  timeBonus := false
  timeLimitSeconds := 0
  partialCredit := true
  threshold := 1
  dependsOn := []

def scenario : Scenario where
  objectives := [("contain", contain)]
  hPoints := by
    intro entry hMem
    rw [List.mem_singleton.mp hMem]
    decide

def contained (_ : String) : Validation where
  answer := .returned true []
  waits := false
  elapsed := 30

/- The second evaluation gives what the first one gave. -/
theorem same_total :
    (((Session.init scenario.objectives).after []).evaluate
        contained).1.1.totalScore =
      (((Session.init scenario.objectives).after
        [contained]).evaluate contained).1.1.totalScore :=
  (repeated_scoring scenario [] contained).2.1 [contained]
    contained (fun _ => rfl) (fun _ => rfl)

end Drill

end Scoring

end TrueNorth
