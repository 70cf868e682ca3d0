import TrueNorth.Lib.Rounding
import TrueNorth.Cmi5.Admission
import TrueNorth.Cmi5.Crashes
import TrueNorth.Cmi5.Scope
import TrueNorth.Cmi5.Structure

/-
  What the verdicts of an AU with a mastery score say of its
  score, and of the score TrueNorth marked.

  The reported score is compared with the mastery score as
  it is, and with the mark up to a tolerance.

  Key definitions include:
    * `scaledScore`, `finiteNumber?`
    * `tolerance`
    * `Marked`

  Main theorems:
    * `checkDefined_judged`
    * `verdicts_mastered`
    * `passed_below_mark`
-/

--------
-- Finite Numbers
--------

namespace TrueNorth

namespace Cmi5

open Checks

/- The finite number that a value is. -/
def finiteNumber? (j : Json) : Option Rat :=
  match j.number?.map Number.value with
  | some (.finite x) => some x
  | _ => none

/-
  `1e-4`, and what is lost when a score or a difference is
  rounded to a double.
-/
def tolerance : Rat := 1 / 10000 + 1 / 10 ^ 15

/- `1e-4` as a double, and what a difference loses. -/
def closeness : Rat := 1 / 10000 + 1 / 10 ^ 19

/- A number as a double: only an integer is rounded. -/
def Near (v x : Rat) : Prop :=
  v = x ∨ (∃ n : Int, x = n) ∧
    |v - x| ≤ |x| / 2 ^ 53 + 1 / 2 ^ 200

theorem value_of_finite
    {j : Json}
    {number : Number}
    (hFinite : j.finite = true)
    (hNumber : j.number? = some number) :
    ∃ x, number.value = .finite x := by
  cases j with
  | bool value =>
      cases hNumber
      exact ⟨_, rfl⟩
  | int value =>
      cases hNumber
      exact ⟨_, rfl⟩
  | float value =>
      cases hNumber
      cases value with
      | finite x => exact ⟨x, rfl⟩
      | infinite negative => cases hFinite
      | nan => cases hFinite
  | _ => cases hNumber

/- A finite number as a double is near to it. -/
theorem toDouble_near
    {number : Number}
    {x : Rat}
    {given : Double}
    (hValue : number.value = .finite x)
    (hGiven : number.toDouble = some given) :
    ∃ v, given = .finite v ∧ Near v x := by
  cases number with
  | float value =>
      cases hGiven
      exact ⟨x, hValue, .inl rfl⟩
  | int n =>
      have hSame : (n : Rat) = x := Double.finite.inj hValue
      unfold Number.toDouble at hGiven
      simp only at hGiven
      split at hGiven
      · rename_i v hFinite
        cases hGiven
        refine ⟨v, rfl, .inr ⟨⟨n, hSame.symm⟩, ?_⟩⟩
        rw [← hSame]
        exact Double.abs_ofRat_sub_le hFinite
      · cases hGiven

/- Two doubles that are not told apart are near. -/
theorem near_of_tolerance
    {v : Rat}
    {graded : Double}
    (hLess :
      Number.lt (.float (Double.ofRat (1 / 10000)))
        (.float (Double.sub (.finite v) graded).abs) = false) :
    graded = .nan ∨
      ∃ mark, graded = .finite mark ∧
        |v - mark| < closeness := by
  have hLimit : Double.ofRat (1 / 10000) =
      .finite (7378697629483821 / 73786976294838206464) := by
    decide +kernel
  rw [hLimit] at hLess
  cases graded with
  | nan => exact .inl rfl
  | infinite negative => cases hLess
  | finite mark =>
      refine .inr ⟨mark, rfl, ?_⟩
      have hDifference : Double.sub (.finite v) (.finite mark) =
          Double.ofRat (v - mark) := rfl
      rw [hDifference] at hLess
      cases hSub : Double.ofRat (v - mark) with
      | nan =>
          unfold Double.ofRat at hSub
          split at hSub
          · cases hSub
          · simp only at hSub
            split at hSub
            · cases hSub
            · cases hSub
      | infinite negative =>
          rw [hSub] at hLess
          cases hLess
      | finite apart =>
          have hNear := Double.abs_ofRat_sub_le hSub
          rw [hSub] at hLess
          have hSmall : |apart| ≤
              7378697629483821 / 73786976294838206464 :=
            not_lt.mp (of_decide_eq_false hLess)
          have hFar : |v - mark| ≤
              |apart - (v - mark)| + |apart| := by
            have hSum := abs_sub_abs_le_abs_sub (v - mark) apart
            have hSwap : |v - mark - apart| =
                |apart - (v - mark)| :=
              abs_sub_comm _ _
            linarith
          unfold closeness
          norm_num at hNear ⊢
          linarith

--------
-- Judged Statements
--------

open Checks

variable {view : SessionView}
variable {mastery : Double}

/-
  The mark, where it is required: there is one, and as a
  number it is so.
-/
def Marked
    (view : SessionView)
    (holds : Rat → Prop) : Prop :=
  view.requireGraded = true →
    ∃ graded, view.graded = some graded ∧
      (graded = .nan ∨
        ∃ mark, graded = .finite mark ∧ holds mark)

/- A score that is there is in an object, of a result. -/
theorem scaledOf_ok
    {verb : String}
    {context activities : List (String × Json)}
    {result : Option (List (String × Json))}
    {scaled : Json}
    (hCarried :
      checkCarried verb view context activities result =
        .ok ())
    (hScaled : scaledOf result = .ok scaled)
    (hSome : scaled.isNull = false) :
    ∃ members score, result = some members ∧
      Json.lookup members "score" = .obj score ∧
      Json.lookup score "scaled" = scaled := by
  unfold scaledOf at hScaled
  rcases checkCarried_score hCarried with hNull |
    ⟨score, hScore, _⟩
  · rw [hNull] at hScaled
    cases hScaled
    cases hSome
  · rw [hScore] at hScaled
    dsimp only at hScaled
    rw [orEmpty_obj] at hScaled
    cases result with
    | none => cases hScore
    | some members =>
        exact ⟨members, score, rfl, hScore,
          Except.ok.inj hScaled⟩

/- The score of a result that was checked was checked. -/
theorem checkCarried_scored
    {verb : String}
    {context activities members score : List (String × Json)}
    (hCarried :
      checkCarried verb view context activities (some members) =
        .ok ())
    (hScore : Json.lookup members "score" = .obj score) :
    checkScore verb view context score = .ok () := by
  have hResult : checkResult verb view context activities members =
      .ok () := hCarried
  unfold checkResult at hResult
  rcases bind_eq_ok.mp hResult with ⟨_, _, hResult⟩
  rcases bind_eq_ok.mp hResult with ⟨_, _, hResult⟩
  rcases bind_eq_ok.mp hResult with ⟨_, _, hResult⟩
  rcases bind_eq_ok.mp hResult with ⟨_, _, hResult⟩
  rcases bind_eq_ok.mp hResult with ⟨_, _, hResult⟩
  rcases bind_eq_ok.mp hResult with ⟨_, _, hResult⟩
  rcases bind_eq_ok.mp hResult with ⟨_, _, hResult⟩
  rcases bind_eq_ok.mp hResult with ⟨found, hFound, hResult⟩
  rcases bind_eq_ok.mp hResult with ⟨_, hScored, _⟩
  unfold scoreOf at hFound
  simp only [hScore] at hFound
  split at hFound
  · cases hFound
  · cases hFound
    exact hScored

/- A score is judged against a mastery score that is finite. -/
theorem checkScore_mastery
    {verb : String}
    {context score : List (String × Json)}
    (hChecked : checkScore verb view context score = .ok ())
    (hMastery : view.masteryScore = some mastery)
    (hFinite : (Json.obj context).finite = true) :
    ∃ least, mastery = .finite least := by
  unfold checkScore at hChecked
  rcases bind_eq_ok.mp hChecked with ⟨_, _, hChecked⟩
  rcases bind_eq_ok.mp hChecked with ⟨_, _, hChecked⟩
  rw [hMastery] at hChecked
  rcases bind_eq_ok.mp hChecked with ⟨ext, hExt, hChecked⟩
  have hExtFinite : ext.finite = true := by
    have hExtensions := finite_lookup hFinite "extensions"
    unfold Json.orEmpty get at hExt
    split at hExt
    · rename_i members hMembers
      cases Except.ok.inj hExt
      split at hMembers
      · rw [hMembers] at hExtensions
        exact finite_lookup hExtensions extMastery
      · cases hMembers
        rfl
    · cases hExt
  cases hNumber : ext.number? with
  | none =>
      rw [hNumber] at hChecked
      cases hChecked
  | some number =>
      rw [hNumber] at hChecked
      rcases bind_eq_ok.mp hChecked with ⟨given, hGiven, hSame⟩
      rcases value_of_finite hExtFinite hNumber with ⟨x, hValue⟩
      have hDouble : number.toDouble = some given := by
        unfold toFloat at hGiven
        split at hGiven
        · rename_i value hSome
          cases hGiven
          exact hSome
        · cases hGiven
      rcases toDouble_near hValue hDouble with ⟨v, rfl, _⟩
      rw [refuseIf_eq_ok, Bool.not_eq_false'] at hSame
      cases mastery with
      | finite least => exact ⟨least, rfl⟩
      | infinite negative => cases hSame
      | nan => cases hSame

/- A mark that a reported score is not off is near to it. -/
theorem offMark_near
    {scaled : Json}
    {number : Number}
    {x : Rat}
    {graded : Double}
    (hNumber : scaled.number? = some number)
    (hValue : number.value = .finite x)
    (hOff : offMark scaled graded = .ok false) :
    ∃ v, Near v x ∧
      (graded = .nan ∨
        ∃ mark, graded = .finite mark ∧
          |v - mark| < closeness) := by
  unfold offMark at hOff
  rw [hNumber] at hOff
  rcases bind_eq_ok.mp hOff with ⟨given, hGiven, hFar⟩
  have hDouble : number.toDouble = some given := by
    unfold toFloat at hGiven
    split at hGiven
    · rename_i value hSome
      cases hGiven
      exact hSome
    · cases hGiven
  rcases toDouble_near hValue hDouble with ⟨v, rfl, hNear⟩
  rw [Except.ok.injEq, Bool.or_eq_false_iff] at hFar
  exact ⟨v, hNear, near_of_tolerance hFar.2⟩

/- A score below, or not below, what it is judged against. -/
theorem compared_ok
    {scaled : Json}
    {number : Number}
    {test : Number → Number → Bool}
    (hMastery : view.masteryScore = some mastery)
    (hNumber : scaled.number? = some number)
    (hCompared : compared scaled view test = .ok false) :
    test number (.float mastery) = false := by
  unfold compared at hCompared
  rw [hMastery, hNumber] at hCompared
  simp only at hCompared
  split at hCompared
  · next hNull =>
      cases scaled with
      | null => cases hNumber
      | _ => cases hNull
  · exact Except.ok.inj hCompared

/- What is judged has a score, and is near a required mark. -/
theorem checkMark_ok
    {scaled : Json}
    (hMark : checkMark view scaled = .ok ())
    (hMastery : view.masteryScore = some mastery) :
    scaled.isNull = false ∧
      (view.requireGraded = true →
        ∃ graded, view.graded = some graded ∧
          offMark scaled graded = .ok false) := by
  unfold checkMark at hMark
  rcases bind_eq_ok.mp hMark with ⟨_, hScore, hMark⟩
  rw [refuseIf_eq_ok, hMastery] at hScore
  refine ⟨by simpa using hScore, ?_⟩
  intro hRequire
  rw [if_pos hRequire] at hMark
  cases hGraded : view.graded with
  | none =>
      rw [hGraded] at hMark
      cases hMark
  | some graded =>
      rw [hGraded] at hMark
      rcases bind_eq_ok.mp hMark with ⟨off, hOff, hNot⟩
      rw [refuseIf_eq_ok] at hNot
      rw [hNot] at hOff
      exact ⟨graded, rfl, hOff⟩

--------
-- Accepted Statements
--------

open Checks

variable {view : SessionView}
variable {mastery : Double}

/- A member of what is meant to be an object. -/
def memberOf
    (j : Json)
    (key : String) : Json :=
  Json.lookup (j.members?.getD []) key

/- The verb id of a statement. -/
def verbId (st : Json) : Json :=
  memberOf (memberOf st "verb") "id"

/- The scaled score of a statement. -/
def scaledScore (st : Json) : Json :=
  memberOf (memberOf (memberOf st "result") "score") "scaled"

theorem readVerb_id
    {st : List (String × Json)}
    {verb : String}
    (hVerb : readVerb st = .ok verb) :
    verbId (.obj st) = .str verb := by
  have hMembers : ∀ j, get (Json.lookup st "verb").orEmpty "id" =
      .ok j → verbId (.obj st) = j := by
    intro j hGet
    unfold Json.orEmpty get at hGet
    unfold verbId memberOf
    cases hShape : Json.lookup st "verb" with
    | obj members =>
        rw [hShape] at hGet
        split at hGet
        · rename_i members' hSame
          cases Except.ok.inj hGet
          split at hSame
          · cases hSame
            simp [Json.members?, hShape]
          · rename_i hFalsy
            cases hSame
            cases members with
            | nil => simp [Json.members?, hShape]
            | cons member members => exact absurd rfl hFalsy
        · cases hGet
    | _ =>
        rw [hShape] at hGet
        split at hGet
        · rename_i members' hSame
          cases Except.ok.inj hGet
          split at hSame
          · cases hSame
          · cases hSame
            simp [Json.members?, hShape]
        · cases hGet
  unfold readVerb at hVerb
  rcases bind_eq_ok.mp hVerb with ⟨id, hId, hVerb⟩
  rw [hMembers id hId]
  split at hVerb
  · rcases bind_eq_ok.mp hVerb with ⟨_, _, hVerb⟩
    rcases bind_eq_ok.mp hVerb with ⟨_, _, hVerb⟩
    split at hVerb
    · cases hVerb
      rfl
    · rcases bind_eq_ok.mp hVerb with ⟨_, _, hSame⟩
      cases hSame
      rfl
  · cases hVerb

/- An accepted statement, and whether it is cmi5-defined. -/
theorem check_defined
    {st : Json}
    {earlier : List String}
    {verdict : Option String}
    (hCheck : check st view earlier = .ok verdict) :
    ∃ members verb context activities,
      st = .obj members ∧
      (Json.obj members).finite = true ∧
      verbId st = .str verb ∧
      Json.lookup members "context" = .obj context ∧
      (verdict = none ∧ verb ∉ auDefined ∨
        verdict = some verb ∧
          checkDefined members context activities verb view
            earlier = .ok verb) := by
  unfold check at hCheck
  rcases bind_eq_ok.mp hCheck with ⟨members, hRead, hCheck⟩
  rcases bind_eq_ok.mp hCheck with ⟨verb, hVerb, hCheck⟩
  rcases bind_eq_ok.mp hCheck with ⟨_, _, hCheck⟩
  rcases bind_eq_ok.mp hCheck with
    ⟨⟨context, activities⟩, hContext, hCheck⟩
  rcases bind_eq_ok.mp hCheck with ⟨categories, _, hCheck⟩
  rcases bind_eq_ok.mp hCheck with ⟨_, _, hCheck⟩
  rcases bind_eq_ok.mp hCheck with ⟨_, _, hCheck⟩
  rcases bind_eq_ok.mp hCheck with ⟨_, _, hCheck⟩
  have hObject := readStatement_ok hRead
  refine ⟨members, verb, context, activities, hObject,
    readVerb_finite hVerb, ?_, (checkContext_ok hContext).1, ?_⟩
  · rw [hObject]
    exact readVerb_id hVerb
  · split at hCheck
    case isTrue =>
      rcases bind_eq_ok.mp hCheck with ⟨verb', hDefined, hSame⟩
      cases hSame
      rcases checkDefined_ok hDefined with ⟨rfl, _⟩
      exact .inr ⟨rfl, hDefined⟩
    case isFalse =>
      rcases bind_eq_ok.mp hCheck with ⟨_, hAllowed, hSame⟩
      cases hSame
      rcases bind_eq_ok.mp hAllowed with ⟨_, hOther, _⟩
      rw [refuseIf_eq_ok, decide_eq_false_iff_not] at hOther
      exact .inl ⟨rfl, hOther⟩

/- What the score of a judging statement went through. -/
structure Judged
    (st : Json)
    (verb : String)
    (view : SessionView)
    (sent : List String)
    (number : Number)
    (score least : Rat) : Prop where
  isNumber : (scaledScore st).number? = some number
  isScore : number.value = .finite score
  isMastery : view.masteryScore = some (.finite least)
  sequence : checkSequence verb view sent (scaledScore st) =
    .ok ()
  graded : view.requireGraded = true →
    ∃ graded, view.graded = some graded ∧
      offMark (scaledScore st) graded = .ok false

theorem checkDefined_judged
    {members context activities : List (String × Json)}
    {verb : String}
    {earlier : List String}
    (hDefined :
      checkDefined members context activities verb view earlier =
        .ok verb)
    (hVerb : verb = passed ∨ verb = failed)
    (hFinite : (Json.obj members).finite = true)
    (hContext : Json.lookup members "context" = .obj context)
    (hMastery : view.masteryScore = some mastery) :
    ∃ number score least,
      Judged (.obj members) verb view (view.sent ++ earlier)
        number score least := by
  unfold checkDefined at hDefined
  rcases bind_eq_ok.mp hDefined with ⟨_, _, hDefined⟩
  rcases bind_eq_ok.mp hDefined with ⟨_, _, hDefined⟩
  rcases bind_eq_ok.mp hDefined with ⟨_, _, hDefined⟩
  rcases bind_eq_ok.mp hDefined with ⟨_, _, hDefined⟩
  rcases bind_eq_ok.mp hDefined with ⟨_, _, hDefined⟩
  rcases bind_eq_ok.mp hDefined with ⟨_, _, hDefined⟩
  rcases bind_eq_ok.mp hDefined with ⟨_, hCarried, hDefined⟩
  rcases bind_eq_ok.mp hDefined with ⟨scaled, hScaled, hDefined⟩
  rcases bind_eq_ok.mp hDefined with ⟨_, hMark, hDefined⟩
  rcases bind_eq_ok.mp hDefined with ⟨_, hSequence, _⟩
  rw [only_eq_ok] at hMark
  have hJudges : (verb = passed || verb = failed) = true := by
    simpa using hVerb
  rcases checkMark_ok (hMark hJudges) hMastery with
    ⟨hSome, hGraded⟩
  rcases scaledOf_ok hCarried hScaled hSome with
    ⟨result, score, hResult, hScore, hSame⟩
  have hLookup : Json.lookup members "result" = .obj result := by
    unfold resultOf at hResult
    cases hShape : Json.lookup members "result" with
    | obj members' =>
        rw [hShape] at hResult
        cases hResult
        rfl
    | _ =>
        rw [hShape] at hResult
        cases hResult
  have hThere : scaledScore (.obj members) = scaled := by
    simp only [scaledScore, memberOf, Json.members?,
      Option.getD_some, hLookup, hScore, hSame]
  have hResultFinite := finite_lookup hFinite "result"
  rw [hLookup] at hResultFinite
  have hScoreFinite := finite_lookup hResultFinite "score"
  rw [hScore] at hScoreFinite
  have hScaledFinite := finite_lookup hScoreFinite "scaled"
  rw [hSame] at hScaledFinite
  have hContextFinite := finite_lookup hFinite "context"
  rw [hContext] at hContextFinite
  have hResultOf : (Json.obj ((resultOf members).getD [])).finite =
      true := by
    rw [hResult]
    exact hResultFinite
  have hShape := scaledOf_scaled hCarried hResultOf hScaled
  rcases hShape.isNumber hSome with ⟨number, hNumber⟩
  rcases value_of_finite hScaledFinite hNumber with
    ⟨value, hValue⟩
  rw [hResult] at hCarried
  rcases checkScore_mastery (checkCarried_scored hCarried hScore)
    hMastery hContextFinite with ⟨least, rfl⟩
  rw [← hThere] at hNumber hSequence hGraded
  exact ⟨number, value, least, hNumber, hValue, hMastery,
    hSequence, hGraded⟩

theorem mark_above
    {v score least mark : Rat}
    (hNear : Near v score)
    (hMark : |v - mark| < closeness)
    (hLeast : 0 ≤ least ∧ least ≤ 1)
    (hScore : least ≤ score) :
    least - mark < tolerance := by
  have hClose := (abs_lt.mp hMark).2
  unfold closeness at hClose
  unfold tolerance
  rcases hNear with rfl | ⟨⟨n, hInt⟩, hNear⟩
  · norm_num at hClose ⊢
    linarith
  · have hLow := (abs_le.mp hNear).1
    have hNonneg : 0 ≤ score := hLeast.1.trans hScore
    rw [abs_of_nonneg hNonneg] at hLow
    -- an integer that is not below the mastery score is zero
    -- with it, or at least one
    by_cases hZero : n ≤ 0
    · have hScoreZero : score ≤ 0 := by
        rw [hInt]
        exact_mod_cast hZero
      norm_num at hLow hClose ⊢
      linarith
    · have hOne : 1 ≤ score := by
        have hPositive : 1 ≤ n := by omega
        rw [hInt]
        exact_mod_cast hPositive
      norm_num at hLow hClose ⊢
      linarith

theorem mark_below
    {v score least mark : Rat}
    (hNear : Near v score)
    (hMark : |v - mark| < closeness)
    (hLeast : 0 ≤ least ∧ least ≤ 1)
    (hScore : score < least) :
    mark - least < tolerance := by
  have hClose := (abs_lt.mp hMark).1
  unfold closeness at hClose
  unfold tolerance
  rcases hNear with rfl | ⟨⟨n, hInt⟩, hNear⟩
  · norm_num at hClose ⊢
    linarith
  · have hHigh := (abs_le.mp hNear).2
    -- an integer below the mastery score is not positive
    have hZero : score ≤ 0 := by
      have hBelow : (n : Rat) < 1 := by linarith
      have hNot : n ≤ 0 := by
        have hLt : n < 1 := by exact_mod_cast hBelow
        omega
      rw [hInt]
      exact_mod_cast hNot
    rw [abs_of_nonpos hZero] at hHigh
    norm_num at hHigh hClose ⊢
    linarith

/- A required mark is as near as the score is to it. -/
theorem Judged.marked
    {st : Json}
    {verb : String}
    {sent : List String}
    {number : Number}
    {score least : Rat}
    {holds : Rat → Prop}
    (hJudged : Judged st verb view sent number score least)
    (hHolds : ∀ v mark, Near v score →
      |v - mark| < closeness → holds mark) :
    Marked view holds := by
  intro hRequire
  rcases hJudged.graded hRequire with ⟨graded, hGraded, hOff⟩
  rcases offMark_near hJudged.isNumber hJudged.isScore hOff with
    ⟨v, hNear, hMark⟩
  refine ⟨graded, hGraded, ?_⟩
  rcases hMark with hNan | ⟨mark, hSame, hClose⟩
  · exact .inl hNan
  · exact .inr ⟨mark, hSame, hHolds v mark hNear hClose⟩

theorem Judged.score?
    {st : Json}
    {verb : String}
    {sent : List String}
    {number : Number}
    {score least : Rat}
    (hJudged : Judged st verb view sent number score least) :
    finiteNumber? (scaledScore st) = some score := by
  unfold finiteNumber?
  rw [hJudged.isNumber, Option.map_some, hJudged.isScore]

/- A passed that is in sequence is not below. -/
theorem Judged.passed_ge
    {st : Json}
    {sent : List String}
    {number : Number}
    {score least : Rat}
    (hJudged : Judged st passed view sent number score least) :
    least ≤ score := by
  have hSequence := hJudged.sequence
  unfold checkSequence at hSequence
  rcases bind_eq_ok.mp hSequence with ⟨_, _, hSequence⟩
  rcases bind_eq_ok.mp hSequence with ⟨_, _, hSequence⟩
  rcases bind_eq_ok.mp hSequence with ⟨_, hPassed, _⟩
  rw [only_eq_ok] at hPassed
  rcases bind_eq_ok.mp (hPassed (by simp)) with
    ⟨below, hBelow, hRest⟩
  rcases bind_eq_ok.mp hRest with ⟨_, hNot, _⟩
  rw [refuseIf_eq_ok] at hNot
  rw [hNot] at hBelow
  have hLess := compared_ok hJudged.isMastery hJudged.isNumber
    hBelow
  unfold Number.lt at hLess
  rw [hJudged.isScore] at hLess
  exact not_lt.mp (of_decide_eq_false hLess)

/- A failed that is in sequence is below. -/
theorem Judged.failed_lt
    {st : Json}
    {sent : List String}
    {number : Number}
    {score least : Rat}
    (hJudged : Judged st failed view sent number score least) :
    score < least := by
  have hSequence := hJudged.sequence
  unfold checkSequence at hSequence
  rcases bind_eq_ok.mp hSequence with ⟨_, _, hSequence⟩
  rcases bind_eq_ok.mp hSequence with ⟨_, _, hSequence⟩
  rcases bind_eq_ok.mp hSequence with ⟨_, _, hFailed⟩
  rw [only_eq_ok] at hFailed
  rcases bind_eq_ok.mp (hFailed (by simp)) with
    ⟨above, hAbove, hRest⟩
  rcases bind_eq_ok.mp hRest with ⟨_, hNot, _⟩
  rw [refuseIf_eq_ok] at hNot
  rw [hNot] at hAbove
  have hNotAbove := compared_ok hJudged.isMastery
    hJudged.isNumber hAbove
  rw [Bool.or_eq_false_iff] at hNotAbove
  unfold Number.lt Number.eq at hNotAbove
  rw [hJudged.isScore] at hNotAbove
  have hLe : score ≤ least :=
    not_lt.mp (of_decide_eq_false hNotAbove.1)
  have hNe : score ≠ least := of_decide_eq_false hNotAbove.2
  exact lt_of_le_of_ne hLe hNe

/-
  The verdicts of an AU with a mastery score.

  A passed has a finite score that is not below the mastery
  score, and a failed one that is below.  A mark that is
  required is then below the mastery score, or above it, by
  less than the tolerance.
-/
theorem verdicts_mastered
    {st : Json}
    {earlier : List String}
    {verdict : Option String}
    (hCheck : check st view earlier = .ok verdict)
    (hMastery : view.masteryScore = some mastery) :
    (verbId st = .str passed →
      verdict = some passed ∧
      ∃ score least,
        finiteNumber? (scaledScore st) = some score ∧
        mastery = .finite least ∧ least ≤ score ∧
        (Structure.inUnit mastery = true →
          Marked view (fun mark => least - mark < tolerance))) ∧
    (verbId st = .str failed →
      verdict = some failed ∧
      ∃ score least,
        finiteNumber? (scaledScore st) = some score ∧
        mastery = .finite least ∧ score < least ∧
        (Structure.inUnit mastery = true →
          Marked view (fun mark => mark - least < tolerance))) := by
  rcases check_defined hCheck with
    ⟨members, verb, context, activities, rfl, hFinite, hVerb,
      hContext, hDefined⟩
  have hUnit : ∀ least, mastery = .finite least →
      Structure.inUnit mastery = true → 0 ≤ least ∧ least ≤ 1 := by
    intro least hLeast hUnit
    rw [hLeast] at hUnit
    exact of_decide_eq_true hUnit
  constructor
  · intro hPassed
    rw [hPassed] at hVerb
    cases hVerb
    rcases hDefined with ⟨_, hOther⟩ | ⟨hVerdict, hDefined⟩
    · exact absurd (by decide) hOther
    · rcases checkDefined_judged hDefined (.inl rfl) hFinite
        hContext hMastery with ⟨number, score, least, hJudged⟩
      have hLeast : mastery = .finite least :=
        Option.some.inj (hMastery.symm.trans hJudged.isMastery)
      refine ⟨hVerdict, score, least, hJudged.score?, hLeast,
        hJudged.passed_ge, ?_⟩
      intro hIn
      apply hJudged.marked
      intro v mark hNear hClose
      exact mark_above hNear hClose (hUnit least hLeast hIn)
        hJudged.passed_ge
  · intro hFailed
    rw [hFailed] at hVerb
    cases hVerb
    rcases hDefined with ⟨_, hOther⟩ | ⟨hVerdict, hDefined⟩
    · exact absurd (by decide) hOther
    · rcases checkDefined_judged hDefined (.inr rfl) hFinite
        hContext hMastery with ⟨number, score, least, hJudged⟩
      have hLeast : mastery = .finite least :=
        Option.some.inj (hMastery.symm.trans hJudged.isMastery)
      refine ⟨hVerdict, score, least, hJudged.score?, hLeast,
        hJudged.failed_lt, ?_⟩
      intro hIn
      apply hJudged.marked
      intro v mark hNear hClose
      exact mark_below hNear hClose (hUnit least hLeast hIn)
        hJudged.failed_lt

--------
-- A Pass Above Its Mark
--------

open Checks

/- Two answers of three, as they are marked. -/
def twoThirds : Double := .ofRat (6667 / 10000)

/- A mastery score that is just above that mark. -/
def justAbove : Double := .ofRat (66675 / 100000)

/- A session whose passes need a mark; it was `graded`. -/
def markedView (graded : Double) : SessionView :=
  { exampleView with
    masteryScore := some justAbove
    graded := some graded }

/- A passed with a score that is the mastery score. -/
def passedStatement : Json :=
  .obj
    [("id", .str "e1"),
     ("actor", .obj
        [("account", .obj
          [("homePage", .str "https://tn"),
           ("name", .str "7")])]),
     ("verb", .obj [("id", .str passed)]),
     ("object", .obj
        [("id", .str "https://tn/xapi/course/1/au/0")]),
     ("timestamp", .str "2026-01-01T00:00:00Z"),
     ("result", .obj
        [("success", .bool true),
         ("score", .obj [("scaled", .float justAbove)]),
         ("duration", .str "PT1M")]),
     ("context", .obj
        [("registration", .str "r1"),
         ("extensions", .obj
            [(extSession, .str "s1"),
             (extMastery, .float justAbove)]),
         ("contextActivities", .obj
            [("grouping", .arr [.obj [("id", .str "urn:au")]]),
             ("category", .arr
                [.obj [("id", .str catCmi5)],
                 .obj [("id", .str catMoveon)]])])])]

theorem passed_above_mark :
    ∃ score least,
      finiteNumber? (scaledScore passedStatement) = some score ∧
      justAbove = .finite least ∧ least ≤ score ∧
      Marked (markedView twoThirds)
        (fun mark => least - mark < tolerance) := by
  have hCheck :
      check passedStatement (markedView twoThirds) [] =
        .ok (some passed) :=
    eq_ok_of_toOption (by decide +kernel)
  rcases ((verdicts_mastered hCheck rfl).1 rfl).2 with
    ⟨score, least, hScore, hLeast, hLe, hMarked⟩
  exact ⟨score, least, hScore, hLeast, hLe,
    hMarked (by decide +kernel)⟩

/- The accepted passed is above a mark that is not. -/
theorem passed_below_mark :
    (check passedStatement (markedView twoThirds) []).toOption =
      some (some passed) ∧
    (markedView twoThirds).requireGraded = true ∧
    (markedView twoThirds).graded = some twoThirds ∧
    (markedView twoThirds).masteryScore = some justAbove ∧
    Number.lt (.float twoThirds) (.float justAbove) = true := by
  decide +kernel

end Cmi5

end TrueNorth
