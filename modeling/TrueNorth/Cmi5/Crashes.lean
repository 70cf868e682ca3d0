import TrueNorth.Cmi5.Nesting

/-
  Where the check of a body raises what no handler expects:
  a value that is used as an object or a list and is none,
  or one nested deeper than the stack goes.

  Key definitions include:
    * `misshapen`, `notAList`
    * `Crashes`, `RequestCrashes`

  Main theorems:
    * `checkOn_crash_iff`
    * `never_crashes_iff`
-/

--------
-- Values That Are Used as They Come
--------

namespace TrueNorth

namespace Cmi5

open Checks

/- True, and no object: it has no `get`. -/
def misshapen (j : Json) : Bool :=
  j.truthy && !j.isObject

/- True, and nothing to iterate over. -/
def notAList (j : Json) : Bool :=
  j.truthy && j.iterate?.isNone

theorem violation_ne_crash
    (req message : String)
    (status : Nat) :
    violation req message status ≠ .crash := by
  intro h
  cases h

theorem rule_ne_crash
    (v : RuleViolation) :
    Raised.rule v ≠ .crash := by
  intro h
  cases h

/- A check that refuses by a rule does not crash. -/
theorem refuseIf_never
    {bad : Bool}
    {req message : String}
    {status : Nat} :
    Never .crash
      (refuseIf bad (violation req message status)) :=
  Never.refuseIf (violation_ne_crash req message status)

theorem refused_never
    {A : Type}
    {req message : String}
    {status : Nat} :
    Never .crash
      (.error (violation req message status) : Checked A) :=
  Never.error (violation_ne_crash req message status)

theorem get_orEmpty_ok
    {j : Json}
    {key : String}
    (hShape : misshapen j = false) :
    ∃ value, get j.orEmpty key = .ok value := by
  unfold Json.orEmpty
  split
  · next hTruthy =>
      cases j with
      | obj members => exact ⟨_, rfl⟩
      | _ => simp [misshapen, hTruthy, Json.isObject] at hShape
  · exact ⟨_, rfl⟩

theorem get_orEmpty_crash
    {j : Json}
    {key : String}
    (hShape : misshapen j = true) :
    get j.orEmpty key = .error .crash := by
  unfold misshapen at hShape
  rw [Bool.and_eq_true] at hShape
  rw [Json.orEmpty, if_pos hShape.1]
  cases j with
  | obj members => cases hShape.2
  | _ => rfl

theorem get_orEmpty_crash_iff
    {j : Json}
    {key : String} :
    get j.orEmpty key = .error .crash ↔
      misshapen j = true := by
  cases hShape : misshapen j with
  | true => simp [get_orEmpty_crash hShape]
  | false =>
      rcases @get_orEmpty_ok j key hShape with ⟨value, hOk⟩
      simp [hOk]

theorem ids_crash_iff
    {j : Json} :
    ids j = .error .crash ↔ notAList j = true := by
  unfold ids iterate notAList
  cases hTruthy : j.truthy with
  | false => simp [Json.iterate?, bind_eq_error]
  | true =>
      cases hIterate : j.iterate? with
      | none => simp [hIterate, bind_eq_error]
      | some items => simp [hIterate, bind_eq_error]

--------
-- The Stages of a Check
--------

open Checks

theorem readStatement_never
    (st : Json)
    (view : SessionView) :
    Never .crash (readStatement st view) := by
  unfold readStatement
  refine Never.bind refuseIf_never ?_
  intro _ _
  split
  · refine Never.bind (Never.each ?_) ?_
    · intro prop _
      exact refuseIf_never
    · intro _ _
      exact Never.ok _
  · exact refused_never

theorem readVerb_crash_iff
    {st : List (String × Json)} :
    readVerb st = .error .crash ↔
      misshapen (Json.lookup st "verb") = true := by
  unfold readVerb
  rw [bind_eq_error, get_orEmpty_crash_iff]
  constructor
  · rintro (hShape | ⟨id, _, hRest⟩)
    · exact hShape
    · exfalso
      revert hRest
      change Never Raised.crash _
      split
      · refine Never.bind refuseIf_never ?_
        intro _ _
        refine Never.bind refuseIf_never ?_
        intro _ _
        split
        · exact Never.ok _
        · refine Never.bind
            (Never.refuseIf (rule_ne_crash _)) ?_
          intro _ _
          exact Never.ok _
      · exact refused_never
  · exact .inl

theorem checkIdentity_never
    (st : List (String × Json))
    (verb : String) :
    Never .crash (checkIdentity st verb) := by
  unfold checkIdentity
  refine Never.bind refuseIf_never ?_
  intro _ _
  refine Never.bind refuseIf_never ?_
  intro _ _
  refine Never.bind refuseIf_never ?_
  intro _ _
  refine Never.bind refuseIf_never ?_
  intro _ _
  refine Never.bind refuseIf_never ?_
  intro _ _
  exact refuseIf_never

/- The members of an actor that is taken for an Agent. -/
def agent? (actor : Json) : Option (List (String × Json)) :=
  match actor with
  | .obj members =>
      if (getOr members "objectType" (.str "Agent")).isText
          "Agent" then some members
      else none
  | _ => none

theorem sameActor_crash_iff
    {given : Json}
    {expected : Account} :
    sameActor given expected = .error .crash ↔
      ∃ members, agent? given = some members ∧
        misshapen (Json.lookup members "account") = true := by
  cases given with
  | obj members =>
      by_cases hAgent :
          (getOr members "objectType" (.str "Agent")).isText
            "Agent" = true
      · simp only [sameActor, agent?, hAgent, if_true,
          Option.some.injEq, exists_eq_left', bind_eq_error,
          get_orEmpty_crash_iff]
        constructor
        · rintro (hShape | ⟨_, _, hShape | ⟨_, _, hRest⟩⟩)
          · exact hShape
          · exact hShape
          · cases hRest
        · exact .inl
      · simp [sameActor, agent?, hAgent]
  | _ => simp [sameActor, agent?]

theorem orEmpty_obj
    (members : List (String × Json)) :
    (Json.obj members).orEmpty = .obj members := by
  cases members <;> rfl

/- An activity of the template is an object. -/
theorem followsTemplate_never
    (key : String)
    (activity : List (String × Json))
    (have_ : List Json) :
    Never .crash (followsTemplate key [.obj activity] have_) := by
  cases have_ with
  | nil => exact refused_never
  | cons given have_ =>
      rw [followsTemplate]
      refine Never.bind (Never.ok _) ?_
      intro _ _
      refine Never.bind refuseIf_never ?_
      intro _ _
      cases have_ <;> exact Never.ok ()

/- The one list that the template has. -/
theorem matchesProperty_activities
    {context activities : List (String × Json)}
    (hActivities :
      Json.lookup context "contextActivities" =
        .obj activities)
    (activity : List (String × Json)) :
    matchesProperty context "contextActivities"
        (.obj [("grouping", .arr [.obj activity])]) =
      (do
        let have_ ← ids (Json.lookup activities "grouping")
        followsTemplate "grouping" [.obj activity] have_) := by
  rw [matchesProperty, if_pos rfl, hActivities, orEmpty_obj]
  change
    (do
      (do
        let have_ ← ids (Json.lookup activities "grouping")
        followsTemplate "grouping" [.obj activity] have_)
      .ok ()) = _
  cases ids (Json.lookup activities "grouping") with
  | error e => rfl
  | ok have_ =>
      change (followsTemplate "grouping" [.obj activity] have_ >>=
        fun _ => .ok ()) = followsTemplate _ _ have_
      cases followsTemplate "grouping" [.obj activity] have_ <;>
        rfl

theorem extensions_ne :
    "extensions" ≠ "contextActivities" := by
  decide

theorem matchesProperty_extensions_never
    (context : List (String × Json))
    (sessionId : String) :
    Never .crash
      (matchesProperty context "extensions"
        (.obj [(extSession, .str sessionId)])) := by
  rw [matchesProperty, if_neg extensions_ne]
  cases Json.lookup context "extensions" with
  | obj given =>
      refine Never.each ?_
      intro member _
      exact Never.refuseIf (rule_ne_crash _)
  | _ => exact refused_never

/- The template's lists, and what stands in their place. -/
theorem matchesTemplate_crash_iff
    {context activities : List (String × Json)}
    {au : AU}
    {sessionId : String}
    (hActivities :
      Json.lookup context "contextActivities" =
        .obj activities) :
    matchesTemplate context (World.contextTemplate au sessionId) =
        .error .crash ↔
      notAList (Json.lookup activities "grouping") = true := by
  unfold matchesTemplate World.contextTemplate
  rw [each, bind_eq_error, matchesProperty_activities hActivities,
    bind_eq_error, ids_crash_iff]
  constructor
  · rintro ((hShape | ⟨have_, _, hFollows⟩) | ⟨_, _, hRest⟩)
    · exact hShape
    · exact absurd hFollows (followsTemplate_never _ _ _)
    · rw [each, bind_eq_error] at hRest
      rcases hRest with hRest | ⟨_, _, hRest⟩
      · exact absurd hRest
          (matchesProperty_extensions_never _ _)
      · cases hRest
  · intro hShape
    exact .inl (.inl hShape)

/- What a context that follows the template has. -/
theorem matchesTemplate_ok
    {context : List (String × Json)}
    {au : AU}
    {sessionId : String}
    (hMatches :
      matchesTemplate context
          (World.contextTemplate au sessionId) =
        .ok ()) :
    misshapen (Json.lookup context "extensions") = false := by
  unfold matchesTemplate World.contextTemplate at hMatches
  have hExtensions := each_eq_ok.mp hMatches ("extensions", _)
    (List.mem_cons_of_mem _ List.mem_cons_self)
  cases hGiven : Json.lookup context "extensions" with
  | obj given => simp [misshapen, Json.isObject]
  | _ =>
      rw [matchesProperty, if_neg extensions_ne, hGiven]
        at hExtensions
      cases hExtensions

/- A list that can be gone through, with nothing foreign. -/
def CleanList
    (view : SessionView)
    (j : Json) : Prop :=
  ∃ named, ids j = .ok named ∧
    named.any (outside view) = false

theorem checkActivities_crash_iff
    {activities : List (String × Json)}
    {view : SessionView} :
    checkActivities activities view = .error .crash ↔
      ∃ before key after,
        contextKeys = before ++ key :: after ∧
          (∀ k ∈ before,
            CleanList view (Json.lookup activities k)) ∧
          notAList (Json.lookup activities key) = true := by
  unfold checkActivities
  rw [each_eq_error]
  simp only [bind_eq_ok, bind_eq_error, ids_crash_iff,
    refuseIf_eq_ok, refuseIf_eq_error, CleanList,
    violation_ne_crash, and_false, exists_false, or_false]

theorem checkActivities_ok
    {activities : List (String × Json)}
    {view : SessionView}
    (hCheck : checkActivities activities view = .ok ()) :
    notAList (Json.lookup activities "category") = false := by
  have hCategory := each_eq_ok.mp hCheck "category"
    (by simp [contextKeys])
  rcases bind_eq_ok.mp hCategory with ⟨named, hNamed, _⟩
  cases hList : notAList (Json.lookup activities "category") with
  | false => rfl
  | true =>
      rw [ids_crash_iff.mpr hList] at hNamed
      cases hNamed

/- The context of the launch's own actor. -/
structure HasContext
    (st : List (String × Json))
    (view : SessionView)
    (context activities : List (String × Json)) : Prop where
  same : sameActor (Json.lookup st "actor") view.actor = .ok true
  isContext : Json.lookup st "context" = .obj context
  areActivities : Json.lookup context "contextActivities" =
    .obj activities

theorem checkContext_crash_iff
    {st : List (String × Json)}
    {view : SessionView} :
    checkContext st view = .error .crash ↔
      sameActor (Json.lookup st "actor") view.actor =
          .error .crash ∨
        ∃ context activities,
          HasContext st view context activities ∧
            (matchesTemplate context view.contextTemplate =
                .error .crash ∨
              matchesTemplate context view.contextTemplate =
                  .ok () ∧
                checkActivities activities view =
                  .error .crash) := by
  unfold checkContext
  rw [bind_eq_error]
  apply or_congr Iff.rfl
  constructor
  · rintro ⟨same, hSame, hRest⟩
    rcases bind_eq_error.mp hRest with hRest | ⟨_, hOk, hRest⟩
    · exact absurd hRest refuseIf_never
    · rw [refuseIf_eq_ok, Bool.not_eq_false'] at hOk
      split at hRest
      · next context hContext =>
          split at hRest
          · next activities hActivities =>
              refine ⟨context, activities,
                ⟨hOk ▸ hSame, hContext, hActivities⟩, ?_⟩
              rcases bind_eq_error.mp hRest with
                hMatches | ⟨_, hMatches, hRest⟩
              · exact .inl hMatches
              · rcases bind_eq_error.mp hRest with
                  hForeign | ⟨_, _, hRest⟩
                · exact .inr ⟨hMatches, hForeign⟩
                · cases hRest
          · exact absurd hRest refused_never
      · exact absurd hRest refused_never
  · rintro ⟨context, activities, hHas, hCrash⟩
    refine ⟨true, hHas.same, ?_⟩
    rw [bind_eq_error]
    refine .inr ⟨(), rfl, ?_⟩
    rw [hHas.isContext]
    change (match Json.lookup context "contextActivities" with
      | .obj activities => _
      | _ => _) = _
    rw [hHas.areActivities]
    rcases hCrash with hMatches | ⟨hMatches, hForeign⟩
    · exact bind_eq_error.mpr (.inl hMatches)
    · exact bind_eq_error.mpr (.inr ⟨(), hMatches,
        bind_eq_error.mpr (.inl hForeign)⟩)

theorem checkContext_has
    {st context activities : List (String × Json)}
    {view : SessionView}
    (hCheck :
      checkContext st view = .ok (context, activities)) :
    HasContext st view context activities ∧
      matchesTemplate context view.contextTemplate = .ok () ∧
      checkActivities activities view = .ok () := by
  unfold checkContext at hCheck
  rcases bind_eq_ok.mp hCheck with ⟨same, hSame, hCheck⟩
  rcases bind_eq_ok.mp hCheck with ⟨_, hRefused, hCheck⟩
  split at hCheck
  · next context' hContext =>
      split at hCheck
      · next activities' hActivities =>
          rcases bind_eq_ok.mp hCheck with ⟨_, hMatches, hCheck⟩
          rcases bind_eq_ok.mp hCheck with ⟨_, hClean, hCheck⟩
          cases hCheck
          rw [refuseIf_eq_ok, Bool.not_eq_false'] at hRefused
          rw [hRefused] at hSame
          exact ⟨⟨hSame, hContext, hActivities⟩, hMatches,
            hClean⟩
      · cases hCheck
  · cases hCheck

--------
-- What Follows the Context
--------

open Checks

/- `get` of an extensions value, or of a score. -/
theorem get_orEmpty_never
    {j : Json}
    {key : String}
    (hShape : misshapen j = false) :
    Never .crash (get j.orEmpty key) := by
  intro hCrash
  rw [get_orEmpty_crash_iff.mp hCrash] at hShape
  cases hShape

theorem ids_never
    {j : Json}
    (hList : notAList j = false) :
    Never .crash (ids j) := by
  intro hCrash
  rw [ids_crash_iff.mp hCrash] at hList
  cases hList

theorem checkSession_never
    {context : List (String × Json)}
    (verb : String)
    (view : SessionView)
    (earlier : List String)
    (hExtensions :
      misshapen (Json.lookup context "extensions") = false) :
    Never .crash (checkSession context verb view earlier) := by
  unfold checkSession
  refine Never.bind refuseIf_never ?_
  intro _ _
  refine Never.bind (get_orEmpty_never hExtensions) ?_
  intro _ _
  refine Never.bind refuseIf_never ?_
  intro _ _
  refine Never.bind refuseIf_never ?_
  intro _ _
  exact refuseIf_never

theorem checkObject_never
    (st : List (String × Json))
    (view : SessionView) :
    Never .crash (checkObject st view) := by
  unfold checkObject
  split
  · refine Never.bind refuseIf_never ?_
    intro _ _
    exact refuseIf_never
  · exact refused_never

theorem checkAllowed_never
    (st : List (String × Json))
    (verb : String) :
    Never .crash (checkAllowed st verb) := by
  unfold checkAllowed
  refine Never.bind refuseIf_never ?_
  intro _ _
  split
  · exact Never.ok ()
  · exact refuseIf_never

theorem finite_of_mem
    {members : List (String × Json)}
    (hFinite : Json.finiteMembers members = true)
    {member : String × Json}
    (hMem : member ∈ members) :
    member.2.finite = true := by
  induction members with
  | nil => cases hMem
  | cons member' members ih =>
      rw [Json.finiteMembers, Bool.and_eq_true] at hFinite
      rcases List.mem_cons.mp hMem with rfl | hMem
      · rcases member with ⟨key, value⟩
        exact hFinite.1
      · exact ih hFinite.2 hMem

/- Every value of a finite object is finite. -/
theorem finite_lookup
    {members : List (String × Json)}
    (hFinite : (Json.obj members).finite = true)
    (key : String) :
    (Json.lookup members key).finite = true := by
  rw [Json.finite] at hFinite
  unfold Json.lookup
  split
  · rfl
  · next hFound =>
      exact finite_of_mem hFinite (List.mem_of_find?_eq_some hFound)

/- A finite number has a double. -/
theorem toFloat_never
    {j : Json}
    {number : Number}
    (hFinite : j.finite = true)
    (hNumber : j.number? = some number) :
    Never .crash (toFloat number) := by
  unfold toFloat
  cases hDouble : number.toDouble with
  | some value => exact Never.ok value
  | none =>
      exfalso
      cases j with
      | bool value =>
          cases hNumber
          cases value
          · revert hDouble
            decide
          · revert hDouble
            decide +kernel
      | int value =>
          cases hNumber
          rw [Json.finite, hDouble] at hFinite
          cases hFinite
      | float value =>
          cases hNumber
          cases hDouble
      | _ => cases hNumber

theorem needs_never
    (table : List (String × String))
    (what verb : String)
    (lacking : Bool) :
    Never .crash (needs table what verb lacking) := by
  unfold needs
  split
  · exact Never.ok ()
  · exact refuseIf_never

theorem scoreOf_never
    (result : List (String × Json)) :
    Never .crash (scoreOf result) := by
  unfold scoreOf
  dsimp only
  split
  · exact Never.ok _
  · split
    · exact refused_never
    · exact Never.ok _
  · exact refused_never

/- A score that passed: none, or its numbers are numbers. -/
theorem scoreOf_ok
    {result : List (String × Json)}
    {score : Option (List (String × Json))}
    (hScore : scoreOf result = .ok score) :
    (Json.lookup result "score" = .null ∧ score = none) ∨
      ∃ members, Json.lookup result "score" = .obj members ∧
        score = some members ∧
        (Json.has members "scaled" = true →
          ∃ number,
            (Json.lookup members "scaled").number? =
              some number) := by
  unfold scoreOf at hScore
  dsimp only at hScore
  split at hScore
  · next hNull =>
      cases hScore
      exact .inl ⟨hNull, rfl⟩
  · next members hMembers =>
      split at hScore
      · cases hScore
      · next hNumbers =>
          cases hScore
          refine .inr ⟨members, hMembers, rfl, ?_⟩
          intro hHas
          simp only [List.any_cons, hHas, Bool.true_and,
            Bool.or_eq_true, not_or] at hNumbers
          exact Option.ne_none_iff_exists'.mp
            (by simpa using hNumbers.1)
  · cases hScore

theorem checkScore_never
    (verb : String)
    (view : SessionView)
    {context score : List (String × Json)}
    (hFinite : (Json.lookup context "extensions").finite = true)
    (hExtensions :
      misshapen (Json.lookup context "extensions") = false) :
    Never .crash (checkScore verb view context score) := by
  unfold checkScore
  refine Never.bind refuseIf_never ?_
  intro _ _
  refine Never.bind refuseIf_never ?_
  intro _ _
  split
  · exact Never.ok ()
  · refine Never.bind (get_orEmpty_never hExtensions) ?_
    intro ext hExt
    split
    · exact refused_never
    · next number hNumber =>
        have hExtFinite : ext.finite = true := by
          unfold Json.orEmpty at hExt
          split at hExt
          · next hTruthy =>
              cases hGiven : Json.lookup context "extensions" with
              | obj given =>
                  rw [hGiven] at hExt hFinite
                  cases hExt
                  exact finite_lookup hFinite extMastery
              | _ =>
                  rw [hGiven] at hExt
                  cases hExt
          · cases hExt
            rfl
        refine Never.bind (toFloat_never hExtFinite hNumber) ?_
        intro _ _
        exact refuseIf_never

theorem checkResult_never
    (verb : String)
    (view : SessionView)
    {context activities result : List (String × Json)}
    (hCategory :
      notAList (Json.lookup activities "category") = false)
    (hFinite : (Json.lookup context "extensions").finite = true)
    (hExtensions :
      misshapen (Json.lookup context "extensions") = false) :
    Never .crash
      (checkResult verb view context activities result) := by
  unfold checkResult
  refine Never.bind refuseIf_never ?_
  intro _ _
  refine Never.bind refuseIf_never ?_
  intro _ _
  refine Never.bind refuseIf_never ?_
  intro _ _
  refine Never.bind refuseIf_never ?_
  intro _ _
  refine Never.bind refuseIf_never ?_
  intro _ _
  refine Never.bind (ids_never hCategory) ?_
  intro _ _
  refine Never.bind refuseIf_never ?_
  intro _ _
  refine Never.bind (scoreOf_never result) ?_
  intro score _
  refine Never.bind ?_ ?_
  · unfold checkScored
    split
    · exact Never.ok ()
    · exact checkScore_never verb view hFinite hExtensions
  · intro _ _
    exact needs_never _ _ _ _

/- What a result that passed has as its score. -/
theorem checkResult_score
    {verb : String}
    {view : SessionView}
    {context activities result : List (String × Json)}
    (hCheck :
      checkResult verb view context activities result =
        .ok ()) :
    ∃ score, scoreOf result = .ok score := by
  unfold checkResult at hCheck
  rcases bind_eq_ok.mp hCheck with ⟨_, _, hCheck⟩
  rcases bind_eq_ok.mp hCheck with ⟨_, _, hCheck⟩
  rcases bind_eq_ok.mp hCheck with ⟨_, _, hCheck⟩
  rcases bind_eq_ok.mp hCheck with ⟨_, _, hCheck⟩
  rcases bind_eq_ok.mp hCheck with ⟨_, _, hCheck⟩
  rcases bind_eq_ok.mp hCheck with ⟨_, _, hCheck⟩
  rcases bind_eq_ok.mp hCheck with ⟨_, _, hCheck⟩
  rcases bind_eq_ok.mp hCheck with ⟨score, hScore, _⟩
  exact ⟨score, hScore⟩

theorem checkCarried_never
    (verb : String)
    (view : SessionView)
    {context activities : List (String × Json)}
    (result : Option (List (String × Json)))
    (hCategory :
      notAList (Json.lookup activities "category") = false)
    (hFinite : (Json.lookup context "extensions").finite = true)
    (hExtensions :
      misshapen (Json.lookup context "extensions") = false) :
    Never .crash
      (checkCarried verb view context activities result) := by
  unfold checkCarried
  split
  · exact needs_never _ _ _ _
  · exact checkResult_never verb view hCategory hFinite
      hExtensions

/- A scaled score: missing, or a number with a double. -/
structure Scaled (scaled : Json) : Prop where
  isNumber : scaled.isNull = false →
    ∃ number, scaled.number? = some number
  finite : scaled.finite = true

theorem scaledOf_never
    {result : Option (List (String × Json))}
    (hScore :
      misshapen (Json.lookup (result.getD []) "score") =
        false) :
    Never .crash (scaledOf result) := by
  unfold scaledOf
  exact get_orEmpty_never hScore

theorem offMark_never
    {scaled : Json}
    (hScaled : Scaled scaled)
    (graded : Double) :
    Never .crash (offMark scaled graded) := by
  unfold offMark
  split
  · next hNone =>
      cases hNull : scaled.isNull with
      | true => exact Never.ok true
      | false =>
          rcases hScaled.isNumber hNull with ⟨number, hSome⟩
          rw [hNone] at hSome
          cases hSome
  · next number hNumber =>
      refine Never.bind
        (toFloat_never hScaled.finite hNumber) ?_
      intro _ _
      exact Never.ok _

theorem compared_never
    {scaled : Json}
    (hScaled : Scaled scaled)
    (view : SessionView)
    (test : Number → Number → Bool) :
    Never .crash (compared scaled view test) := by
  unfold compared
  split
  · exact Never.ok false
  · cases hNull : scaled.isNull with
    | true => exact Never.ok false
    | false =>
        rcases hScaled.isNumber hNull with ⟨number, hSome⟩
        rw [hSome]
        exact Never.ok _

theorem checkMark_never
    (view : SessionView)
    {scaled : Json}
    (hScaled : Scaled scaled) :
    Never .crash (checkMark view scaled) := by
  unfold checkMark
  refine Never.bind refuseIf_never ?_
  intro _ _
  split
  · split
    · exact refused_never
    · refine Never.bind (offMark_never hScaled _) ?_
      intro _ _
      exact Never.refuseIf (rule_ne_crash _)
  · exact Never.ok ()

theorem checkSequence_never
    (verb : String)
    (view : SessionView)
    (sent : List String)
    {scaled : Json}
    (hScaled : Scaled scaled) :
    Never .crash (checkSequence verb view sent scaled) := by
  unfold checkSequence
  refine Never.bind refuseIf_never ?_
  intro _ _
  refine Never.bind (Never.only fun _ => ?_) ?_
  · refine Never.bind refuseIf_never ?_
    intro _ _
    exact refuseIf_never
  intro _ _
  refine Never.bind (Never.only fun _ => ?_) ?_
  · refine Never.bind (compared_never hScaled view _) ?_
    intro _ _
    refine Never.bind (Never.refuseIf (rule_ne_crash _)) ?_
    intro _ _
    refine Never.bind refuseIf_never ?_
    intro _ _
    refine Never.bind refuseIf_never ?_
    intro _ _
    exact refuseIf_never
  intro _ _
  refine Never.only fun _ => ?_
  refine Never.bind (compared_never hScaled view _) ?_
  intro _ _
  refine Never.bind (Never.refuseIf (rule_ne_crash _)) ?_
  intro _ _
  refine Never.bind refuseIf_never ?_
  intro _ _
  refine Never.bind refuseIf_never ?_
  intro _ _
  exact refuseIf_never

/- The score of a result that passed. -/
theorem checkCarried_score
    {verb : String}
    {view : SessionView}
    {context activities : List (String × Json)}
    {result : Option (List (String × Json))}
    (hCheck :
      checkCarried verb view context activities result =
        .ok ()) :
    Json.lookup (result.getD []) "score" = .null ∨
      ∃ members,
        Json.lookup (result.getD []) "score" = .obj members ∧
        (Json.has members "scaled" = true →
          ∃ number,
            (Json.lookup members "scaled").number? =
              some number) := by
  cases result with
  | none => exact .inl rfl
  | some members =>
      rcases checkResult_score hCheck with ⟨score, hScore⟩
      rcases scoreOf_ok hScore with ⟨hNull, _⟩ |
        ⟨inside, hInside, _, hNumber⟩
      · exact .inl hNull
      · exact .inr ⟨inside, hInside, hNumber⟩

/- The scaled score of a carried result. -/
theorem scaledOf_scaled
    {verb : String}
    {view : SessionView}
    {context activities : List (String × Json)}
    {result : Option (List (String × Json))}
    {scaled : Json}
    (hCarried :
      checkCarried verb view context activities result =
        .ok ())
    (hFinite : (Json.obj (result.getD [])).finite = true)
    (hScaled : scaledOf result = .ok scaled) :
    Scaled scaled := by
  unfold scaledOf at hScaled
  have hScoreFinite := finite_lookup hFinite "score"
  rcases checkCarried_score hCarried with hNull |
    ⟨members, hMembers, hNumber⟩
  · rw [hNull] at hScaled
    cases hScaled
    refine ⟨?_, rfl⟩
    intro hNot
    cases hNot
  · rw [hMembers] at hScaled hScoreFinite
    dsimp only at hScaled
    rw [orEmpty_obj] at hScaled
    cases hScaled
    refine ⟨?_, finite_lookup hScoreFinite "scaled"⟩
    intro hNot
    apply hNumber
    unfold Json.lookup at hNot
    split at hNot
    · cases hNot
    · next member hFound =>
        have hKey := List.find?_some hFound
        exact List.any_eq_true.mpr
          ⟨member, List.mem_of_find?_eq_some hFound, hKey⟩

theorem checkDefined_never
    {st context activities : List (String × Json)}
    (verb : String)
    (view : SessionView)
    (earlier : List String)
    (hCategory :
      notAList (Json.lookup activities "category") = false)
    (hContext : Json.lookup st "context" = .obj context)
    (hFinite : (Json.obj st).finite = true)
    (hExtensions :
      misshapen (Json.lookup context "extensions") = false) :
    Never .crash
      (checkDefined st context activities verb view earlier) := by
  have hContextFinite :
      (Json.lookup context "extensions").finite = true := by
    apply finite_lookup
    rw [← hContext]
    exact finite_lookup hFinite "context"
  have hResultFinite :
      (Json.obj ((resultOf st).getD [])).finite = true := by
    have hGiven := finite_lookup hFinite "result"
    unfold resultOf
    cases hResult : Json.lookup st "result" with
    | obj members =>
        rw [hResult] at hGiven
        exact hGiven
    | _ => rfl
  unfold checkDefined
  refine Never.bind refuseIf_never ?_
  intro _ _
  refine Never.bind refuseIf_never ?_
  intro _ _
  refine Never.bind refuseIf_never ?_
  intro _ _
  refine Never.bind refuseIf_never ?_
  intro _ _
  refine Never.bind refuseIf_never ?_
  intro _ _
  refine Never.bind refuseIf_never ?_
  intro _ _
  refine Never.bind (checkCarried_never verb view _ hCategory
    hContextFinite hExtensions) ?_
  intro _ hCarried
  refine Never.bind (scaledOf_never ?_) ?_
  · rcases checkCarried_score hCarried with hNull |
      ⟨members, hMembers, _⟩
    · rw [hNull]
      rfl
    · rw [hMembers]
      simp [misshapen, Json.isObject]
  · intro scaled hScaledOf
    have hScaled :=
      scaledOf_scaled hCarried hResultFinite hScaledOf
    refine Never.bind (Never.only fun _ => ?_) ?_
    · exact checkMark_never view hScaled
    · intro _ _
      refine Never.bind (checkSequence_never _ _ _ hScaled) ?_
      intro _ _
      exact Never.ok _

/- A statement with a verb has only finite numbers. -/
theorem readVerb_finite
    {st : List (String × Json)}
    {verb : String}
    (hVerb : readVerb st = .ok verb) :
    (Json.obj st).finite = true := by
  unfold readVerb at hVerb
  rcases bind_eq_ok.mp hVerb with ⟨id, _, hVerb⟩
  split at hVerb
  · rcases bind_eq_ok.mp hVerb with ⟨_, _, hVerb⟩
    rcases bind_eq_ok.mp hVerb with ⟨_, hFinite, _⟩
    rwa [refuseIf_eq_ok, Bool.not_eq_false'] at hFinite
  · cases hVerb

--------
-- The Statements That Crash
--------

open Checks

/-
  What lets a statement crash the check: the value that is
  used as it comes, and what the checks before it found.
-/
inductive Crashes
    (stack : Stack)
    (view : SessionView)
    (st : Json) : Prop
| verb
    {members : List (String × Json)}
    (hRead : readStatement st view = .ok members)
    (hVerb : misshapen (Json.lookup members "verb") = true)
| finite
    {members : List (String × Json)}
    (hRead : readStatement st view = .ok members)
    (hVerb : (verbId? members).isSome = true)
    (hDeep : finiteWithin stack.frames (.obj members) = none)
| id
    {members : List (String × Json)}
    {verb : String}
    (hRead : readStatement st view = .ok members)
    (hVerb : readVerb members = .ok verb)
    (hId : (Json.lookup members "id").truthy = true)
    (hDeep : stack.str < nesting (Json.lookup members "id"))
| account
    {members actor : List (String × Json)}
    {verb : String}
    (hRead : readStatement st view = .ok members)
    (hVerb : readVerb members = .ok verb)
    (hIdentity : checkIdentity members verb = .ok ())
    (hActor : agent? (Json.lookup members "actor") = some actor)
    (hAccount :
      misshapen (Json.lookup actor "account") = true)
| grouping
    {members context activities : List (String × Json)}
    {verb : String}
    (hRead : readStatement st view = .ok members)
    (hVerb : readVerb members = .ok verb)
    (hIdentity : checkIdentity members verb = .ok ())
    (hContext : HasContext members view context activities)
    (hList :
      notAList (Json.lookup activities "grouping") = true)
| list
    {members context activities : List (String × Json)}
    {verb key : String}
    {before after : List String}
    (hRead : readStatement st view = .ok members)
    (hVerb : readVerb members = .ok verb)
    (hIdentity : checkIdentity members verb = .ok ())
    (hContext : HasContext members view context activities)
    (hTemplate :
      matchesTemplate context view.contextTemplate = .ok ())
    (hKeys : contextKeys = before ++ key :: after)
    (hBefore : ∀ k ∈ before,
      CleanList view (Json.lookup activities k))
    (hList : notAList (Json.lookup activities key) = true)

variable {stack : Stack}
variable {view : SessionView}
variable {au : AU}

/- The check crashes in its verb, its actor or its lists. -/
theorem check_crash_iff
    (hTemplate : view.contextTemplate =
      World.contextTemplate au view.sessionId)
    {st : Json}
    {earlier : List String} :
    check st view earlier = .error .crash ↔
      ∃ members, readStatement st view = .ok members ∧
        (misshapen (Json.lookup members "verb") = true ∨
          ∃ verb, readVerb members = .ok verb ∧
            checkIdentity members verb = .ok () ∧
              checkContext members view = .error .crash) := by
  unfold check
  rw [bind_eq_error]
  constructor
  · rintro (hRead | ⟨members, hRead, hRest⟩)
    · exact absurd hRead (readStatement_never st view)
    · refine ⟨members, hRead, ?_⟩
      rcases bind_eq_error.mp hRest with hVerb |
        ⟨verb, hVerb, hRest⟩
      · exact .inl (readVerb_crash_iff.mp hVerb)
      · rcases bind_eq_error.mp hRest with hIdentity |
          ⟨_, hIdentity, hRest⟩
        · exact absurd hIdentity (checkIdentity_never _ _)
        · refine .inr ⟨verb, hVerb, hIdentity, ?_⟩
          rcases bind_eq_error.mp hRest with hContext |
            ⟨⟨context, activities⟩, hContext, hRest⟩
          · exact hContext
          · exfalso
            rcases checkContext_has hContext with
              ⟨hHas, hMatches, hClean⟩
            rw [hTemplate] at hMatches
            have hCategory := checkActivities_ok hClean
            have hExtensions := matchesTemplate_ok hMatches
            revert hRest
            change Never Raised.crash _
            refine Never.bind (ids_never hCategory) ?_
            intro _ _
            refine Never.bind refuseIf_never ?_
            intro _ _
            refine Never.bind
              (checkSession_never _ _ _ hExtensions) ?_
            intro _ _
            refine Never.bind (checkObject_never _ _) ?_
            intro _ _
            split
            · refine Never.bind (checkDefined_never _ _ _
                hCategory hHas.isContext (readVerb_finite hVerb)
                hExtensions) ?_
              intro _ _
              exact Never.ok _
            · refine Never.bind (checkAllowed_never _ _) ?_
              intro _ _
              exact Never.ok _
  · rintro ⟨members, hRead, hShape | ⟨verb, hVerb, hIdentity,
      hContext⟩⟩
    · exact .inr ⟨members, hRead,
        bind_eq_error.mpr (.inl (readVerb_crash_iff.mpr hShape))⟩
    · exact .inr ⟨members, hRead,
        bind_eq_error.mpr (.inr ⟨verb, hVerb,
          bind_eq_error.mpr (.inr ⟨(), hIdentity,
            bind_eq_error.mpr (.inl hContext)⟩)⟩)⟩

/- A check of the stack passes or crashes. -/
theorem refuseIf_crash
    (bad : Bool) :
    refuseIf bad Raised.crash = .ok () ∨
      refuseIf bad Raised.crash = .error .crash := by
  cases bad
  · exact .inl rfl
  · exact .inr rfl

/- What crashes the check crashes it on any stack. -/
theorem checkOn_of_check
    {st : Json}
    {earlier : List String}
    (hCheck : check st view earlier = .error .crash) :
    checkOn stack st view earlier = .error .crash := by
  unfold checkOn
  cases hRead : readStatement st view with
  | error e =>
      unfold check at hCheck
      rw [hRead] at hCheck
      exact hCheck
  | ok members =>
      refine bind_eq_error.mpr (.inr ⟨members, rfl, ?_⟩)
      rcases refuseIf_crash ((verbId? members).isSome &&
          (finiteWithin stack.frames (.obj members)).isNone)
        with hOk | hCrash
      · refine bind_eq_error.mpr (.inr ⟨(), hOk, ?_⟩)
        cases hVerb : readVerb members with
        | error e =>
            unfold check at hCheck
            rw [hRead] at hCheck
            have hRest := bind_eq_error.mp hCheck
            simp [hVerb, bind_eq_error] at hRest
            exact bind_eq_error.mpr (.inl (by rw [hRest]))
        | ok verb =>
            refine bind_eq_error.mpr (.inr ⟨verb, rfl, ?_⟩)
            rcases refuseIf_crash
                ((Json.lookup members "id").truthy &&
                  decide (stack.str <
                    nesting (Json.lookup members "id")))
              with hOk | hCrash
            · exact bind_eq_error.mpr (.inr ⟨(), hOk, hCheck⟩)
            · exact bind_eq_error.mpr (.inl hCrash)
      · exact bind_eq_error.mpr (.inl hCrash)

/- The crashes of a statement on a stack. -/
theorem checkOn_crash_iff
    (hTemplate : view.contextTemplate =
      World.contextTemplate au view.sessionId)
    {st : Json}
    {earlier : List String} :
    checkOn stack st view earlier = .error .crash ↔
      Crashes stack view st := by
  constructor
  · intro hCrash
    rcases bind_eq_error.mp hCrash with hRead |
      ⟨members, hRead, hRest⟩
    · exact absurd hRead (readStatement_never st view)
    rcases bind_eq_error.mp hRest with hFinite |
      ⟨_, _, hRest⟩
    · have hBoth := (refuseIf_eq_error.mp hFinite).1
      rw [Bool.and_eq_true, Option.isNone_iff_eq_none] at hBoth
      exact .finite hRead hBoth.1 hBoth.2
    rcases bind_eq_error.mp hRest with hVerb |
      ⟨verb, hVerb, hRest⟩
    · exact .verb hRead (readVerb_crash_iff.mp hVerb)
    rcases bind_eq_error.mp hRest with hId | ⟨_, _, hCheck⟩
    · have hBoth := (refuseIf_eq_error.mp hId).1
      rw [Bool.and_eq_true, decide_eq_true_eq] at hBoth
      exact .id hRead hVerb hBoth.1 hBoth.2
    rcases (check_crash_iff hTemplate).mp hCheck with
      ⟨members', hRead', hWhich⟩
    rw [hRead] at hRead'
    cases hRead'
    rcases hWhich with hShape |
      ⟨verb', hVerb', hIdentity, hContext⟩
    · exact .verb hRead hShape
    rcases checkContext_crash_iff.mp hContext with hActor |
      ⟨context, activities, hHas, hMatches | ⟨hMatches, hLists⟩⟩
    · rcases sameActor_crash_iff.mp hActor with
        ⟨actor, hAgent, hAccount⟩
      exact .account hRead hVerb' hIdentity hAgent hAccount
    · rw [hTemplate] at hMatches
      exact .grouping hRead hVerb' hIdentity hHas
        ((matchesTemplate_crash_iff hHas.areActivities).mp
          hMatches)
    · rcases checkActivities_crash_iff.mp hLists with
        ⟨before, key, after, hKeys, hBefore, hList⟩
      exact .list hRead hVerb' hIdentity hHas hMatches hKeys
        hBefore hList
  · intro hCrashes
    cases hCrashes with
    | verb hRead hVerb =>
        exact checkOn_of_check ((check_crash_iff hTemplate).mpr
          ⟨_, hRead, .inl hVerb⟩)
    | finite hRead hVerb hDeep =>
        refine bind_eq_error.mpr (.inr ⟨_, hRead, ?_⟩)
        refine bind_eq_error.mpr (.inl ?_)
        rw [finiteOn, hVerb, hDeep]
        rfl
    | @id members verb hRead hVerb hId hDeep =>
        refine bind_eq_error.mpr (.inr ⟨_, hRead, ?_⟩)
        rcases refuseIf_crash ((verbId? members).isSome &&
            (finiteWithin stack.frames (.obj members)).isNone)
          with hOk | hCrash
        · refine bind_eq_error.mpr (.inr ⟨(), hOk, ?_⟩)
          refine bind_eq_error.mpr (.inr ⟨verb, hVerb, ?_⟩)
          refine bind_eq_error.mpr (.inl ?_)
          rw [strOn, hId, decide_eq_true hDeep]
          rfl
        · exact bind_eq_error.mpr (.inl hCrash)
    | account hRead hVerb hIdentity hActor hAccount =>
        exact checkOn_of_check ((check_crash_iff hTemplate).mpr
          ⟨_, hRead, .inr ⟨_, hVerb, hIdentity,
            checkContext_crash_iff.mpr (.inl
              (sameActor_crash_iff.mpr
                ⟨_, hActor, hAccount⟩))⟩⟩)
    | @grouping _ _ _ _ hRead hVerb hIdentity hContext hList =>
        have hMatches :=
          (@matchesTemplate_crash_iff _ _ au view.sessionId
            hContext.areActivities).mpr hList
        rw [← hTemplate] at hMatches
        exact checkOn_of_check ((check_crash_iff hTemplate).mpr
          ⟨_, hRead, .inr ⟨_, hVerb, hIdentity,
            checkContext_crash_iff.mpr (.inr
              ⟨_, _, hContext, .inl hMatches⟩)⟩⟩)
    | list hRead hVerb hIdentity hContext hMatches hKeys hBefore
        hList =>
        exact checkOn_of_check ((check_crash_iff hTemplate).mpr
          ⟨_, hRead, .inr ⟨_, hVerb, hIdentity,
            checkContext_crash_iff.mpr (.inr
              ⟨_, _, hContext, .inr ⟨hMatches,
                checkActivities_crash_iff.mpr
                  ⟨_, _, _, hKeys, hBefore, hList⟩⟩⟩)⟩⟩)

--------
-- The Requests That Crash
--------

open Checks

/- What lets a body crash: as a whole, or a statement in it. -/
inductive RequestCrashes
    (stack : Stack)
    (view : SessionView)
    (method : String)
    (statementId : Option String)
    (payload : Json) : Prop
| loads
    (hDeep : stack.loads < nesting payload)
| put
    {st : Json}
    (hMethod : method = "PUT")
    (hOne : statementsOf payload = [st])
    (hShape : misshapen st = true)
| statement
    {before after : List Json}
    {st : Json}
    {verdicts : List (Option String)}
    (hPut : method = "PUT" →
      checkPut (statementsOf payload) statementId = .ok ())
    (hSplit : statementsOf payload = before ++ st :: after)
    (hBefore : checkEachOn stack view before [] = .ok verdicts)
    (hCrashes : Crashes stack view st)
| dumps
    {verdicts : List (Option String)}
    (hSome : statementsOf payload ≠ [])
    (hPut : method = "PUT" →
      checkPut (statementsOf payload) statementId = .ok ())
    (hAll : checkEachOn stack view (statementsOf payload) [] =
      .ok verdicts)
    (hDeep : stack.dumps < nesting (cleanedOf payload))

variable {stack : Stack}
variable {view : SessionView}
variable {au : AU}

/- The first statement that crashes, after those accepted. -/
theorem checkEachOn_crash_iff
    (hTemplate : view.contextTemplate =
      World.contextTemplate au view.sessionId)
    {statements : List Json}
    {accepted : List String} :
    checkEachOn stack view statements accepted =
        .error .crash ↔
      ∃ before st after verdicts,
        statements = before ++ st :: after ∧
          checkEachOn stack view before accepted =
              .ok verdicts ∧
            Crashes stack view st := by
  induction statements generalizing accepted with
  | nil =>
      constructor
      · intro h
        cases h
      · rintro ⟨before, st, after, _, hSplit, _⟩
        cases before <;> cases hSplit
  | cons st' sts ih =>
      rw [checkEachOn, bind_eq_error,
        checkOn_crash_iff hTemplate]
      constructor
      · rintro (hFirst | ⟨verdict, hOk, hRest⟩)
        · exact ⟨[], st', sts, [], rfl, rfl, hFirst⟩
        · rcases bind_eq_error.mp hRest with hRest | ⟨_, _, hRest⟩
          · rcases ih.mp hRest with
              ⟨before, st, after, verdicts, rfl, hBefore, hSt⟩
            exact ⟨st' :: before, st, after,
              verdict :: verdicts, rfl,
              bind_eq_ok.mpr ⟨verdict, hOk,
                bind_eq_ok.mpr ⟨verdicts, hBefore, rfl⟩⟩, hSt⟩
          · cases hRest
      · rintro ⟨before, st, after, verdicts, hSplit, hBefore,
          hSt⟩
        rcases before with _ | ⟨st'', before⟩
        · cases hSplit
          exact .inl hSt
        · cases hSplit
          rcases bind_eq_ok.mp hBefore with
            ⟨verdict, hOk, hBefore⟩
          rcases bind_eq_ok.mp hBefore with
            ⟨verdicts', hBefore, _⟩
          exact .inr ⟨verdict, hOk, bind_eq_error.mpr
            (.inl (ih.mpr ⟨before, st, after, verdicts', rfl,
              hBefore, hSt⟩))⟩

theorem checkPut_crash_iff
    {statements : List Json}
    {statementId : Option String} :
    checkPut statements statementId = .error .crash ↔
      ∃ st, statements = [st] ∧ misshapen st = true := by
  unfold checkPut
  split
  · next st =>
      rw [bind_eq_error, get_orEmpty_crash_iff]
      constructor
      · rintro (hShape | ⟨_, _, hRest⟩)
        · exact ⟨st, rfl, hShape⟩
        · exact absurd hRest refuseIf_never
      · rintro ⟨st', hSame, hShape⟩
        cases hSame
        exact .inl hShape
  · next hNotOne =>
      constructor
      · intro h
        exact absurd h refused_never
      · rintro ⟨st, rfl, _⟩
        exact absurd rfl (hNotOne st)

/- What follows the reading of a body. -/
def checkPayloadOn
    (stack : Stack)
    (view : SessionView)
    (method : String)
    (statementId : Option String)
    (payload : Json) :
    Checked (List (Option String) × Json) := do
  refuseIf (statementsOf payload).isEmpty
    (violation "4.1.0.0-1" "no statements" 400)
  only (method = "PUT")
    (checkPut (statementsOf payload) statementId)
  let verdicts ←
    checkEachOn stack view (statementsOf payload) []
  refuseIf (stack.dumps < nesting (cleanedOf payload)) .crash
  .ok (verdicts, cleanedOf payload)

theorem checkPayloadOn_crash_iff
    (hTemplate : view.contextTemplate =
      World.contextTemplate au view.sessionId)
    {method : String}
    {statementId : Option String}
    {payload : Json}
    (hLoads : nesting payload ≤ stack.loads) :
    checkPayloadOn stack view method statementId payload =
        .error .crash ↔
      RequestCrashes stack view method statementId payload := by
  constructor
  · intro hCrash
    rcases bind_eq_error.mp hCrash with hEmpty |
      ⟨_, hSome, hRest⟩
    · exact absurd hEmpty refuseIf_never
    rw [refuseIf_eq_ok, List.isEmpty_eq_false_iff] at hSome
    rcases bind_eq_error.mp hRest with hPut | ⟨_, hPut, hRest⟩
    · rw [only_eq_error, decide_eq_true_eq] at hPut
      rcases checkPut_crash_iff.mp hPut.2 with
        ⟨st, hOne, hShape⟩
      exact .put hPut.1 hOne hShape
    rw [only_eq_ok, decide_eq_true_eq] at hPut
    rcases bind_eq_error.mp hRest with hEach |
      ⟨verdicts, hAll, hRest⟩
    · rcases (checkEachOn_crash_iff hTemplate).mp hEach with
        ⟨before, st, after, verdicts, hSplit, hBefore, hSt⟩
      exact .statement hPut hSplit hBefore hSt
    rcases bind_eq_error.mp hRest with hDumps | ⟨_, _, hRest⟩
    · have hDeep := (refuseIf_eq_error.mp hDumps).1
      rw [decide_eq_true_eq] at hDeep
      exact .dumps hSome hPut hAll hDeep
    · cases hRest
  · intro hCrashes
    have hNotEmpty : ∀ {statements : List Json},
        statements ≠ [] →
          refuseIf statements.isEmpty
              (violation "4.1.0.0-1" "no statements" 400) =
            .ok () := by
      intro statements hSome
      rw [refuseIf_eq_ok, List.isEmpty_eq_false_iff]
      exact hSome
    have hOnly : (method = "PUT" →
          checkPut (statementsOf payload) statementId =
            .ok ()) →
        only (method = "PUT")
            (checkPut (statementsOf payload) statementId) =
          .ok () := by
      intro hPut
      rw [only_eq_ok, decide_eq_true_eq]
      exact hPut
    cases hCrashes with
    | loads hDeep => exact absurd hDeep (Nat.not_lt.mpr hLoads)
    | put hMethod hOne hShape =>
        refine bind_eq_error.mpr (.inr ⟨(), hNotEmpty ?_, ?_⟩)
        · rw [hOne]
          exact List.cons_ne_nil _ _
        · refine bind_eq_error.mpr (.inl ?_)
          rw [only_eq_error, decide_eq_true_eq]
          exact ⟨hMethod,
            checkPut_crash_iff.mpr ⟨_, hOne, hShape⟩⟩
    | statement hPut hSplit hBefore hSt =>
        refine bind_eq_error.mpr (.inr ⟨(), hNotEmpty ?_, ?_⟩)
        · rw [hSplit]
          exact List.append_ne_nil_of_right_ne_nil _
            (List.cons_ne_nil _ _)
        · refine bind_eq_error.mpr (.inr ⟨(), hOnly hPut, ?_⟩)
          exact bind_eq_error.mpr (.inl
            ((checkEachOn_crash_iff hTemplate).mpr
              ⟨_, _, _, _, hSplit, hBefore, hSt⟩))
    | dumps hSome hPut hAll hDeep =>
        refine bind_eq_error.mpr
          (.inr ⟨(), hNotEmpty hSome, ?_⟩)
        refine bind_eq_error.mpr (.inr ⟨(), hOnly hPut, ?_⟩)
        refine bind_eq_error.mpr (.inr ⟨_, hAll, ?_⟩)
        refine bind_eq_error.mpr (.inl ?_)
        exact refuseIf_eq_error.mpr
          ⟨decide_eq_true hDeep, rfl⟩

/- The bodies that crash, on a stack. -/
theorem checkStatementsOn_crash_iff
    (hTemplate : view.contextTemplate =
      World.contextTemplate au view.sessionId)
    {method : String}
    {statementId : Option String}
    {body : Body} :
    checkStatementsOn stack view method statementId body =
        .error .crash ↔
      ∃ payload, body = .json payload ∧
        RequestCrashes stack view method statementId payload := by
  have hBind :
      checkStatementsOn stack view method statementId body =
        (body.loadsOn stack >>=
          checkPayloadOn stack view method statementId) := rfl
  rw [hBind, bind_eq_error]
  cases body with
  | json payload =>
      simp only [Body.json.injEq, exists_eq_left']
      constructor
      · rintro (hLoads | ⟨payload', hLoads, hRest⟩)
        · rcases bind_eq_error.mp hLoads with hDeep | ⟨_, _, h⟩
          · exact .loads (of_decide_eq_true
              (refuseIf_eq_error.mp hDeep).1)
          · cases h
        · rcases bind_eq_ok.mp hLoads with ⟨_, hFits, hSame⟩
          cases hSame
          rw [refuseIf_eq_ok, decide_eq_false_iff_not,
            Nat.not_lt] at hFits
          exact (checkPayloadOn_crash_iff hTemplate hFits).mp
            hRest
      · intro hCrashes
        by_cases hFits : nesting payload ≤ stack.loads
        · refine .inr ⟨payload, ?_,
            (checkPayloadOn_crash_iff hTemplate hFits).mpr
              hCrashes⟩
          refine bind_eq_ok.mpr ⟨(), ?_, rfl⟩
          rw [refuseIf_eq_ok, decide_eq_false_iff_not,
            Nat.not_lt]
          exact hFits
        · refine .inl (bind_eq_error.mpr (.inl ?_))
          exact refuseIf_eq_error.mpr
            ⟨decide_eq_true (Nat.not_le.mp hFits), rfl⟩
  | notJson =>
      simp [Body.loadsOn, Body.payload, violation_ne_crash]
  | constant name =>
      simp [Body.loadsOn, Body.payload, violation_ne_crash]
  | notFinite text =>
      simp [Body.loadsOn, Body.payload, violation_ne_crash]

end Cmi5

end TrueNorth
