import TrueNorth.Cmi5.Rules

/-
  The scope of an accepted statement's context activities.

  xAPI writes a contextActivities property as an array of
  activities or as a single activity; the rules read the
  arrays only.

  Key definitions include:
    * `activityIds`
    * `contextProperty`
    * `Scoped`, `SinglesScoped`

  Main theorems:
    * `check_activities`
    * `check_scoped_iff`
    * `single_outside_accepted`
-/

--------
-- Context Activities
--------

namespace TrueNorth

namespace Cmi5

open Checks

/- The activity ids of a property, in either shape. -/
def activityIds :
    Json → List Json
| .arr items =>
    items.filterMap (fun activity =>
      activity.members?.map (Json.lookup · "id"))
| .obj activity => [Json.lookup activity "id"]
| _ => []

/- A property of the statement's contextActivities. -/
def contextProperty
    (st : Json)
    (key : String) : Json :=
  let member := fun (j : Json) (key : String) =>
    Json.lookup (j.members?.getD []) key
  member (member (member st "context") "contextActivities") key

/- No context activity is a foreign TrueNorth activity. -/
def Scoped
    (view : SessionView)
    (st : Json) : Prop :=
  ∀ key ∈ contextKeys,
    ∀ activityId ∈ activityIds (contextProperty st key),
      outside view activityId = false

/- No property is a single foreign TrueNorth activity. -/
def SinglesScoped
    (view : SessionView)
    (st : Json) : Prop :=
  ∀ key ∈ contextKeys, ∀ activity,
    contextProperty st key = .obj activity →
      outside view (Json.lookup activity "id") = false

--------
-- What an Accepted Statement Went Through
--------

open Checks

theorem readStatement_ok
    {st : Json}
    {view : SessionView}
    {members : List (String × Json)}
    (hRead : readStatement st view = .ok members) :
    st = .obj members := by
  unfold readStatement at hRead
  rw [bind_eq_ok] at hRead
  rcases hRead with ⟨_, _, hObject⟩
  cases st with
  | obj members' =>
      rcases bind_eq_ok.mp hObject with ⟨_, _, hSame⟩
      cases hSame
      rfl
  | _ => cases hObject

/- The context of an accepted statement names only its own. -/
theorem checkContext_ok
    {st : List (String × Json)}
    {view : SessionView}
    {context activities : List (String × Json)}
    (hContext :
      checkContext st view = .ok (context, activities)) :
    Json.lookup st "context" = .obj context ∧
    Json.lookup context "contextActivities" =
      .obj activities ∧
    checkActivities activities view = .ok () := by
  unfold checkContext at hContext
  rw [bind_eq_ok] at hContext
  rcases hContext with ⟨same, _, hContext⟩
  rw [bind_eq_ok] at hContext
  rcases hContext with ⟨_, _, hContext⟩
  cases hFound : Json.lookup st "context" with
  | obj context' =>
      rw [hFound] at hContext
      dsimp only at hContext
      cases hActivities :
          Json.lookup context' "contextActivities" with
      | obj activities' =>
          rw [hActivities] at hContext
          dsimp only at hContext
          rcases bind_eq_ok.mp hContext with ⟨_, _, hChecked⟩
          rcases bind_eq_ok.mp hChecked with ⟨_, hOk, hSame⟩
          cases hSame
          exact ⟨rfl, hActivities, hOk⟩
      | _ =>
          rw [hActivities] at hContext
          cases hContext
  | _ =>
      rw [hFound] at hContext
      cases hContext

/- The lists the rules read are scoped. -/
theorem check_activities
    {st : Json}
    {view : SessionView}
    {earlier : List String}
    {verb : Option String}
    (hCheck : check st view earlier = .ok verb)
    {key : String}
    (hKey : key ∈ contextKeys) :
    ∃ named, ids (contextProperty st key) = .ok named ∧
      named.any (outside view) = false := by
  unfold check at hCheck
  rcases bind_eq_ok.mp hCheck with ⟨members, hRead, hCheck⟩
  rcases bind_eq_ok.mp hCheck with ⟨_, _, hCheck⟩
  rcases bind_eq_ok.mp hCheck with ⟨_, _, hCheck⟩
  rcases bind_eq_ok.mp hCheck with
    ⟨⟨context, activities⟩, hContext, _⟩
  rcases checkContext_ok hContext with
    ⟨hFound, hActivities, hEach⟩
  have hProperty :
      contextProperty st key = Json.lookup activities key := by
    rw [readStatement_ok hRead]
    simp [contextProperty, Json.members?, hFound, hActivities]
  have hChecked := each_eq_ok.mp hEach key hKey
  rcases bind_eq_ok.mp hChecked with ⟨named, hIds, hRefuse⟩
  refine ⟨named, ?_, refuseIf_eq_ok.mp hRefuse⟩
  rw [hProperty]
  exact hIds

/- Of an array the rules read every activity's id. -/
theorem ids_of_array
    {items : List Json}
    {named : List Json}
    (hIds : ids (.arr items) = .ok named) :
    named = activityIds (.arr items) := by
  unfold ids at hIds
  cases items with
  | nil =>
      cases hIds
      rfl
  | cons item items =>
      cases hIds
      rfl

/-
  An accepted statement is scoped exactly when no property
  is a single foreign activity.
-/
theorem check_scoped_iff
    {st : Json}
    {view : SessionView}
    {earlier : List String}
    {verb : Option String}
    (hCheck : check st view earlier = .ok verb) :
    Scoped view st ↔ SinglesScoped view st := by
  constructor
  · intro hScoped key hKey activity hSingle
    apply hScoped key hKey
    rw [hSingle]
    exact List.mem_singleton.mpr rfl
  · intro hSingles key hKey activityId hMem
    rcases check_activities hCheck hKey with
      ⟨named, hIds, hNone⟩
    cases hShape : contextProperty st key with
    | arr items =>
        rw [hShape] at hIds hMem
        rw [← ids_of_array hIds] at hMem
        by_contra hOutside
        rw [Bool.eq_false_iff] at hNone
        apply hNone
        exact List.any_eq_true.mpr
          ⟨activityId, hMem,
            Bool.eq_true_of_not_eq_false hOutside⟩
    | obj activity =>
        rw [hShape] at hMem
        rcases List.mem_singleton.mp hMem with rfl
        exact hSingles key hKey activity hShape
    | _ =>
        rw [hShape] at hMem
        cases hMem

--------
-- A Single Foreign Activity
--------

open Checks

/- A session of the AU "https://tn/xapi/course/1/au/0". -/
def exampleView : SessionView where
  actor := { homePage := "https://tn", name := "7" }
  registration := "r1"
  sessionId := "s1"
  auRuntimeId := "https://tn/xapi/course/1/au/0"
  contextTemplate :=
    [("contextActivities", .obj
        [("grouping", .arr [.obj [("id", .str "urn:au")]])]),
     ("extensions", .obj [(extSession, .str "s1")])]
  launchMode := "Normal"
  masteryScore := none
  initialized := true
  terminated := false
  prefsFetched := true
  sent := [Cmi5.initialized]
  auCompleted := false
  auPassed := false
  tnIriRoots := ["https://tn/xapi/"]
  requireGraded := true
  graded := none

/- A cmi5-allowed statement with this parent. -/
def exampleStatement (parent : Json) : Json :=
  .obj
    [("id", .str "e1"),
     ("actor", .obj
        [("account", .obj
          [("homePage", .str "https://tn"),
           ("name", .str "7")])]),
     ("verb", .obj [("id", .str "urn:experienced")]),
     ("object", .obj
        [("id", .str "https://tn/xapi/course/1/au/0")]),
     ("timestamp", .str "2026-01-01T00:00:00Z"),
     ("context", .obj
        [("registration", .str "r1"),
         ("extensions", .obj [(extSession, .str "s1")]),
         ("contextActivities", .obj
            [("grouping", .arr [.obj [("id", .str "urn:au")]]),
             ("parent", parent)])])]

def quiz : Json :=
  .obj [("id", .str "https://tn/xapi/quiz/9")]

/-
  A foreign activity as a single parent is accepted; in an
  array it is refused.
-/
theorem single_outside_accepted :
    (check (exampleStatement quiz) exampleView
      []).toOption = some none ∧
    ¬ Scoped exampleView (exampleStatement quiz) ∧
    (check (exampleStatement (.arr [quiz])) exampleView
      []).toOption = none := by
  refine ⟨by decide +kernel, ?_, by decide +kernel⟩
  intro hScoped
  have hQuiz := hScoped "parent" (by decide)
    (.str "https://tn/xapi/quiz/9") List.mem_cons_self
  revert hQuiz
  decide

/- An accepted statement without single activities. -/
theorem ownParent_scoped :
    Scoped exampleView (exampleStatement (.arr [])) := by
  have hCheck :
      check (exampleStatement (.arr [])) exampleView [] =
        .ok none :=
    eq_ok_of_toOption (by decide +kernel)
  have hShape : ∀ key ∈ contextKeys,
      (contextProperty (exampleStatement (.arr []))
        key).isObject = false := by
    decide
  apply (check_scoped_iff hCheck).mpr
  intro key hKey activity hSingle
  have hNone := hShape key hKey
  rw [hSingle] at hNone
  cases hNone

end Cmi5

end TrueNorth
