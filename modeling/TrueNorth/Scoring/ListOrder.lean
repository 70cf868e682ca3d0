import TrueNorth.Lib.Checks
import TrueNorth.Scoring.Engine

/-
  Whether the order of the objectives matters.  A task looks
  its dependencies up as it starts, among the results of the
  tasks that started before it and did not wait: a list that
  names a dependency later, or a validator that waits, makes
  it unmet.

  Key definitions include:
    * `achievedAtOnce`
    * `OrderImmaterial`
    * `orderImmaterial_iff`
-/

--------
-- Outcomes and Verdicts
--------

namespace TrueNorth

namespace Scoring

def verdictOf : Outcome → Verdict
| .ok result => result.verdict
| .error why => .unscored why

/- Every result is the result of the objective it is for. -/
def Named (outcomes : List (String × Outcome)) : Prop :=
  ∀ oid result, (oid, Except.ok result) ∈ outcomes →
    result.objectiveId = oid

/- What a validated objective's result says. -/
theorem judge_ok
    {obj : Objective}
    {oid : String}
    {validation : Validation}
    {result : ObjectiveResult}
    (hJudge : obj.judge oid validation = .ok result) :
    result.objectiveId = oid ∧
      result.verdict =
        .judged result.achieved result.pointsAwarded := by
  unfold Objective.judge at hJudge
  split at hJudge
  · cases hJudge
  · cases hJudge
  · next achieved evidence hAnswer =>
      split at hJudge
      · cases hJudge
      · cases hJudge
        refine ⟨rfl, ?_⟩
        cases achieved <;> rfl

theorem verdictOf_judge_ne
    (obj : Objective)
    (oid : String)
    (validation : Validation) :
    verdictOf (obj.judge oid validation) ≠
      .dependencyNotMet := by
  cases hJudge : obj.judge oid validation with
  | error why =>
      intro hSame
      cases hSame
  | ok result =>
      rw [verdictOf, (judge_ok hJudge).2]
      intro hSame
      cases hSame

end Scoring

end TrueNorth

--------
-- Tasks
--------

namespace TrueNorth

namespace Scoring

namespace ScoringEngine

variable {validate : String → Validation}
variable {results : Results}

/- An objective with a dependency that is not met. -/
theorem start_blocked
    {oid dependency : String}
    {obj : Objective}
    (hFind : obj.dependsOn.find? (unmet results) =
      some dependency) :
    start validate results oid obj =
      (.settled oid (.ok (obj.dependencyNotMet oid dependency)),
        results) := by
  unfold start
  rw [hFind]

/- An objective that is validated. -/
theorem start_validated
    {oid : String}
    {obj : Objective}
    (hFind : obj.dependsOn.find? (unmet results) = none) :
    outcomeOf validate (start validate results oid obj).1 =
        (oid, obj.judge oid (validate oid)) ∧
      (start validate results oid obj).2 =
        if (validate oid).waits then results
        else
          record results oid (obj.judge oid (validate oid)) := by
  unfold start
  rw [hFind]
  cases (validate oid).waits <;> exact ⟨rfl, rfl⟩

/- Every objective has an outcome of its own name. -/
theorem start_named
    (oid : String)
    (obj : Objective) :
    (outcomeOf validate (start validate results oid obj).1).1 =
        oid ∧
      ∀ result,
        (outcomeOf validate
            (start validate results oid obj).1).2 = .ok result →
          result.objectiveId = oid := by
  cases hFind : obj.dependsOn.find? (unmet results) with
  | some dependency =>
      rw [start_blocked hFind]
      refine ⟨rfl, ?_⟩
      rintro result ⟨⟩
      rfl
  | none =>
      rw [(start_validated hFind).1]
      exact ⟨rfl, fun result hOk => (judge_ok hOk).1⟩

/- Starting an objective records at most its own result. -/
theorem start_get?
    {oid oid' : String}
    {obj : Objective}
    (hOther : oid' = oid → (validate oid).waits = true) :
    (start validate results oid obj).2.get? oid' =
      results.get? oid' := by
  cases hFind : obj.dependsOn.find? (unmet results) with
  | some dependency => rw [start_blocked hFind]
  | none =>
      rw [(start_validated hFind).2]
      by_cases hSame : oid' = oid
      · rw [if_pos (hOther hSame)]
      · split
        · rfl
        · cases obj.judge oid (validate oid) with
          | error why => rfl
          | ok result => exact Dict.get?_set_ne hSame result

theorem startAll_cons
    (x : String × Objective)
    (xs : List (String × Objective)) :
    startAll validate results (x :: xs) =
      ((start validate results x.1 x.2).1 ::
          (startAll validate
            (start validate results x.1 x.2).2 xs).1,
        (startAll validate
          (start validate results x.1 x.2).2 xs).2) :=
  rfl

theorem startAll_append
    (xs ys : List (String × Objective)) :
    startAll validate results (xs ++ ys) =
      ((startAll validate results xs).1 ++
          (startAll validate
            (startAll validate results xs).2 ys).1,
        (startAll validate
          (startAll validate results xs).2 ys).2) := by
  induction xs generalizing results with
  | nil => rfl
  | cons x xs ih => simp [startAll_cons, ih]

theorem startAll_names
    (xs : List (String × Objective)) :
    ((startAll validate results xs).1.map
        (outcomeOf validate)).map Prod.fst =
      xs.map Prod.fst := by
  induction xs generalizing results with
  | nil => rfl
  | cons x xs ih =>
      simp only [startAll_cons, List.map_cons, ih]
      rw [(start_named x.1 x.2).1]

theorem startAll_named
    (xs : List (String × Objective)) :
    Named
      ((startAll validate results xs).1.map
        (outcomeOf validate)) := by
  induction xs generalizing results with
  | nil =>
      intro oid result hMem
      cases hMem
  | cons x xs ih =>
      intro oid result hMem
      simp only [startAll_cons, List.map_cons] at hMem
      rcases List.mem_cons.mp hMem with hFirst | hRest
      · have hNamed :=
          @start_named validate results x.1 x.2
        rw [← hFirst] at hNamed
        exact (hNamed.2 result rfl).trans hNamed.1.symm
      · exact ih oid result hRest

/- A result of an objective not started, or that waits. -/
theorem startAll_get?
    {xs : List (String × Objective)}
    {oid : String}
    (hOther : oid ∈ xs.map Prod.fst →
      (validate oid).waits = true) :
    (startAll validate results xs).2.get? oid =
      results.get? oid := by
  induction xs generalizing results with
  | nil => rfl
  | cons x xs ih =>
      simp only [startAll_cons]
      rw [ih (fun hMem => hOther (List.mem_cons_of_mem _ hMem))]
      apply start_get?
      rintro rfl
      exact hOther List.mem_cons_self

/- A result that was validated without waiting. -/
theorem startAll_recorded
    {xs : List (String × Objective)}
    (hNodup : (xs.map Prod.fst).Nodup)
    {oid : String}
    {obj : Objective}
    {result : ObjectiveResult}
    (hMem : (oid, obj) ∈ xs)
    (hRoot : obj.dependsOn = [])
    (hAtOnce : (validate oid).waits = false)
    (hJudge : obj.judge oid (validate oid) = .ok result) :
    (startAll validate results xs).2.get? oid =
      some result := by
  induction xs generalizing results with
  | nil => cases hMem
  | cons x xs ih =>
      rw [List.map_cons, List.nodup_cons] at hNodup
      simp only [startAll_cons]
      rcases List.mem_cons.mp hMem with rfl | hIn
      · have hFind :
            obj.dependsOn.find? (unmet results) = none := by
          rw [hRoot]
          rfl
        rw [startAll_get?
          (fun hAgain => absurd hAgain hNodup.1)]
        rw [(start_validated hFind).2, if_neg (by simp [hAtOnce]),
          hJudge]
        exact Dict.get?_set_self _ _ _
      · exact ih hNodup.2 hIn

end ScoringEngine

end Scoring

end TrueNorth

--------
-- Evaluations
--------

namespace TrueNorth

namespace Scoring

open ScoringEngine

/- The evaluation of the objectives by a new engine. -/
def scored
    (objectives : Dict String Objective)
    (validate : String → Validation) : ScoringResult :=
  (ScoringEngine.evaluate ⟨objectives, Dict.empty⟩ validate).1

variable {objectives : Dict String Objective}
variable {validate : String → Validation}

theorem verdict_of_mem
    {oid : String}
    {outcome : Outcome}
    (hMem :
      (oid, outcome) ∈
        ScoringEngine.outcomes ⟨objectives, Dict.empty⟩
          validate) :
    (scored objectives validate).verdict oid =
      some (verdictOf outcome) := by
  have hNodup :
      ((ScoringEngine.outcomes ⟨objectives, Dict.empty⟩
        validate).map Prod.fst).Nodup := by
    unfold ScoringEngine.outcomes
    rw [startAll_names]
    exact objectives.nodup
  have hJudged := Dict.find?_filterMap hNodup
    (f := fun o => o.2.toOption)
    (g := ObjectiveResult.objectiveId)
    (by
      rintro ⟨oid', outcome'⟩ hIn result hSome
      have hOk : outcome' = .ok result :=
        Checks.eq_ok_of_toOption hSome
      rw [hOk] at hIn
      exact startAll_named _ oid' result hIn) hMem
  have hUnscored := Dict.find?_filterMap hNodup
    (f := fun o => (unscoredOf o).map (fun why => (o.1, why)))
    (g := Prod.fst)
    (by
      rintro o - u hSome
      rcases Option.map_eq_some_iff.mp hSome with
        ⟨why, -, rfl⟩
      rfl) hMem
  unfold ScoringResult.verdict scored ScoringEngine.evaluate
  simp only [hJudged, hUnscored]
  cases outcome <;> rfl

/- An objective that the scenario does not have. -/
theorem verdict_eq_none
    {oid : String}
    (hNone : objectives.get? oid = none) :
    (scored objectives validate).verdict oid = none := by
  have hNames :
      ∀ outcome,
        (oid, outcome) ∉
          ScoringEngine.outcomes ⟨objectives, Dict.empty⟩
            validate := by
    intro outcome hMem
    apply Dict.get?_eq_none_iff.mp hNone
    have hName := List.mem_map_of_mem (f := Prod.fst) hMem
    unfold ScoringEngine.outcomes at hName
    rwa [startAll_names] at hName
  unfold ScoringResult.verdict scored ScoringEngine.evaluate
  simp only
  rw [List.find?_eq_none.mpr, List.find?_eq_none.mpr]
  · rfl
  · intro u hMem
    rcases List.mem_filterMap.mp hMem with
      ⟨⟨oid', outcome⟩, hIn, hSome⟩
    cases outcome with
    | ok result => cases hSome
    | error why =>
        cases hSome
        rw [decide_eq_true_eq]
        rintro rfl
        exact hNames _ hIn
  · intro result hMem
    rcases List.mem_filterMap.mp hMem with
      ⟨⟨oid', outcome⟩, hIn, hSome⟩
    cases outcome with
    | error why => cases hSome
    | ok result' =>
        cases hSome
        rw [startAll_named _ oid' result hIn,
          decide_eq_true_eq]
        rintro rfl
        exact hNames _ hIn

/- The outcome of an objective between those around it. -/
theorem outcome_mem
    {before after : List (String × Objective)}
    {oid : String}
    {obj : Objective}
    (hEntries :
      objectives.entries = before ++ (oid, obj) :: after) :
    outcomeOf validate
        (start validate
          (startAll validate Dict.empty before).2 oid obj).1 ∈
      ScoringEngine.outcomes ⟨objectives, Dict.empty⟩
        validate := by
  unfold ScoringEngine.outcomes
  simp only [hEntries, startAll_append, startAll_cons,
    List.map_append, List.map_cons]
  exact List.mem_append_right _ List.mem_cons_self

/- An objective without dependencies is always validated. -/
theorem root_outcome
    {oid : String}
    {obj : Objective}
    (hGet : objectives.get? oid = some obj)
    (hRoot : obj.dependsOn = []) :
    (scored objectives validate).verdict oid =
      some (verdictOf (obj.judge oid (validate oid))) := by
  rcases List.append_of_mem (Dict.get?_eq_some_iff.mp hGet) with
    ⟨before, after, hEntries⟩
  apply verdict_of_mem
  have hMem := @outcome_mem _ validate _ _ _ _ hEntries
  rwa [(start_validated (by rw [hRoot]; rfl)).1] at hMem

--------
-- When the Order Is Immaterial
--------

open ScoringEngine

section

variable (objectives : Dict String Objective)
variable (validate : String → Validation)

/-
  An objective of the scenario that depends on nothing, and
  that its validator finds achieved.
-/
def achievedAtOnce
    (oid : String) : Bool :=
  match objectives.get? oid with
  | none => false
  | some obj =>
      obj.dependsOn.isEmpty &&
        match obj.judge oid (validate oid) with
        | .ok result => result.achieved
        | .error _ => false

/-
  Every permutation of the objectives gives each the same
  verdict, and only a dependency that is not achieved in the
  same evaluation is not met.
-/
structure OrderImmaterial : Prop where
  sameVerdict :
    ∀ objectives' : Dict String Objective,
      objectives'.entries.Perm objectives.entries →
        ∀ oid, (scored objectives' validate).verdict oid =
          (scored objectives validate).verdict oid
  notMet :
    ∀ oid obj, objectives.get? oid = some obj →
      (scored objectives validate).verdict oid =
          some .dependencyNotMet →
        ∃ dependency ∈ obj.dependsOn,
          (scored objectives validate).achieved dependency =
            false

/-
  Each objective with dependencies has one that is not
  achieved at once.
-/
def AllHeldUp : Prop :=
  ∀ oid obj, objectives.get? oid = some obj →
    obj.dependsOn ≠ [] →
      ∃ dependency ∈ obj.dependsOn,
        achievedAtOnce objectives validate dependency = false

end

variable {objectives : Dict String Objective}
variable {validate : String → Validation}

theorem achievedAtOnce_iff
    {oid : String} :
    achievedAtOnce objectives validate oid = true ↔
      ∃ obj result, objectives.get? oid = some obj ∧
        obj.dependsOn = [] ∧
        obj.judge oid (validate oid) = .ok result ∧
        result.achieved = true := by
  unfold achievedAtOnce
  cases hGet : objectives.get? oid with
  | none => simp
  | some obj =>
      cases hJudge : obj.judge oid (validate oid) with
      | error why => simp [hJudge]
      | ok result => simp [hJudge]

/- What is achieved at once is achieved in the evaluation. -/
theorem achieved_of_atOnce
    {oid : String}
    (hAtOnce : achievedAtOnce objectives validate oid = true) :
    (scored objectives validate).achieved oid = true := by
  rcases achievedAtOnce_iff.mp hAtOnce with
    ⟨obj, result, hGet, hRoot, hJudge, hAchieved⟩
  unfold ScoringResult.achieved
  rw [root_outcome hGet hRoot, hJudge, verdictOf,
    (judge_ok hJudge).2]
  exact hAchieved

/-
  The verdict of an objective where all are held up: its own
  validator's, or that a dependency is not met.
-/
def settledVerdict
    (validate : String → Validation)
    (oid : String)
    (obj : Objective) : Verdict :=
  if obj.dependsOn = [] then
    verdictOf (obj.judge oid (validate oid))
  else .dependencyNotMet

/-
  Induction on the list: what is recorded so far was achieved
  at once, if it was achieved at all, so that whatever has
  dependencies is blocked by the one that was not.
-/
theorem startAll_settled
    (hHeldUp : AllHeldUp objectives validate)
    {xs : List (String × Objective)}
    (hEntries : ∀ x ∈ xs, x ∈ objectives.entries)
    {results : Results}
    (hRecorded : ∀ oid result,
      results.get? oid = some result →
        result.achieved = true →
          achievedAtOnce objectives validate oid = true) :
    ((startAll validate results xs).1.map
        (outcomeOf validate)).map
          (fun o => (o.1, verdictOf o.2)) =
      xs.map (fun x =>
        (x.1, settledVerdict validate x.1 x.2)) := by
  induction xs generalizing results with
  | nil => rfl
  | cons x xs ih =>
      rcases x with ⟨oid, obj⟩
      have hGet : objectives.get? oid = some obj :=
        Dict.get?_eq_some_iff.mpr
          (hEntries _ List.mem_cons_self)
      have hRest : ∀ x ∈ xs, x ∈ objectives.entries :=
        fun x hMem => hEntries x (List.mem_cons_of_mem _ hMem)
      simp only [startAll_cons, List.map_cons]
      by_cases hRoot : obj.dependsOn = []
      · have hFind :
            obj.dependsOn.find? (unmet results) = none := by
          rw [hRoot]
          rfl
        rcases @start_validated validate results oid obj hFind
          with ⟨hOutcome, hLeft⟩
        rw [hOutcome, hLeft, ih hRest]
        · rw [settledVerdict, if_pos hRoot]
        · intro oid' result hResult hAchieved
          split at hResult
          · exact hRecorded oid' result hResult hAchieved
          · cases hJudge : obj.judge oid (validate oid) with
            | error why =>
                rw [hJudge] at hResult
                exact hRecorded oid' result hResult hAchieved
            | ok own =>
                rw [hJudge, record, Dict.get?_set] at hResult
                split at hResult
                · next hSame =>
                    cases hResult
                    rw [hSame]
                    exact achievedAtOnce_iff.mpr
                      ⟨obj, result, hGet, hRoot, hJudge,
                        hAchieved⟩
                · exact hRecorded oid' result hResult hAchieved
      · rcases hHeldUp oid obj hGet hRoot with
          ⟨dependency, hMem, hNot⟩
        have hUnmet : unmet results dependency = true := by
          unfold unmet
          cases hResult : results.get? dependency with
          | none => rfl
          | some result =>
              cases hAchieved : result.achieved with
              | false => simp [hAchieved]
              | true =>
                  have hAtOnce :=
                    hRecorded dependency result hResult hAchieved
                  rw [hNot] at hAtOnce
                  cases hAtOnce
        rcases Option.isSome_iff_exists.mp
            (List.find?_isSome.mpr ⟨dependency, hMem, hUnmet⟩)
          with ⟨blocking, hFind⟩
        rw [start_blocked hFind, ih hRest hRecorded,
          settledVerdict, if_neg hRoot]
        rfl

/- The verdicts where all are held up, in any order. -/
theorem verdict_of_heldUp
    (hHeldUp : AllHeldUp objectives validate)
    (oid : String) :
    (scored objectives validate).verdict oid =
      (objectives.get? oid).map
        (settledVerdict validate oid) := by
  cases hGet : objectives.get? oid with
  | none => exact verdict_eq_none hGet
  | some obj =>
      have hSettled := @startAll_settled _ validate hHeldUp
        objectives.entries (fun x hMem => hMem) Dict.empty
        (by
          intro oid' result hNone
          cases hNone)
      have hMem :
          (oid, settledVerdict validate oid obj) ∈
            objectives.entries.map (fun x =>
              (x.1, settledVerdict validate x.1 x.2)) :=
        List.mem_map.mpr
          ⟨(oid, obj), Dict.get?_eq_some_iff.mp hGet, rfl⟩
      rw [← hSettled] at hMem
      rcases List.mem_map.mp hMem with
        ⟨⟨oid', outcome⟩, hIn, hSame⟩
      rw [Prod.mk.injEq] at hSame
      rcases hSame with ⟨rfl, hVerdict⟩
      rw [verdict_of_mem hIn, hVerdict]
      rfl

/- The same objectives in another order. -/
def reordered
    (objectives : Dict String Objective)
    (entries : List (String × Objective))
    (hPerm : entries.Perm objectives.entries) :
    Dict String Objective where
  entries := entries
  nodup := (hPerm.map Prod.fst).nodup_iff.mpr objectives.nodup

/- Where all are held up, nothing else is achieved. -/
theorem achieved_of_heldUp
    (hHeldUp : AllHeldUp objectives validate)
    (oid : String) :
    (scored objectives validate).achieved oid =
      achievedAtOnce objectives validate oid := by
  unfold ScoringResult.achieved achievedAtOnce
  rw [verdict_of_heldUp hHeldUp]
  cases hGet : objectives.get? oid with
  | none => rfl
  | some obj =>
      simp only [Option.map_some, settledVerdict]
      cases hDepends : obj.dependsOn with
      | cons dependency others => simp
      | nil =>
          cases hJudge : obj.judge oid (validate oid) with
          | error why => simp [verdictOf]
          | ok result =>
              simp [verdictOf, (judge_ok hJudge).2]

/- The verdict of an objective that starts blocked. -/
theorem verdict_of_blocked
    {before after : List (String × Objective)}
    {oid dependency : String}
    {obj : Objective}
    (hEntries :
      objectives.entries = before ++ (oid, obj) :: after)
    (hMem : dependency ∈ obj.dependsOn)
    (hUnmet :
      unmet (startAll validate Dict.empty before).2
        dependency = true) :
    (scored objectives validate).verdict oid =
      some .dependencyNotMet := by
  rcases Option.isSome_iff_exists.mp
      (List.find?_isSome.mpr ⟨dependency, hMem, hUnmet⟩)
    with ⟨blocking, hFind⟩
  have hOutcome := @outcome_mem _ validate _ _ _ _ hEntries
  rw [start_blocked hFind] at hOutcome
  exact verdict_of_mem hOutcome

/- A dependency that is achieved, before an objective. -/
theorem met_of_atOnce
    {before after : List (String × Objective)}
    {oid dependency : String}
    {obj : Objective}
    (hPerm : (before ++ after).Perm objectives.entries)
    (hHere : after = [(oid, obj)])
    (hDepends : obj.dependsOn ≠ [])
    (hAtOnce :
      achievedAtOnce objectives validate dependency = true)
    (hReady : (validate dependency).waits = false) :
    unmet (startAll validate Dict.empty before).2 dependency =
      false := by
  rcases achievedAtOnce_iff.mp hAtOnce with
    ⟨obj', result, hGet, hRoot, hJudge, hAchieved⟩
  have hMem : (dependency, obj') ∈ before := by
    have hIn := hPerm.mem_iff.mpr
      (Dict.get?_eq_some_iff.mp hGet)
    rcases List.mem_append.mp hIn with hIn | hIn
    · exact hIn
    · rw [hHere, List.mem_singleton, Prod.mk.injEq] at hIn
      rw [hIn.2] at hRoot
      exact absurd hRoot hDepends
  have hNodup : (before.map Prod.fst).Nodup := by
    have hAll : ((before ++ after).map Prod.fst).Nodup :=
      (hPerm.map Prod.fst).nodup_iff.mpr objectives.nodup
    rw [List.map_append] at hAll
    exact (List.nodup_append.mp hAll).1
  unfold unmet
  rw [startAll_recorded hNodup hMem hRoot hReady hJudge]
  simp [hAchieved]

/-
  An objective whose dependencies are all achieved at once
  is not met in a list that begins with it, and validated in
  one that ends with it, unless a dependency waits.
-/
theorem OrderImmaterial.allHeldUp
    (hOrder : OrderImmaterial objectives validate) :
    AllHeldUp objectives validate := by
  intro oid obj hGet hDepends
  by_contra hNone
  push Not at hNone
  have hAtOnce : ∀ dependency ∈ obj.dependsOn,
      achievedAtOnce objectives validate dependency = true := by
    intro dependency hMem
    simpa using hNone dependency hMem
  rcases List.append_of_mem (Dict.get?_eq_some_iff.mp hGet) with
    ⟨before, after, hEntries⟩
  by_cases hWaits :
      ∃ dependency ∈ obj.dependsOn,
        (validate dependency).waits = true
  · rcases hWaits with ⟨dependency, hMem, hWaits⟩
    have hUnmet :
        unmet (startAll validate Dict.empty before).2
          dependency = true := by
      unfold unmet
      rw [startAll_get? (fun _ => hWaits)]
      rfl
    have hNotMet := verdict_of_blocked hEntries hMem hUnmet
    rcases hOrder.notMet oid obj hGet hNotMet with
      ⟨dependency', hMem', hNot⟩
    rw [achieved_of_atOnce (hAtOnce dependency' hMem')] at hNot
    cases hNot
  · push Not at hWaits
    rcases List.exists_mem_of_ne_nil _ hDepends with
      ⟨dependency, hMem⟩
    have hFirstPerm :
        ((oid, obj) :: (before ++ after)).Perm
          objectives.entries := by
      rw [hEntries]
      exact List.perm_middle.symm
    have hLastPerm :
        ((before ++ after) ++ [(oid, obj)]).Perm
          objectives.entries :=
      (List.perm_append_singleton _ _).trans hFirstPerm
    have hFirst :
        (scored (reordered objectives _ hFirstPerm)
            validate).verdict oid =
          some .dependencyNotMet :=
      @verdict_of_blocked _ validate [] _ _ _ _ rfl hMem rfl
    have hLast :
        (scored (reordered objectives _ hLastPerm)
            validate).verdict oid =
          some (verdictOf (obj.judge oid (validate oid))) := by
      apply verdict_of_mem
      have hFind :
          obj.dependsOn.find?
              (unmet
                (startAll validate Dict.empty
                  (before ++ after)).2) =
            none := by
        apply List.find?_eq_none.mpr
        intro dependency' hMem'
        rw [met_of_atOnce hLastPerm rfl hDepends
          (hAtOnce dependency' hMem')
          (by simpa using hWaits dependency' hMem')]
        exact Bool.false_ne_true
      rw [← (start_validated hFind).1]
      exact @outcome_mem (reordered objectives _ hLastPerm)
        validate _ _ _ _ rfl
    rw [hOrder.sameVerdict
        (reordered objectives _ hFirstPerm) hFirstPerm,
      ← hOrder.sameVerdict
        (reordered objectives _ hLastPerm) hLastPerm,
      hLast] at hFirst
    exact verdictOf_judge_ne obj oid (validate oid)
      (Option.some.inj hFirst)

theorem AllHeldUp.orderImmaterial
    (hHeldUp : AllHeldUp objectives validate) :
    OrderImmaterial objectives validate where
  sameVerdict := by
    intro objectives' hPerm oid
    have hGet : ∀ oid,
        objectives'.get? oid = objectives.get? oid := by
      intro oid
      apply Option.ext
      intro obj
      rw [Dict.get?_eq_some_iff, Dict.get?_eq_some_iff]
      exact hPerm.mem_iff
    have hHeldUp' : AllHeldUp objectives' validate := by
      intro oid obj hObj hDepends
      rw [hGet] at hObj
      rcases hHeldUp oid obj hObj hDepends with
        ⟨dependency, hMem, hNot⟩
      refine ⟨dependency, hMem, ?_⟩
      unfold achievedAtOnce at hNot ⊢
      rwa [hGet]
    rw [verdict_of_heldUp hHeldUp', verdict_of_heldUp hHeldUp,
      hGet]
  notMet := by
    intro oid obj hGet hNotMet
    rw [verdict_of_heldUp hHeldUp, hGet, Option.map_some,
      Option.some.injEq, settledVerdict] at hNotMet
    split at hNotMet
    · exact absurd hNotMet (verdictOf_judge_ne _ _ _)
    · next hDepends =>
        rcases hHeldUp oid obj hGet hDepends with
          ⟨dependency, hMem, hNot⟩
        refine ⟨dependency, hMem, ?_⟩
        rw [achieved_of_heldUp hHeldUp, hNot]

/-
  The order is immaterial exactly where no objective has
  only dependencies that are achieved at once.
-/
theorem orderImmaterial_iff
    (objectives : Dict String Objective)
    (validate : String → Validation) :
    OrderImmaterial objectives validate ↔
      AllHeldUp objectives validate :=
  ⟨OrderImmaterial.allHeldUp, AllHeldUp.orderImmaterial⟩

end Scoring

end TrueNorth

--------
-- A Dependency Listed Last
--------

namespace TrueNorth

namespace Scoring

namespace Containment

open ScoringEngine

/- Containment, which depends on the detection listed last. -/
def objectives : Dict String Objective where
  entries :=
    [("contain", ⟨"Contain", 30, false, 0, false, 1, ["detect"]⟩),
     ("detect", ⟨"Detect", 20, false, 0, false, 1, []⟩)]
  nodup := by decide

/- An instructor has acknowledged both. -/
def acknowledged (_ : String) : Validation :=
  ⟨.returned true [], false, 0⟩

/- Containment is not met for a detection that is achieved. -/
theorem not_met_though_achieved :
    (scored objectives acknowledged).verdict "contain" =
        some .dependencyNotMet ∧
      (scored objectives acknowledged).achieved "detect" = true ∧
      ¬OrderImmaterial objectives acknowledged := by
  have hNotMet :
      (scored objectives acknowledged).verdict "contain" =
        some .dependencyNotMet := by
    decide
  have hAchieved :
      (scored objectives acknowledged).achieved "detect" =
        true := by
    decide
  refine ⟨hNotMet, hAchieved, ?_⟩
  intro hOrder
  rcases hOrder.notMet "contain" _ rfl hNotMet with
    ⟨dependency, hMem, hNot⟩
  rw [List.mem_singleton] at hMem
  rw [hMem, hAchieved] at hNot
  cases hNot

end Containment

end Scoring

end TrueNorth
