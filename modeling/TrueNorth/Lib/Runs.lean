import Mathlib.Data.List.Basic

/-
  Runs of a deterministic transition function.

  A system is a function `step : S → A → S`: an action
  carries every choice its environment makes, and an action
  that is refused leaves the state as it was.  Everything
  said about a whole run is reduced here, once, to what one
  step preserves.

  Main declarations:
    * `Runs.run`
    * `Runs.run_invariant`
    * `Runs.Meets`
    * `Runs.meets_append`
    * `Runs.Meets.invariant`
    * `Runs.always_iff_meets`
-/

--------
-- Runs
--------

namespace Runs

variable {S A : Type}

/- The state reached from `s` by a list of actions. -/
def run
    (step : S → A → S)
    (s : S)
    (actions : List A) : S :=
  actions.foldl step s

@[simp] theorem run_nil
    (step : S → A → S)
    (s : S) :
    run step s [] = s := rfl

@[simp] theorem run_cons
    (step : S → A → S)
    (s : S)
    (a : A)
    (actions : List A) :
    run step s (a :: actions) =
      run step (step s a) actions := rfl

@[simp] theorem run_append
    (step : S → A → S)
    (s : S)
    (before after : List A) :
    run step s (before ++ after) =
      run step (run step s before) after := by
  simp [run]

/- What every step preserves holds in every state reached. -/
theorem run_invariant
    {step : S → A → S}
    (Inv : S → Prop)
    (hStep : ∀ s a, Inv s → Inv (step s a))
    {s : S}
    (hStart : Inv s)
    (actions : List A) :
    Inv (run step s actions) := by
  induction actions generalizing s with
  | nil => exact hStart
  | cons a actions ih =>
      exact ih (hStep s a hStart)

--------
-- Runs Whose Steps Meet a Condition
--------

variable {S A : Type}

/-
  Every step of the run meets `cond`, read in the state the
  step is taken from.
-/
def Meets
    (step : S → A → S)
    (cond : S → A → Prop) :
    S → List A → Prop
| _, [] => True
| s, a :: actions =>
    cond s a ∧ Meets step cond (step s a) actions

instance decidableMeets
    {step : S → A → S}
    {cond : S → A → Prop}
    [∀ s a, Decidable (cond s a)] :
    ∀ s actions, Decidable (Meets step cond s actions)
| _, [] => .isTrue trivial
| s, a :: actions =>
    have : Decidable (Meets step cond (step s a) actions) :=
      decidableMeets (step s a) actions
    inferInstanceAs (Decidable (_ ∧ _))

/- A run in two parts. -/
theorem meets_append
    {step : S → A → S}
    {cond : S → A → Prop}
    {s : S}
    {before after : List A} :
    Meets step cond s (before ++ after) ↔
      Meets step cond s before ∧
        Meets step cond (run step s before) after := by
  induction before generalizing s with
  | nil => simp [Meets]
  | cons a before ih =>
      simp only [List.cons_append, Meets, run_cons, ih, and_assoc]

/-
  What every step meeting the condition preserves holds in
  every state such a run reaches.
-/
theorem Meets.invariant
    {step : S → A → S}
    {cond : S → A → Prop}
    (Inv : S → Prop)
    (hStep : ∀ s a, cond s a → Inv s → Inv (step s a))
    {s : S}
    (hStart : Inv s)
    {actions : List A}
    (hMeets : Meets step cond s actions) :
    Inv (run step s actions) := by
  induction actions generalizing s with
  | nil => exact hStart
  | cons a actions ih =>
      exact ih (hStep s a hMeets.1 hStart) hMeets.2

/-
  Where a step keeps the property exactly when it meets the
  condition, the property holds all along a run exactly when
  all its steps meet the condition.  `Inv` holds for as long
  as they do.
-/
theorem always_iff_meets
    {step : S → A → S}
    {cond : S → A → Prop}
    {Inv Good : S → Prop}
    (hInv : ∀ s a, Inv s → Good s → cond s a →
      Inv (step s a))
    (hStep : ∀ s a, Inv s → Good s →
      (Good (step s a) ↔ cond s a))
    {s : S}
    (hStart : Inv s)
    (hGood : Good s)
    (actions : List A) :
    (∀ before, before <+: actions →
        Good (run step s before)) ↔
      Meets step cond s actions := by
  induction actions generalizing s with
  | nil =>
      constructor
      · intro _
        trivial
      · intro _ before hBefore
        rw [List.prefix_nil.mp hBefore]
        exact hGood
  | cons a actions ih =>
      constructor
      · intro hAlways
        have hNext : Good (step s a) :=
          hAlways [a] ⟨actions, rfl⟩
        have hCond := (hStep s a hStart hGood).mp hNext
        refine ⟨hCond, ?_⟩
        apply (ih (hInv s a hStart hGood hCond) hNext).mp
        intro before hBefore
        exact hAlways (a :: before)
          (List.cons_prefix_cons.mpr ⟨rfl, hBefore⟩)
      · rintro ⟨hCond, hMeets⟩ before hBefore
        have hNext := (hStep s a hStart hGood).mpr hCond
        have hRest :=
          (ih (hInv s a hStart hGood hCond) hNext).mpr hMeets
        rcases List.prefix_cons_iff.mp hBefore with
          rfl | ⟨before', rfl, hBefore'⟩
        · exact hGood
        · exact hRest before' hBefore'

end Runs
