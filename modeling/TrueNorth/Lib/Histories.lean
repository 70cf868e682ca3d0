import Mathlib.Data.List.Basic

/-
  Histories whose every event was allowed by the events
  before it.

  Main declarations:
    * `Histories.Lawful`
    * `Histories.Lawful.allowed_at`
-/

--------
-- Lawful Histories
--------

namespace Histories

variable {E : Type}

inductive Lawful (allowed : List E → E → Prop) :
    List E → Prop
| nil : Lawful allowed []
| snoc
    {log : List E}
    {e : E}
    (hLog : Lawful allowed log)
    (hAllowed : allowed log e) :
    Lawful allowed (log ++ [e])

/- Whatever stands in a lawful history was allowed there. -/
theorem Lawful.allowed_at
    {allowed : List E → E → Prop}
    {log : List E}
    (hLawful : Lawful allowed log)
    {before after : List E}
    {e : E}
    (hSplit : log = before ++ e :: after) :
    allowed before e := by
  induction hLawful generalizing after with
  | nil => simp at hSplit
  | @snoc log last _ hAllowed ih =>
      rcases List.eq_nil_or_concat after with
        rfl | ⟨after, last', rfl⟩
      · rcases List.append_inj' hSplit rfl with
          ⟨hLog, hLast⟩
        cases hLast
        rw [← hLog]
        exact hAllowed
      · have hSame :
            log ++ [last] =
              (before ++ e :: after) ++ [last'] := by
          simpa using hSplit
        exact ih (List.append_inj' hSame rfl).1

end Histories
