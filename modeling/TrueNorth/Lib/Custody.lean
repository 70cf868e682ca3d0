import Mathlib.Data.List.Basic

/-
  Custody: every thing that stands has exactly one keeper,
  and a keeper keeps only what stands.

  Main declarations:
    * `Custody`
    * `Custody.take_iff`
    * `Custody.handOver`
    * `Custody.release`
    * `Custody.not_of_move`
-/

--------
-- Custody
--------

/- `own i` is the thing `i` keeps, if it keeps one. -/
structure Custody
    {I T : Type}
    (own : I → Option T)
    (stands : T → Prop) : Prop where
  kept : ∀ i t, own i = some t → stands t
  single : ∀ i j t, own i = some t → own j = some t → i = j
  owned : ∀ t, stands t → ∃ i, own i = some t

namespace Custody

variable {I T : Type}
variable [DecidableEq I]
variable {own own' : I → Option T}
variable {stands stands' : T → Prop}
variable {i j : I}
variable {t : T}

omit [DecidableEq I] in
theorem congr
    (hOwn : ∀ k, own' k = own k)
    (hStands : ∀ u, stands' u ↔ stands u) :
    Custody own' stands' ↔ Custody own stands := by
  have hSame : own' = own := funext hOwn
  have hSame' : stands' = stands :=
    funext (fun u => propext (hStands u))
  rw [hSame, hSame']

/-
  A keeper of nothing, or of the thing itself, takes a thing
  that stands from now on: right when no other keeps it.
-/
theorem take_iff
    (hCustody : Custody own stands)
    (hFrom : own i = none ∨ own i = some t)
    (hOwn : ∀ k, own' k = if k = i then some t else own k)
    (hStands : ∀ u, stands' u ↔ u = t ∨ stands u) :
    Custody own' stands' ↔ ∀ k, own k = some t → k = i := by
  constructor
  · intro hAfter k hk
    by_cases hi : k = i
    · exact hi
    · apply hAfter.single k i t
      · rw [hOwn, if_neg hi, hk]
      · rw [hOwn, if_pos rfl]
  · intro hFree
    constructor
    · intro k u hk
      rw [hOwn] at hk
      by_cases hi : k = i
      · rw [if_pos hi] at hk
        cases hk
        exact (hStands _).mpr (.inl rfl)
      · rw [if_neg hi] at hk
        exact (hStands u).mpr (.inr (hCustody.kept k u hk))
    · intro k l u hk hl
      rw [hOwn] at hk hl
      by_cases hi : k = i
      · rw [if_pos hi] at hk
        cases hk
        by_cases hi' : l = i
        · rw [hi, hi']
        · rw [if_neg hi'] at hl
          rw [hi, hFree l hl]
      · rw [if_neg hi] at hk
        by_cases hi' : l = i
        · rw [if_pos hi'] at hl
          cases hl
          rw [hi', hFree k hk]
        · rw [if_neg hi'] at hl
          exact hCustody.single k l u hk hl
    · intro u hu
      rcases (hStands u).mp hu with rfl | hOld
      · exact ⟨i, by rw [hOwn, if_pos rfl]⟩
      · rcases hCustody.owned u hOld with ⟨k, hk⟩
        by_cases hi : k = i
        · refine ⟨i, ?_⟩
          rw [hOwn, if_pos rfl]
          rcases hFrom with hNone | hSome
          · rw [hi, hNone] at hk
            cases hk
          · rw [hi, hSome] at hk
            exact hk
        · exact ⟨k, by rw [hOwn, if_neg hi, hk]⟩

/- A keeper hands its thing to one that keeps nothing. -/
theorem handOver
    (hCustody : Custody own stands)
    (hFrom : own i = some t)
    (hNew : own j = none)
    (hOwn : ∀ k,
      own' k =
        if k = i then none
        else if k = j then some t
        else own k)
    (hStands : ∀ u, stands' u ↔ stands u) :
    Custody own' stands' := by
  have hNe : j ≠ i := by
    intro hSame
    rw [hSame, hFrom] at hNew
    cases hNew
  -- whoever keeps something now is the new keeper or an old one
  have hKept : ∀ k u, own' k = some u →
      (k = j ∧ u = t) ∨ (k ≠ i ∧ own k = some u) := by
    intro k u hk
    rw [hOwn] at hk
    by_cases hi : k = i
    · rw [if_pos hi] at hk
      cases hk
    · rw [if_neg hi] at hk
      by_cases hj : k = j
      · rw [if_pos hj] at hk
        cases hk
        exact .inl ⟨hj, rfl⟩
      · rw [if_neg hj] at hk
        exact .inr ⟨hi, hk⟩
  constructor
  · intro k u hk
    rw [hStands]
    rcases hKept k u hk with ⟨_, rfl⟩ | ⟨_, hOld⟩
    · exact hCustody.kept i _ hFrom
    · exact hCustody.kept k u hOld
  · intro k l u hk hl
    rcases hKept k u hk with ⟨hj, hu⟩ | ⟨hi, hOld⟩
    · rcases hKept l u hl with ⟨hj', _⟩ | ⟨hi', hOld'⟩
      · rw [hj, hj']
      · rw [hu] at hOld'
        exact absurd (hCustody.single l i t hOld' hFrom) hi'
    · rcases hKept l u hl with ⟨_, hu⟩ | ⟨_, hOld'⟩
      · rw [hu] at hOld
        exact absurd (hCustody.single k i t hOld hFrom) hi
      · exact hCustody.single k l u hOld hOld'
  · intro u hu
    rcases hCustody.owned u ((hStands u).mp hu) with ⟨k, hk⟩
    by_cases hi : k = i
    · rw [hi, hFrom] at hk
      cases hk
      exact ⟨j, by rw [hOwn, if_neg hNe, if_pos rfl]⟩
    · refine ⟨k, ?_⟩
      have hj : k ≠ j := by
        intro hSame
        rw [hSame, hNew] at hk
        cases hk
      rw [hOwn, if_neg hi, if_neg hj, hk]

/- A thing falls, and its keeper keeps nothing any more. -/
theorem release
    (hCustody : Custody own stands)
    (hFrom : own i = some t)
    (hOwn : ∀ k, own' k = if k = i then none else own k)
    (hStands : ∀ u, stands' u ↔ stands u ∧ u ≠ t) :
    Custody own' stands' := by
  have hKept : ∀ k u, own' k = some u →
      k ≠ i ∧ own k = some u := by
    intro k u hk
    rw [hOwn] at hk
    by_cases hi : k = i
    · rw [if_pos hi] at hk
      cases hk
    · rw [if_neg hi] at hk
      exact ⟨hi, hk⟩
  constructor
  · intro k u hk
    rcases hKept k u hk with ⟨hi, hOld⟩
    refine (hStands u).mpr ⟨hCustody.kept k u hOld, ?_⟩
    intro hu
    rw [hu] at hOld
    exact hi (hCustody.single k i t hOld hFrom)
  · intro k l u hk hl
    exact hCustody.single k l u (hKept k u hk).2 (hKept l u hl).2
  · intro u hu
    rcases (hStands u).mp hu with ⟨hOld, hNe⟩
    rcases hCustody.owned u hOld with ⟨k, hk⟩
    refine ⟨k, ?_⟩
    have hi : k ≠ i := by
      intro hSame
      rw [hSame, hFrom] at hk
      exact hNe (Option.some.inj hk).symm
    rw [hOwn, if_neg hi, hk]

/- A keeper that turns to another thing leaves its own. -/
theorem not_of_move
    {t' : T}
    (hCustody : Custody own stands)
    (hFrom : own i = some t)
    (hNe : t' ≠ t)
    (hOwn : ∀ k, own' k = if k = i then some t' else own k)
    (hStands : ∀ u, stands' u ↔ stands u) :
    ¬ Custody own' stands' := by
  intro hAfter
  have hStill := (hStands t).mpr (hCustody.kept i t hFrom)
  rcases hAfter.owned t hStill with ⟨k, hk⟩
  rw [hOwn] at hk
  by_cases hi : k = i
  · rw [if_pos hi] at hk
    exact hNe (Option.some.inj hk)
  · rw [if_neg hi] at hk
    exact hi (hCustody.single k i t hk hFrom)

end Custody
