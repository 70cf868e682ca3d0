import Mathlib.Data.Set.Basic

/-
  Conjunctions whose members have effects.  One that stops
  at the first false member leaves out the effects of the
  members after it; one that goes through the whole list
  has them all.

  Main declarations:
    * `ShortCircuit.all`, `ShortCircuit.every`
    * `ShortCircuit.Reached`
    * `ShortCircuit.all_eq`, `ShortCircuit.every_eq`
-/

--------
-- Conjunctions
--------

namespace ShortCircuit

variable {A S K : Type}

/- The conjunction that stops at the first false member. -/
def all
    (visit : A → S → Option (Bool × S)) :
    List A → S → Option (Bool × S)
| [], s => some (true, s)
| a :: as, s =>
    match visit a s with
    | none => none
    | some (false, s) => some (false, s)
    | some (true, s) => all visit as s

/- The conjunction of every member's answer. -/
def every
    (visit : A → S → Option (Bool × S)) :
    List A → S → Option (Bool × S)
| [], s => some (true, s)
| a :: as, s =>
    match visit a s with
    | none => none
    | some (ok, s) =>
        match every visit as s with
        | none => none
        | some (rest, s) => some (ok && rest, s)

/- A member before which every member holds. -/
def Reached
    (holds : A → Prop)
    (as : List A)
    (a : A) : Prop :=
  ∃ before after,
    as = before ++ a :: after ∧ ∀ b ∈ before, holds b

theorem Reached.mem
    {holds : A → Prop}
    {as : List A}
    {a : A}
    (hReached : Reached holds as a) : a ∈ as := by
  rcases hReached with ⟨before, after, rfl, _⟩
  exact List.mem_append_right _ List.mem_cons_self

theorem reached_cons
    {holds : A → Prop}
    {a b : A}
    {as : List A} :
    Reached holds (b :: as) a ↔
      a = b ∨ holds b ∧ Reached holds as a := by
  constructor
  · rintro ⟨before, after, hSplit, hBefore⟩
    rcases before with _ | ⟨b', before⟩
    · exact .inl (List.cons.inj hSplit).1.symm
    · rcases List.cons.inj hSplit with ⟨rfl, hRest⟩
      exact .inr ⟨hBefore _ List.mem_cons_self, before, after,
        hRest,
        fun c hMem => hBefore c (List.mem_cons_of_mem _ hMem)⟩
  · rintro (rfl | ⟨hHolds, before, after, rfl, hBefore⟩)
    · exact ⟨[], as, rfl, fun c hMem => nomatch hMem⟩
    · refine ⟨b :: before, after, rfl, ?_⟩
      intro c hMem
      rcases List.mem_cons.mp hMem with rfl | hMem
      · exact hHolds
      · exact hBefore c hMem

--------
-- What They Reach
--------

variable {A S K : Type}
variable {visit : A → S → Option (Bool × S)}
variable {holds : A → Prop} [DecidablePred holds]
variable {effect : A → Set K}
variable {Did : Set K → S → S → Prop}

/-
  Induction on the list.  The effects done are those of the
  members that are reached.
-/
theorem all_eq
    (hNone : ∀ s, Did ∅ s s)
    (hBoth : ∀ x y s s' s'',
      Did x s s' → Did y s' s'' → Did (x ∪ y) s s'')
    {as : List A}
    (hVisit : ∀ a ∈ as, ∀ s,
      ∃ s', visit a s = some (decide (holds a), s') ∧
        Did (effect a) s s')
    (s : S) :
    ∃ s', all visit as s =
        some (decide (∀ a ∈ as, holds a), s') ∧
      Did {k | ∃ a, Reached holds as a ∧ k ∈ effect a} s s' := by
  induction as generalizing s with
  | nil =>
      refine ⟨s, by simp [all], ?_⟩
      have hEmpty :
          {k | ∃ a, Reached holds [] a ∧ k ∈ effect a} = ∅ := by
        apply Set.eq_empty_of_forall_notMem
        rintro k ⟨a, hReached, _⟩
        exact List.not_mem_nil hReached.mem
      rw [hEmpty]
      exact hNone s
  | cons b as ih =>
      rcases hVisit b List.mem_cons_self s with
        ⟨s₁, hFirst, hDid⟩
      by_cases hHolds : holds b
      · rcases ih
            (fun a hMem => hVisit a (List.mem_cons_of_mem _ hMem))
            s₁ with ⟨s₂, hRest, hDidRest⟩
        refine ⟨s₂, ?_, ?_⟩
        · simp [all, hFirst, hHolds, hRest]
        · have hSplit :
              {k | ∃ a, Reached holds (b :: as) a ∧
                k ∈ effect a} =
              effect b ∪
                {k | ∃ a, Reached holds as a ∧ k ∈ effect a} := by
            ext k
            simp [reached_cons, hHolds, or_and_right, exists_or]
          rw [hSplit]
          exact hBoth _ _ _ _ _ hDid hDidRest
      · refine ⟨s₁, ?_, ?_⟩
        · simp [all, hFirst, hHolds]
        · have hOnly :
              {k | ∃ a, Reached holds (b :: as) a ∧
                k ∈ effect a} = effect b := by
            ext k
            simp [reached_cons, hHolds]
          rw [hOnly]
          exact hDid

/- Going through the whole list does every effect. -/
theorem every_eq
    (hNone : ∀ s, Did ∅ s s)
    (hBoth : ∀ x y s s' s'',
      Did x s s' → Did y s' s'' → Did (x ∪ y) s s'')
    {as : List A}
    (hVisit : ∀ a ∈ as, ∀ s,
      ∃ s', visit a s = some (decide (holds a), s') ∧
        Did (effect a) s s')
    (s : S) :
    ∃ s', every visit as s =
        some (decide (∀ a ∈ as, holds a), s') ∧
      Did {k | ∃ a ∈ as, k ∈ effect a} s s' := by
  induction as generalizing s with
  | nil =>
      refine ⟨s, by simp [every], ?_⟩
      have hEmpty :
          {k | ∃ a ∈ ([] : List A), k ∈ effect a} = ∅ := by
        simp
      rw [hEmpty]
      exact hNone s
  | cons b as ih =>
      rcases hVisit b List.mem_cons_self s with
        ⟨s₁, hFirst, hDid⟩
      rcases ih
          (fun a hMem => hVisit a (List.mem_cons_of_mem _ hMem))
          s₁ with ⟨s₂, hRest, hDidRest⟩
      refine ⟨s₂, ?_, ?_⟩
      · simp [every, hFirst, hRest]
      · have hSplit :
            {k | ∃ a ∈ b :: as, k ∈ effect a} =
            effect b ∪ {k | ∃ a ∈ as, k ∈ effect a} := by
          ext k
          simp
        rw [hSplit]
        exact hBoth _ _ _ _ _ hDid hDidRest

end ShortCircuit
