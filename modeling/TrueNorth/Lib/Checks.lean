import Mathlib.Data.List.Basic

/-
  Sequences of checks, the first of which that fails gives
  the error: what a check that passed went through.

  Main declarations:
    * `Checks.refuseIf`, `Checks.only`
    * `Checks.each`
    * `Checks.bind_eq_ok`, `Checks.bind_eq_error`
    * `Checks.mapM_eq_ok`
    * `Checks.Never`
-/

--------
-- Checks
--------

namespace Checks

variable {E A B : Type}

/- The check that refuses what is bad. -/
def refuseIf
    (bad : Bool)
    (e : E) : Except E Unit :=
  if bad then .error e else .ok ()

/- The check made only where it applies. -/
def only
    (applies : Bool)
    (check : Except E Unit) : Except E Unit :=
  if applies then check else .ok ()

/- The check of every member, in order. -/
def each
    (check : A → Except E Unit) :
    List A → Except E Unit
| [] => .ok ()
| a :: as => do
    check a
    each check as

@[simp] theorem refuseIf_eq_ok
    {bad : Bool}
    {e : E}
    {u : Unit} :
    refuseIf bad e = .ok u ↔ bad = false := by
  cases bad <;> simp [refuseIf]

theorem only_eq_ok
    {applies : Bool}
    {check : Except E Unit}
    {u : Unit} :
    only applies check = .ok u ↔
      (applies = true → check = .ok ()) := by
  cases applies <;> simp [only]

/- Both checks in a row passed. -/
theorem bind_eq_ok
    {x : Except E A}
    {f : A → Except E B}
    {b : B} :
    (x >>= f) = .ok b ↔ ∃ a, x = .ok a ∧ f a = .ok b := by
  cases x with
  | error e =>
      constructor
      · intro h
        cases h
      · rintro ⟨a, h, _⟩
        cases h
  | ok a =>
      constructor
      · intro h
        exact ⟨a, rfl, h⟩
      · rintro ⟨a', h, hf⟩
        cases h
        exact hf

theorem each_eq_ok
    {check : A → Except E Unit}
    {as : List A}
    {u : Unit} :
    each check as = .ok u ↔
      ∀ a ∈ as, check a = .ok () := by
  induction as with
  | nil => simp [each]
  | cons a as ih =>
      rw [each, bind_eq_ok]
      constructor
      · rintro ⟨_, hFirst, hRest⟩
        intro a' hMem
        rcases List.mem_cons.mp hMem with rfl | hMem
        · exact hFirst
        · exact ih.mp hRest a' hMem
      · intro hAll
        refine ⟨(), hAll a List.mem_cons_self, ih.mpr ?_⟩
        intro a' hMem
        exact hAll a' (List.mem_cons_of_mem _ hMem)

end Checks

namespace Checks

variable {E A B : Type}

/- A result for every member, in order. -/
theorem mapM_eq_ok
    {f : A → Except E B}
    {as : List A}
    {bs : List B}
    (hAll : as.mapM f = .ok bs) :
    (∀ a ∈ as, ∃ b ∈ bs, f a = .ok b) ∧
      (∀ b ∈ bs, ∃ a ∈ as, f a = .ok b) := by
  induction as generalizing bs with
  | nil =>
      cases hAll
      refine ⟨?_, ?_⟩
      · intro a hMem
        cases hMem
      · intro b hMem
        cases hMem
  | cons a as ih =>
      rw [List.mapM_cons] at hAll
      rcases bind_eq_ok.mp hAll with ⟨b, hFirst, hRest⟩
      rcases bind_eq_ok.mp hRest with ⟨bs', hOthers, hEq⟩
      cases hEq
      rcases ih hOthers with ⟨hEach, hFrom⟩
      refine ⟨?_, ?_⟩
      · intro a' hMem
        rcases List.mem_cons.mp hMem with rfl | hMem
        · exact ⟨b, List.mem_cons_self, hFirst⟩
        · rcases hEach a' hMem with ⟨b', hIn, hOk⟩
          exact ⟨b', List.mem_cons_of_mem _ hIn, hOk⟩
      · intro b' hMem
        rcases List.mem_cons.mp hMem with rfl | hMem
        · exact ⟨a, List.mem_cons_self, hFirst⟩
        · rcases hFrom b' hMem with ⟨a', hIn, hOk⟩
          exact ⟨a', List.mem_cons_of_mem _ hIn, hOk⟩

/- Where every member has a result, so has the list. -/
theorem mapM_of_ok
    {f : A → Except E B}
    {g : A → B}
    {as : List A}
    (hEach : ∀ a ∈ as, f a = .ok (g a)) :
    as.mapM f = .ok (as.map g) := by
  induction as with
  | nil => rfl
  | cons a as ih =>
      rw [List.mapM_cons]
      refine bind_eq_ok.mpr
        ⟨g a, hEach a List.mem_cons_self, ?_⟩
      refine bind_eq_ok.mpr ⟨as.map g, ?_, rfl⟩
      exact ih (fun a' hMem =>
        hEach a' (List.mem_cons_of_mem _ hMem))

/- A check that passed, read off its result. -/
theorem eq_ok_of_toOption
    {x : Except E A}
    {a : A}
    (hSome : x.toOption = some a) :
    x = .ok a := by
  cases x with
  | error e => cases hSome
  | ok a' =>
      cases hSome
      rfl

--------
-- Errors That Are Never Raised
--------

variable {E A B : Type}

/- Either check in a row raised. -/
theorem bind_eq_error
    {x : Except E A}
    {f : A → Except E B}
    {e : E} :
    (x >>= f) = .error e ↔
      x = .error e ∨ ∃ a, x = .ok a ∧ f a = .error e := by
  cases x with
  | error e' =>
      constructor
      · intro h
        exact .inl (by cases h; rfl)
      · rintro (h | ⟨a, h, _⟩)
        · cases h
          rfl
        · cases h
  | ok a =>
      constructor
      · intro h
        exact .inr ⟨a, rfl, h⟩
      · rintro (h | ⟨a', h, hf⟩)
        · cases h
        · cases h
          exact hf

/- The first member that raised, after those that passed. -/
theorem each_eq_error
    {check : A → Except E Unit}
    {as : List A}
    {e : E} :
    each check as = .error e ↔
      ∃ before a after, as = before ++ a :: after ∧
        (∀ b ∈ before, check b = .ok ()) ∧
        check a = .error e := by
  induction as with
  | nil =>
      constructor
      · intro h
        cases h
      · rintro ⟨before, a, after, hSplit, _⟩
        cases before <;> cases hSplit
  | cons a as ih =>
      rw [each, bind_eq_error, ih]
      constructor
      · rintro (hFirst | ⟨_, hOk, before, b, after, rfl, hRest⟩)
        · exact ⟨[], a, as, rfl, List.forall_mem_nil _, hFirst⟩
        · refine ⟨a :: before, b, after, rfl, ?_, hRest.2⟩
          intro b' hMem
          rcases List.mem_cons.mp hMem with rfl | hMem
          · exact hOk
          · exact hRest.1 b' hMem
      · rintro ⟨before, b, after, hSplit, hBefore, hError⟩
        rcases before with _ | ⟨a', before⟩
        · cases hSplit
          exact .inl hError
        · cases hSplit
          exact .inr ⟨(), hBefore a List.mem_cons_self, before,
            b, after, rfl,
            fun b' hMem =>
              hBefore b' (List.mem_cons_of_mem _ hMem),
            hError⟩

theorem refuseIf_eq_error
    {bad : Bool}
    {e e' : E} :
    refuseIf bad e' = .error e ↔ bad = true ∧ e' = e := by
  cases bad <;> simp [refuseIf]

theorem only_eq_error
    {applies : Bool}
    {check : Except E Unit}
    {e : E} :
    only applies check = .error e ↔
      applies = true ∧ check = .error e := by
  cases applies <;> simp [only]

/- The check does not raise this error. -/
def Never
    (e : E)
    (x : Except E A) : Prop :=
  x ≠ .error e

variable {e e' : E}

theorem Never.ok
    (a : A) :
    Never e (.ok a : Except E A) := by
  intro h
  cases h

theorem Never.error
    (hOther : e' ≠ e) :
    Never e (.error e' : Except E A) := by
  intro h
  cases h
  exact hOther rfl

theorem Never.refuseIf
    {bad : Bool}
    (hOther : e' ≠ e) :
    Never e (Checks.refuseIf bad e') := by
  intro h
  exact hOther (refuseIf_eq_error.mp h).2

theorem Never.bind
    {x : Except E A}
    {f : A → Except E B}
    (hFirst : Never e x)
    (hThen : ∀ a, x = .ok a → Never e (f a)) :
    Never e (x >>= f) := by
  intro h
  rcases bind_eq_error.mp h with h | ⟨a, hOk, h⟩
  · exact hFirst h
  · exact hThen a hOk h

theorem Never.only
    {applies : Bool}
    {check : Except E Unit}
    (hCheck : applies = true → Never e check) :
    Never e (Checks.only applies check) := by
  cases applies with
  | false => exact Never.ok ()
  | true => exact hCheck rfl

theorem Never.each
    {check : A → Except E Unit}
    {as : List A}
    (hEach : ∀ a ∈ as, Never e (check a)) :
    Never e (Checks.each check as) := by
  induction as with
  | nil => exact Never.ok ()
  | cons a as ih =>
      refine Never.bind (hEach a List.mem_cons_self) ?_
      intro _ _
      exact ih (fun a' hMem =>
        hEach a' (List.mem_cons_of_mem _ hMem))

end Checks
