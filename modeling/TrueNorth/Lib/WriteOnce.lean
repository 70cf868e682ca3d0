import TrueNorth.Lib.Dict

/-
  Write-once stores: a name is given its content once, and
  giving it the same content again does nothing.  What is
  stored stays stored, so whatever was read off a store can
  be read off every later one.

  Main declarations:
    * `WriteOnce.put`
    * `WriteOnce.Grows`
    * `WriteOnce.put_grows`
-/

--------
-- Stores
--------

namespace WriteOnce

variable {N B : Type}
variable [DecidableEq N] [DecidableEq B]

/- None when the name has other content. -/
def put
    (store : Dict N B)
    (n : N)
    (b : B) : Option (Dict N B) :=
  match store.get? n with
  | none => some (store.set n b)
  | some old => if old = b then some store else none

omit [DecidableEq B] in
/- Everything stored is stored later, as it was. -/
def Grows (store store' : Dict N B) : Prop :=
  ∀ n b, store.get? n = some b → store'.get? n = some b

omit [DecidableEq B] in
theorem Grows.refl (store : Dict N B) : Grows store store :=
  fun _ _ hGet => hGet

omit [DecidableEq B] in
theorem Grows.trans
    {s₁ s₂ s₃ : Dict N B}
    (hFirst : Grows s₁ s₂)
    (hSecond : Grows s₂ s₃) :
    Grows s₁ s₃ :=
  fun n b hGet => hSecond n b (hFirst n b hGet)

omit [DecidableEq B] in
theorem grows_set
    {store : Dict N B}
    {n : N}
    (b : B)
    (hAbsent : store.get? n = none) :
    Grows store (store.set n b) := by
  intro n' b' hGet
  rw [Dict.get?_set]
  by_cases hn : n' = n
  · rw [hn, hAbsent] at hGet
    cases hGet
  · rw [if_neg hn]
    exact hGet

theorem put_grows
    {store store' : Dict N B}
    {n : N}
    {b : B}
    (hPut : put store n b = some store') :
    Grows store store' := by
  unfold put at hPut
  cases hGet : store.get? n with
  | none =>
      rw [hGet] at hPut
      cases hPut
      exact grows_set b hGet
  | some old =>
      rw [hGet] at hPut
      by_cases hSame : old = b
      · simp only [if_pos hSame] at hPut
        cases hPut
        exact .refl store
      · simp only [if_neg hSame] at hPut
        cases hPut

/- What is there after a put. -/
theorem put_get?
    {store store' : Dict N B}
    {n : N}
    {b : B}
    (hPut : put store n b = some store')
    (n' : N) :
    store'.get? n' =
      if n' = n then some b else store.get? n' := by
  unfold put at hPut
  cases hGet : store.get? n with
  | none =>
      rw [hGet] at hPut
      cases hPut
      exact Dict.get?_set store n n' b
  | some old =>
      rw [hGet] at hPut
      by_cases hSame : old = b
      · simp only [if_pos hSame] at hPut
        cases hPut
        by_cases hn : n' = n
        · rw [if_pos hn, hn, hGet, hSame]
        · rw [if_neg hn]
      · simp only [if_neg hSame] at hPut
        cases hPut

/- A name that is free, or has the content already. -/
theorem put_isSome
    {store : Dict N B}
    {n : N}
    {b : B}
    (hFree : ∀ old, store.get? n = some old → old = b) :
    ∃ store', put store n b = some store' := by
  unfold put
  cases hGet : store.get? n with
  | none => exact ⟨_, rfl⟩
  | some old =>
      refine ⟨store, ?_⟩
      dsimp only
      rw [if_pos (hFree old hGet)]

end WriteOnce
