import TrueNorth.Lib.Dict

/-
  Offers of a value for a key, or of none: the first value
  offered for a key that is not held yet is taken.  Which
  keys are taken does not depend on the order of the offers,
  nor on how they are cut into batches, each with the keys of
  the batches before it held.

  Key definitions include:
    * `Offers.accept`, `Offers.accepted`
    * `Offers.Offered`
    * `Offers.inBatches`

  Main theorems:
    * `Offers.mem_keys_accepted`
    * `Offers.inBatches_perm`
-/

--------
-- One List Of Offers
--------

namespace Offers

variable {K V : Type}
variable [DecidableEq K]

/- The value is taken if its key is neither held nor taken. -/
def accept
    (held : List K)
    (out : Dict K V)
    (offer : K × Option V) : Dict K V :=
  if held.contains offer.1 || (out.get? offer.1).isSome then out
  else
    match offer.2 with
    | none => out
    | some v => out.set offer.1 v

def accepted
    (held : List K)
    (offers : List (K × Option V)) : Dict K V :=
  offers.foldl (accept held) Dict.empty

/- Some value is offered for the key. -/
def Offered
    (offers : List (K × Option V))
    (k : K) : Prop :=
  ∃ v, (k, some v) ∈ offers

theorem mem_keys_accept
    {held : List K}
    {out : Dict K V}
    {offer : K × Option V}
    {k : K} :
    k ∈ (accept held out offer).keys ↔
      k ∈ out.keys ∨
        (k ∉ held ∧ k = offer.1 ∧ offer.2.isSome = true) := by
  rcases offer with ⟨k', v?⟩
  unfold accept
  by_cases hHeld : k' ∈ held
  · rw [if_pos (by simp [hHeld])]
    constructor
    · exact .inl
    · rintro (hOut | ⟨hFree, rfl, -⟩)
      · exact hOut
      · exact absurd hHeld hFree
  · cases hGet : out.get? k' with
    | some old =>
        rw [if_pos (by simp)]
        constructor
        · exact .inl
        · rintro (hOut | ⟨-, rfl, -⟩)
          · exact hOut
          · exact Dict.mem_keys.mpr ⟨old, hGet⟩
    | none =>
        rw [if_neg (by simp [hHeld])]
        cases v? with
        | none => simp
        | some v =>
            simp only [Dict.mem_keys, Dict.get?_set, Option.isSome_some,
              and_true]
            by_cases hk : k = k'
            · subst hk
              simp [hHeld]
            · simp [hk]

theorem mem_keys_foldl
    {held : List K}
    {offers : List (K × Option V)}
    {out : Dict K V}
    {k : K} :
    k ∈ (offers.foldl (accept held) out).keys ↔
      k ∈ out.keys ∨ (k ∉ held ∧ Offered offers k) := by
  induction offers generalizing out with
  | nil => simp [Offered]
  | cons offer offers ih =>
      rw [List.foldl_cons, ih, mem_keys_accept]
      have hSplit : Offered (offer :: offers) k ↔
          (k = offer.1 ∧ offer.2.isSome = true) ∨
            Offered offers k := by
        rcases offer with ⟨k', v?⟩
        unfold Offered
        simp only [List.mem_cons, Prod.mk.injEq,
          Option.isSome_iff_exists]
        constructor
        · rintro ⟨v, ⟨rfl, hv⟩ | hLater⟩
          · exact .inl ⟨rfl, v, hv.symm⟩
          · exact .inr ⟨v, hLater⟩
        · rintro (⟨rfl, v, rfl⟩ | ⟨v, hLater⟩)
          · exact ⟨v, .inl ⟨rfl, rfl⟩⟩
          · exact ⟨v, .inr hLater⟩
      rw [hSplit]
      tauto

theorem mem_keys_accepted
    {held : List K}
    {offers : List (K × Option V)}
    {k : K} :
    k ∈ (accepted held offers).keys ↔
      k ∉ held ∧ Offered offers k := by
  unfold accepted
  rw [mem_keys_foldl]
  simp [Dict.empty, Dict.keys]

/- What is taken for a key was offered for it. -/
theorem get?_foldl
    {held : List K}
    {offers : List (K × Option V)}
    {out : Dict K V}
    {k : K}
    {v : V}
    (hGet : (offers.foldl (accept held) out).get? k = some v) :
    out.get? k = some v ∨ (k, some v) ∈ offers := by
  induction offers generalizing out with
  | nil => exact .inl hGet
  | cons offer offers ih =>
      rw [List.foldl_cons] at hGet
      rcases ih hGet with hOne | hLater
      · unfold accept at hOne
        split at hOne
        · exact .inl hOne
        · rcases offer with ⟨k', v?⟩
          cases v? with
          | none => exact .inl hOne
          | some v' =>
              simp only [Dict.get?_set] at hOne
              by_cases hk : k = k'
              · rw [if_pos hk] at hOne
                cases hOne
                exact .inr (hk ▸ List.mem_cons_self)
              · rw [if_neg hk] at hOne
                exact .inl hOne
      · exact .inr (List.mem_cons_of_mem offer hLater)

theorem get?_accepted
    {held : List K}
    {offers : List (K × Option V)}
    {k : K}
    {v : V}
    (hGet : (accepted held offers).get? k = some v) :
    (k, some v) ∈ offers := by
  rcases get?_foldl hGet with hNone | hMem
  · cases hNone
  · exact hMem

--------
-- Batches
--------

variable {K : Type}

/-
  What is taken of batches, one after the other, where `take`
  says what is taken of one with some keys held.
-/
def inBatches
    {B : Type}
    (take : List K → B → List K) :
    List K → List B → List K
| _, [] => []
| held, b :: bs =>
    take held b ++ inBatches take (held ++ take held b) bs

/- Every key that some batch offers is taken, and once. -/
theorem inBatches_perm
    {B : Type}
    {take : List K → B → List K}
    {offers : B → K → Prop}
    (hNodup : ∀ held b, (take held b).Nodup)
    (hTake : ∀ held b k, k ∈ take held b ↔ k ∉ held ∧ offers b k)
    (held : List K)
    (bs : List B)
    {whole : List K}
    (hWhole : whole.Nodup)
    (hAll : ∀ k, k ∈ whole ↔ k ∉ held ∧ ∃ b ∈ bs, offers b k) :
    (inBatches take held bs).Perm whole := by
  have hMem (bs : List B) (held : List K) :
      (inBatches take held bs).Nodup ∧
        ∀ k, k ∈ inBatches take held bs ↔
          k ∉ held ∧ ∃ b ∈ bs, offers b k := by
    induction bs generalizing held with
    | nil => simp [inBatches]
    | cons b bs ih =>
        rcases ih (held ++ take held b) with ⟨hRest, hMem⟩
        constructor
        · rw [inBatches, List.nodup_append]
          refine ⟨hNodup held b, hRest, ?_⟩
          rintro k hFirst k' hLater rfl
          exact ((hMem k).mp hLater).1
            (List.mem_append_right held hFirst)
        · intro k
          have hSplit : (∃ b' ∈ b :: bs, offers b' k) ↔
              offers b k ∨ ∃ b' ∈ bs, offers b' k := by
            simp
          rw [inBatches, List.mem_append, hMem, hTake,
            List.mem_append, hTake, hSplit]
          tauto
  rcases hMem bs held with ⟨hBatches, hIff⟩
  apply (List.perm_ext_iff_of_nodup hBatches hWhole).mpr
  intro k
  rw [hIff, hAll]

end Offers
