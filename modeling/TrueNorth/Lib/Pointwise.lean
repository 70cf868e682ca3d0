import Mathlib.Data.List.Forall2

/-
  Lists whose members are rewritten in place: what holds of
  the members, of pairs of them and at a position carries
  over along a pointwise relation.

  Main declarations:
    * `Pointwise.mem_right`
    * `Pointwise.pairwise`
    * `Pointwise.getElem?_right`
    * `Pointwise.of_map`
-/

--------
-- Pointwise Rewriting
--------

namespace Pointwise

variable {A B : Type}
variable {R : A → B → Prop}
variable {as : List A}
variable {bs : List B}

/- Every member after the rewriting has one before it. -/
theorem mem_right
    (hRewrites : List.Forall₂ R as bs)
    {b : B}
    (hMem : b ∈ bs) :
    ∃ a ∈ as, R a b := by
  induction hRewrites with
  | nil => cases hMem
  | cons hHead _ ih =>
      rcases List.mem_cons.mp hMem with rfl | hTail
      · exact ⟨_, List.mem_cons_self, hHead⟩
      · rcases ih hTail with ⟨a, hA, hR⟩
        exact ⟨a, List.mem_cons_of_mem _ hA, hR⟩

/- A relation between members that the rewriting respects. -/
theorem pairwise
    {S : A → A → Prop}
    {T : B → B → Prop}
    (hRespects : ∀ a a' b b',
      R a b → R a' b' → S a a' → T b b')
    (hRewrites : List.Forall₂ R as bs)
    (hPairwise : as.Pairwise S) :
    bs.Pairwise T := by
  induction hRewrites with
  | nil => exact .nil
  | cons hHead hTail ih =>
      rcases List.pairwise_cons.mp hPairwise with
        ⟨hFirst, hRest⟩
      refine List.pairwise_cons.mpr ⟨?_, ih hRest⟩
      intro b' hMem
      rcases mem_right hTail hMem with ⟨a', hA', hR⟩
      exact hRespects _ _ _ _ hHead hR (hFirst a' hA')

/- The rewriting keeps positions. -/
theorem getElem?_right
    (hRewrites : List.Forall₂ R as bs)
    {i : Nat}
    {a : A}
    (hGet : as[i]? = some a) :
    ∃ b, bs[i]? = some b ∧ R a b := by
  induction hRewrites generalizing i with
  | nil => cases hGet
  | cons hHead _ ih =>
      cases i with
      | zero =>
          cases hGet
          exact ⟨_, rfl, hHead⟩
      | succ i => exact ih hGet

/- Rewriting each member by a function. -/
theorem of_map
    {f : A → B}
    (hR : ∀ a ∈ as, R a (f a)) :
    List.Forall₂ R as (as.map f) := by
  induction as with
  | nil => exact .nil
  | cons a as ih =>
      refine .cons (hR a List.mem_cons_self) (ih ?_)
      intro a' hMem
      exact hR a' (List.mem_cons_of_mem _ hMem)

/- Two rewritings in a row. -/
theorem trans
    {C : Type}
    {S : B → C → Prop}
    {T : A → C → Prop}
    {cs : List C}
    (hTrans : ∀ a b c, R a b → S b c → T a c)
    (hFirst : List.Forall₂ R as bs)
    (hSecond : List.Forall₂ S bs cs) :
    List.Forall₂ T as cs := by
  induction hFirst generalizing cs with
  | nil =>
      cases hSecond
      exact .nil
  | cons hHead _ ih =>
      cases hSecond with
      | cons hHead' hTail' =>
          exact .cons (hTrans _ _ _ hHead hHead') (ih hTail')

end Pointwise
