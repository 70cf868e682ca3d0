import Mathlib.Logic.Relation

/-
  A relation from which one point is taken out: what led
  through the point leads past it.  The transitive relation
  of the other points stays as it was.

  Main declarations:
    * `Bypass.Past`
    * `Bypass.transGen_past`
    * `Bypass.transGen_past_comm`
    * `Bypass.past_eq_of_unnamed`
-/

--------
-- Past One Point
--------

namespace Bypass

open Relation

variable {α : Type}
variable {r : α → α → Prop}
variable {a b c d : α}

/- Directly, or by way of the point that is taken out. -/
def Past
    (r : α → α → Prop)
    (c a b : α) : Prop :=
  a ≠ c ∧ b ≠ c ∧ (r a b ∨ r a c ∧ r c b)

theorem Past.transGen
    (hPast : Past r c a b) : TransGen r a b := by
  rcases hPast.2.2 with hDirect | ⟨hTo, hFrom⟩
  · exact .single hDirect
  · exact (TransGen.single hTo).tail hFrom

/-
  A way that ends at another point stays a way, and one that
  ends at the point itself can be led past it.
-/
theorem past_of_transGen
    (hWay : TransGen r a b)
    (hStart : a ≠ c) :
    (b ≠ c → TransGen (Past r c) a b) ∧
      (b = c → ∀ b', b' ≠ c → r c b' →
        TransGen (Past r c) a b') := by
  induction hWay with
  | single hEdge =>
      constructor
      · intro hEnd
        exact .single ⟨hStart, hEnd, .inl hEdge⟩
      · rintro rfl b' hEnd hNext
        exact .single ⟨hStart, hEnd, .inr ⟨hEdge, hNext⟩⟩
  | @tail m b hWay hEdge ih =>
      by_cases hMid : m = c
      · -- the way came to the point: go on from before it
        constructor
        · intro hEnd
          exact ih.2 hMid b hEnd (hMid ▸ hEdge)
        · intro _
          exact ih.2 hMid
      · have hTo := ih.1 hMid
        constructor
        · intro hEnd
          exact hTo.tail ⟨hMid, hEnd, .inl hEdge⟩
        · rintro rfl b' hEnd hNext
          exact hTo.tail ⟨hMid, hEnd, .inr ⟨hEdge, hNext⟩⟩

/- The transitive relation of the other points is kept. -/
theorem transGen_past :
    TransGen (Past r c) a b ↔
      TransGen r a b ∧ a ≠ c ∧ b ≠ c := by
  constructor
  · intro hWay
    induction hWay with
    | single hPast =>
        exact ⟨hPast.transGen, hPast.1, hPast.2.1⟩
    | tail _ hPast ih =>
        exact ⟨ih.1.trans hPast.transGen, ih.2.1, hPast.2.1⟩
  · rintro ⟨hWay, hStart, hEnd⟩
    exact (past_of_transGen hWay hStart).1 hEnd

/- Two points may be taken out in either order. -/
theorem transGen_past_comm :
    TransGen (Past (Past r c) d) a b ↔
      TransGen (Past (Past r d) c) a b := by
  simp only [transGen_past]
  constructor
  · rintro ⟨⟨hWay, hC⟩, hD⟩
    exact ⟨⟨hWay, hD⟩, hC⟩
  · rintro ⟨⟨hWay, hD⟩, hC⟩
    exact ⟨⟨hWay, hC⟩, hD⟩

/- Where the point is not named there is nothing to lead past. -/
theorem past_eq_of_unnamed
    (hTo : ∀ a, ¬ r a c)
    (hFrom : ∀ b, ¬ r c b) :
    Past r c = r := by
  funext a b
  apply propext
  constructor
  · rintro ⟨_, _, hDirect | ⟨hEdge, _⟩⟩
    · exact hDirect
    · exact absurd hEdge (hTo a)
  · intro hDirect
    refine ⟨?_, ?_, .inl hDirect⟩
    · rintro rfl
      exact hFrom b hDirect
    · rintro rfl
      exact hTo a hDirect

end Bypass
