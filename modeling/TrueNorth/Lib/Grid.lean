import Mathlib.Algebra.Order.Ring.Int
import Mathlib.Tactic.Linarith

/-
  The points of a grid of whole numbers, a step apart: the
  first one at or after a number, those from one point up to
  a bound, and the least of them with a property.

  Key definitions include:
    * `Grid.On`
    * `Grid.ceil`
    * `Grid.upTo`

  Main theorems:
    * `Grid.ceil_least`
    * `Grid.mem_upTo`
    * `Grid.find?_least`
-/

--------
-- Rounding Up
--------

namespace Grid

/- The points a whole number of steps from the origin. -/
def On (origin step t : Int) : Prop :=
  step ∣ t - origin

/- Ceiling division, by the floor of the negated number. -/
def ceil (origin step t : Int) : Int :=
  origin + -((origin - t) / step) * step

variable {origin step t t' : Int}

theorem ceil_on :
    On origin step (ceil origin step t) := by
  refine ⟨-((origin - t) / step), ?_⟩
  rw [ceil, add_sub_cancel_left, mul_comm]

theorem le_ceil
    (hStep : 0 < step) :
    t ≤ ceil origin step t := by
  have hDiv := Int.ediv_mul_le (origin - t) hStep.ne'
  rw [ceil, neg_mul]
  linarith

/- No point is between a number and the one it is rounded to. -/
theorem ceil_least
    (hStep : 0 < step)
    (hOn : On origin step t')
    (hLe : t ≤ t') :
    ceil origin step t ≤ t' := by
  rcases hOn with ⟨n, hn⟩
  have hPoint : t' = origin + n * step := by
    rw [mul_comm, ← hn]
    exact (add_sub_cancel origin t').symm
  have hFloor : -n ≤ (origin - t) / step := by
    rw [Int.le_ediv_iff_mul_le hStep, neg_mul]
    linarith
  have hTimes :=
    mul_le_mul_of_nonneg_right (neg_le.mp hFloor) hStep.le
  rw [ceil, hPoint]
  linarith

/- Points are whole steps apart. -/
theorem on_of_on
    (hOn : On origin step t)
    (hOn' : On origin step t') :
    step ∣ t' - t := by
  have hSub := Int.dvd_sub hOn' hOn
  rwa [sub_sub_sub_cancel_right] at hSub

theorem on_add
    (hOn : On origin step t)
    (i : Int) :
    On origin step (t + i * step) := by
  unfold On at hOn ⊢
  rw [add_sub_right_comm]
  exact Int.dvd_add hOn (Dvd.intro_left i rfl)

--------
-- Points in a Row
--------

/- `while t <= stop`, a step at a time. -/
def upTo (first stop step : Int) : List Int :=
  (List.range ((stop - first) / step + 1).toNat).map
    (fun (i : Nat) => first + i * step)

variable {origin step first stop t : Int}

theorem mem_upTo
    (hStep : 0 < step)
    (hOn : On origin step first) :
    t ∈ upTo first stop step ↔
      On origin step t ∧ first ≤ t ∧ t ≤ stop := by
  unfold upTo
  rw [List.mem_map]
  constructor
  · rintro ⟨i, hi, rfl⟩
    rw [List.mem_range] at hi
    have hIndex : (i : Int) ≤ (stop - first) / step := by
      omega
    have hTimes :=
      (Int.le_ediv_iff_mul_le hStep).mp hIndex
    refine ⟨on_add hOn i, ?_, ?_⟩
    · exact le_add_of_nonneg_right
        (mul_nonneg (Int.natCast_nonneg i) hStep.le)
    · linarith
  · rintro ⟨hPoint, hFrom, hTo⟩
    rcases on_of_on hOn hPoint with ⟨n, hn⟩
    have hNonneg : 0 ≤ n := by
      by_contra hNeg
      have hTimes :=
        mul_neg_of_pos_of_neg hStep (not_le.mp hNeg)
      linarith
    have hIndex : n ≤ (stop - first) / step := by
      rw [Int.le_ediv_iff_mul_le hStep, mul_comm, ← hn]
      linarith
    refine ⟨n.toNat, ?_, ?_⟩
    · rw [List.mem_range]
      omega
    · rw [Int.toNat_of_nonneg hNonneg, mul_comm, ← hn]
      exact add_sub_cancel first t

theorem pairwise_upTo
    (hStep : 0 < step) :
    (upTo first stop step).Pairwise (· < ·) := by
  unfold upTo
  rw [List.pairwise_map]
  apply List.pairwise_lt_range.imp
  intro i j hLt
  have hTimes :=
    mul_lt_mul_of_pos_right (Int.ofNat_lt.mpr hLt) hStep
  exact add_lt_add_of_le_of_lt le_rfl hTimes

/- The first one found in a rising list is the least. -/
theorem find?_least
    {p : Int → Bool}
    {ts : List Int}
    (hRising : ts.Pairwise (· < ·))
    (hFind : ts.find? p = some t) :
    ∀ t' ∈ ts, p t' = true → t ≤ t' := by
  induction ts with
  | nil => cases hFind
  | cons x xs ih =>
      rcases List.pairwise_cons.mp hRising with ⟨hFirst, hRest⟩
      rw [List.find?_cons] at hFind
      cases hx : p x with
      | true =>
          rw [hx] at hFind
          cases hFind
          intro t' hMem _
          rcases List.mem_cons.mp hMem with rfl | hTail
          · exact le_rfl
          · exact (hFirst t' hTail).le
      | false =>
          rw [hx] at hFind
          intro t' hMem ht'
          rcases List.mem_cons.mp hMem with rfl | hTail
          · rw [hx] at ht'
            cases ht'
          · exact ih hRest hFind t' hTail ht'

end Grid
