import Mathlib.Order.Lattice
import Mathlib.Data.List.Nodup

/-
  Reading a table page by page, in the order of a unique key:
  each page holds the first rows past the last key of the
  page before it.

  Main declarations:
    * `Keyset.inOrder`
    * `Keyset.rest`
    * `Keyset.page`
    * `Keyset.rest_last`
-/

--------
-- Rows in Order
--------

namespace Keyset

variable {R K : Type}
variable [LinearOrder K]
variable (key : R → K)

/- `ORDER BY key`. -/
def inOrder (rows : List R) : List R :=
  rows.mergeSort (fun r s => decide (key r ≤ key s))

theorem inOrder_perm
    (rows : List R) :
    (inOrder key rows).Perm rows :=
  List.mergeSort_perm _ _

/- Rows of distinct keys have one place each. -/
theorem inOrder_sorted
    {rows : List R}
    (hKeys : (rows.map key).Nodup) :
    (inOrder key rows).Pairwise
      (fun r s => key r < key s) := by
  have hSorted : (inOrder key rows).Pairwise
      (fun r s => decide (key r ≤ key s) = true) := by
    refine List.pairwise_mergeSort ?_ ?_ rows
    · intro r s t hFirst hSecond
      rw [decide_eq_true_eq] at hFirst hSecond ⊢
      exact le_trans hFirst hSecond
    · intro r s
      rw [Bool.or_eq_true, decide_eq_true_eq,
        decide_eq_true_eq]
      exact le_total _ _
  have hDistinct : ((inOrder key rows).map key).Nodup :=
    ((inOrder_perm key rows).map key).nodup_iff.mpr hKeys
  refine (hSorted.and (List.pairwise_map.mp hDistinct)).imp ?_
  intro r s hBoth
  exact lt_of_le_of_ne (of_decide_eq_true hBoth.1) hBoth.2

/- A strict order leaves one list of the same rows. -/
theorem eq_of_sorted
    {rows rows' : List R}
    (hSorted : rows.Pairwise (fun r s => key r < key s))
    (hSorted' : rows'.Pairwise (fun r s => key r < key s))
    (hPerm : rows.Perm rows') :
    rows = rows' := by
  refine hPerm.eq_of_pairwise ?_ hSorted hSorted'
  intro r s _ _ hLess hMore
  exact absurd hMore (lt_asymm hLess)

--------
-- Pages
--------

variable {R K : Type}
variable [LinearOrder K]
variable (key : R → K)

/- `WHERE key > after`, once there is a page to follow. -/
def past (after : Option K) (r : R) : Bool :=
  match after with
  | none => true
  | some last => decide (last < key r)

theorem past_none :
    past key none = fun _ => true := rfl

theorem past_some (last : K) :
    past key (some last) = fun r => decide (last < key r) :=
  rfl

/- The rows that are left, in order. -/
def rest (rows : List R) (after : Option K) : List R :=
  inOrder key (rows.filter (past key after))

/- `LIMIT size`. -/
def page
    (rows : List R)
    (after : Option K)
    (size : Nat) : List R :=
  (rest key rows after).take size

@[simp] theorem rest_none
    (rows : List R) :
    rest key rows none = inOrder key rows := by
  unfold rest
  rw [past_none, List.filter_true]

theorem rest_sorted
    {rows : List R}
    (hKeys : (rows.map key).Nodup)
    (after : Option K) :
    (rest key rows after).Pairwise
      (fun r s => key r < key s) := by
  refine inOrder_sorted key ?_
  exact hKeys.sublist (List.filter_sublist.map key)

theorem mem_rest
    {rows : List R}
    {after : Option K}
    {r : R} :
    r ∈ rest key rows after ↔
      r ∈ rows ∧ past key after r = true := by
  rw [rest, (inOrder_perm key _).mem_iff, List.mem_filter]

/- What lies past a row of a sorted list comes after it. -/
theorem filter_past_of_sorted
    {before behind : List R}
    {last : R}
    (hSorted : (before ++ last :: behind).Pairwise
      (fun r s => key r < key s)) :
    (before ++ last :: behind).filter
        (past key (some (key last))) = behind := by
  rw [List.pairwise_append] at hSorted
  rcases hSorted with ⟨_, hLast, hCross⟩
  rw [List.pairwise_cons] at hLast
  have hBefore :
      before.filter (past key (some (key last))) = [] := by
    rw [List.filter_eq_nil_iff]
    intro r hMem
    have hLess := hCross r hMem last List.mem_cons_self
    simp only [past, decide_eq_true_eq]
    exact lt_asymm hLess
  have hBehind :
      behind.filter (past key (some (key last))) = behind := by
    rw [List.filter_eq_self]
    intro r hMem
    simp only [past, decide_eq_true_eq]
    exact hLast.1 r hMem
  rw [List.filter_append, List.filter_cons, hBefore, hBehind]
  simp [past]

/-
  Past the last row of a page there are the rows the page
  left out, in the same order: none is lost at the boundary
  and none comes twice.
-/
theorem rest_last
    {rows : List R}
    (hKeys : (rows.map key).Nodup)
    {after : Option K}
    {size : Nat}
    {last : R}
    (hLast : (page key rows after size).getLast? =
      some last) :
    rest key rows (some (key last)) =
      (rest key rows after).drop size := by
  have hSorted := rest_sorted key hKeys after
  rcases List.getLast?_eq_some_iff.mp hLast with
    ⟨before, hPage⟩
  have hSplit : rest key rows after =
      before ++ last :: (rest key rows after).drop size := by
    have hWhole :=
      List.take_append_drop size (rest key rows after)
    rw [← page, hPage, List.append_assoc] at hWhole
    exact hWhole.symm
  have hPast : past key after last = true := by
    have hMem : last ∈ rest key rows after := by
      rw [hSplit]
      exact List.mem_append_right _ List.mem_cons_self
    exact ((mem_rest key).mp hMem).2
  have hFilter :
      (rest key rows after).filter
          (past key (some (key last))) =
        (rest key rows after).drop size := by
    rw [hSplit] at hSorted
    have hBehind := filter_past_of_sorted key hSorted
    rwa [← hSplit] at hBehind
  refine eq_of_sorted key (rest_sorted key hKeys _)
    (hSorted.sublist (List.drop_sublist _ _)) ?_
  -- a row past the last one was already past the page's start
  have hNarrow :
      rows.filter (past key (some (key last))) =
        (rows.filter (past key after)).filter
          (past key (some (key last))) := by
    rw [List.filter_filter]
    refine List.filter_congr ?_
    intro r _
    cases after with
    | none => simp [past]
    | some first =>
        simp only [past, decide_eq_true_eq] at hPast
        simp only [past]
        by_cases hLess : key last < key r
        · simp [hLess, lt_trans hPast hLess]
        · simp [hLess]
  rw [← hFilter]
  refine (inOrder_perm key _).trans ?_
  rw [hNarrow]
  exact ((inOrder_perm key _).symm.filter _)

end Keyset
