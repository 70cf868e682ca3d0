import Mathlib.Data.List.Pairwise

/-
  Tables under unique constraints.

  A constraint says which two rows clash.  A table carries
  the proof that no two of its rows do, so an insert either
  keeps the constraint or is refused.

  Main declarations:
    * `Table`
    * `Table.delete`
    * `Table.update`
    * `Table.insert?`
    * `Table.eq_of_clash`
-/

--------
-- Tables
--------

@[ext] structure Table (R : Type) (clash : R → R → Prop) where
  rows : List R
  exclusive : rows.Pairwise (fun r r' => ¬ clash r r')

namespace Table

variable {R : Type}
variable {clash : R → R → Prop}

def empty : Table R clash where
  rows := []
  exclusive := .nil

/- Two rows that clash are one row. -/
theorem eq_of_clash
    [Std.Symm clash]
    (t : Table R clash)
    {r r' : R}
    (hr : r ∈ t.rows)
    (hr' : r' ∈ t.rows)
    (hClash : clash r r') :
    r = r' := by
  have hSymm : Std.Symm (fun r r' => ¬ clash r r') :=
    ⟨fun _ _ hFree hBack => hFree (Std.Symm.symm _ _ hBack)⟩
  by_contra hne
  exact t.exclusive.forall hr hr' hne hClash

/- The rows that satisfy `p` go. -/
def delete
    (t : Table R clash)
    (p : R → Bool) : Table R clash where
  rows := t.rows.filter (fun r => !p r)
  exclusive := t.exclusive.sublist List.filter_sublist

@[simp] theorem mem_delete
    {t : Table R clash}
    {p : R → Bool}
    {r : R} :
    r ∈ (t.delete p).rows ↔ r ∈ t.rows ∧ p r = false := by
  simp [delete]

/- Every row is rewritten, its constrained parts kept. -/
def update
    (t : Table R clash)
    (f : R → R)
    (hf : ∀ r r', clash (f r) (f r') → clash r r') :
    Table R clash where
  rows := t.rows.map f
  exclusive := by
    rw [List.pairwise_map]
    refine t.exclusive.imp ?_
    intro r r' hFree hClash
    exact hFree (hf r r' hClash)

@[simp] theorem mem_update
    {t : Table R clash}
    {f : R → R}
    {hf : ∀ r r', clash (f r) (f r') → clash r r'}
    {r' : R} :
    r' ∈ (t.update f hf).rows ↔ ∃ r ∈ t.rows, f r = r' := by
  simp [update]

--------
-- Inserting
--------

variable {R : Type}
variable {clash : R → R → Prop}
variable [DecidableRel clash]

/- The rows are added, or the constraint refuses them. -/
def insert?
    (t : Table R clash)
    (new : List R) : Option (Table R clash) :=
  if h : (t.rows ++ new).Pairwise (fun r r' => ¬ clash r r')
  then some { rows := t.rows ++ new, exclusive := h }
  else none

theorem rows_insert?
    {t t' : Table R clash}
    {new : List R}
    (hInsert : t.insert? new = some t') :
    t'.rows = t.rows ++ new := by
  unfold insert? at hInsert
  split at hInsert
  · rw [← Option.some.inj hInsert]
  · cases hInsert

end Table
