import Mathlib.Algebra.BigOperators.Group.List.Basic
import Mathlib.Algebra.Order.BigOperators.Group.List
import Mathlib.Algebra.Order.Ring.Nat
import Mathlib.Order.Lattice
import Mathlib.Data.List.Perm.Basic

/-
  Loads over time: items that each weigh something from one
  instant to another, what they weigh together at an instant
  and over a window, and the most over several windows.

  A window counts all of every item that meets it, so that
  what it counts is never less than what is there at any of
  its instants.

  Main declarations:
    * `Loads.Item`
    * `Loads.loadAt`
    * `Loads.loadOver`
    * `Loads.loadAt_le_loadOver`
    * `Loads.peak`
    * `Loads.sum_le_sum_of_keyed`
-/

--------
-- Loads
--------

namespace Loads

/- What weighs `weight` from `start` until before `stop`. -/
structure Item (T : Type) where
  start : T
  stop : T
  weight : Nat

section

variable {T : Type}
variable [LinearOrder T]

/- The item's part of the load at an instant. -/
def Item.loadAt
    (t : T)
    (item : Item T) : Nat :=
  if item.start ≤ t ∧ t < item.stop then item.weight else 0

/- The item's part of what a window counts. -/
def Item.loadOver
    (a b : T)
    (item : Item T) : Nat :=
  if item.start < b ∧ a < item.stop then item.weight else 0

def loadAt
    (t : T)
    (items : List (Item T)) : Nat :=
  (items.map (Item.loadAt t)).sum

def loadOver
    (a b : T)
    (items : List (Item T)) : Nat :=
  (items.map (Item.loadOver a b)).sum

@[simp] theorem loadAt_cons
    (t : T)
    (item : Item T)
    (items : List (Item T)) :
    loadAt t (item :: items) =
      item.loadAt t + loadAt t items := by
  simp [loadAt]

@[simp] theorem loadAt_append
    (t : T)
    (xs ys : List (Item T)) :
    loadAt t (xs ++ ys) = loadAt t xs + loadAt t ys := by
  simp [loadAt]

@[simp] theorem loadOver_append
    (a b : T)
    (xs ys : List (Item T)) :
    loadOver a b (xs ++ ys) =
      loadOver a b xs + loadOver a b ys := by
  simp [loadOver]

theorem loadAt_perm
    {t : T}
    {xs ys : List (Item T)}
    (hPerm : xs.Perm ys) :
    loadAt t xs = loadAt t ys :=
  (hPerm.map _).sum_eq

end

/- The most of several loads. -/
def peak (loads : List Nat) : Nat :=
  loads.foldr max 0

theorem le_peak
    {load : Nat}
    {loads : List Nat}
    (hMem : load ∈ loads) :
    load ≤ peak loads := by
  induction loads with
  | nil => cases hMem
  | cons first rest ih =>
      rcases List.mem_cons.mp hMem with rfl | hRest
      · exact Nat.le_max_left _ _
      · exact (ih hRest).trans (Nat.le_max_right _ _)

theorem peak_le
    {bound : Nat}
    {loads : List Nat}
    (hLe : ∀ load ∈ loads, load ≤ bound) :
    peak loads ≤ bound := by
  induction loads with
  | nil => exact Nat.zero_le _
  | cons first rest ih =>
      refine max_le (hLe first List.mem_cons_self) (ih ?_)
      intro load hMem
      exact hLe load (List.mem_cons_of_mem _ hMem)

--------
-- Weights by Key
--------

variable {A K : Type}

/-
  Keys that each weigh no more than some entry of their own
  weigh no more together than all the entries.
-/
theorem sum_le_sum_of_keyed
    {key : A → Option K}
    {weight : A → Nat}
    {ks : List K}
    {owed : K → Nat}
    (hNodup : ks.Nodup)
    {entries : List A}
    (hEach : ∀ k ∈ ks,
      owed k = 0 ∨
        ∃ x ∈ entries, key x = some k ∧ owed k ≤ weight x) :
    (ks.map owed).sum ≤ (entries.map weight).sum := by
  induction ks generalizing entries with
  | nil => exact Nat.zero_le _
  | cons k ks ih =>
      rw [List.nodup_cons] at hNodup
      rcases hNodup with ⟨hFirst, hRest⟩
      have hOthers : ∀ k' ∈ ks,
          owed k' = 0 ∨
            ∃ x ∈ entries, key x = some k' ∧
              owed k' ≤ weight x := by
        intro k' hMem
        exact hEach k' (List.mem_cons_of_mem _ hMem)
      rw [List.map_cons, List.sum_cons]
      rcases hEach k List.mem_cons_self with
        hNone | ⟨x, hx, hKey, hOwed⟩
      · rw [hNone, Nat.zero_add]
        exact ih hRest hOthers
      · rcases List.append_of_mem hx with ⟨before, after, rfl⟩
        have hLeft : ∀ k' ∈ ks,
            owed k' = 0 ∨
              ∃ y ∈ before ++ after, key y = some k' ∧
                owed k' ≤ weight y := by
          intro k' hMem
          rcases hOthers k' hMem with
            hNone | ⟨y, hy, hKey', hOwed'⟩
          · exact .inl hNone
          · refine .inr ⟨y, ?_, hKey', hOwed'⟩
            rcases List.mem_append.mp hy with hy | hy
            · exact List.mem_append_left _ hy
            · rcases List.mem_cons.mp hy with rfl | hy
              · rw [hKey] at hKey'
                cases hKey'
                exact absurd hMem hFirst
              · exact List.mem_append_right _ hy
        have hSum := ih hRest hLeft
        simp only [List.map_append, List.sum_append,
          List.map_cons, List.sum_cons] at hSum ⊢
        omega

/- Sums over what a list is partly mapped to. -/
theorem sum_filterMap
    {B : Type}
    (g : A → Option B)
    (f : B → Nat)
    (xs : List A) :
    ((xs.filterMap g).map f).sum =
      (xs.map (fun x => (g x).elim 0 f)).sum := by
  induction xs with
  | nil => rfl
  | cons x xs ih =>
      cases hx : g x with
      | none =>
          rw [List.filterMap_cons_none hx]
          simp [hx, ih]
      | some b =>
          rw [List.filterMap_cons_some hx]
          simp [hx, ih]

/- How many of a list one map keeps, and another one. -/
theorem length_filterMap_le
    {B : Type}
    {f g : A → Option B}
    {xs : List A}
    (hSome : ∀ x ∈ xs, (g x).isSome = true →
      (f x).isSome = true) :
    (xs.filterMap g).length ≤ (xs.filterMap f).length := by
  rw [List.length_filterMap_eq_countP,
    List.length_filterMap_eq_countP]
  exact List.countP_mono_left hSome

/- And fewer, when only the other keeps one of them. -/
theorem length_filterMap_lt
    {B : Type}
    {f g : A → Option B}
    {xs : List A}
    (hSome : ∀ x ∈ xs, (g x).isSome = true →
      (f x).isSome = true)
    {x : A}
    (hMem : x ∈ xs)
    (hKept : (f x).isSome = true)
    (hDropped : g x = none) :
    (xs.filterMap g).length < (xs.filterMap f).length := by
  induction xs with
  | nil => cases hMem
  | cons y ys ih =>
      have hTail : ∀ x ∈ ys, (g x).isSome = true →
          (f x).isSome = true :=
        fun x hx => hSome x (List.mem_cons_of_mem _ hx)
      rcases List.mem_cons.mp hMem with rfl | hRest
      · rcases Option.isSome_iff_exists.mp hKept with ⟨b, hb⟩
        rw [List.filterMap_cons_none hDropped,
          List.filterMap_cons_some hb, List.length_cons]
        exact Nat.lt_succ_of_le (length_filterMap_le hTail)
      · have hLt := ih hTail hRest
        cases hg : g y with
        | none =>
            rw [List.filterMap_cons_none hg]
            cases hf : f y with
            | none => rwa [List.filterMap_cons_none hf]
            | some b =>
                rw [List.filterMap_cons_some hf,
                  List.length_cons]
                exact Nat.lt_succ_of_lt hLt
        | some c =>
            have hBoth := hSome y List.mem_cons_self (by simp [hg])
            rcases Option.isSome_iff_exists.mp hBoth with ⟨b, hb⟩
            rw [List.filterMap_cons_some hg,
              List.filterMap_cons_some hb]
            exact Nat.succ_lt_succ hLt

theorem sum_filter_le
    {p : A → Bool}
    {f g : A → Nat}
    {xs : List A}
    (hLe : ∀ x ∈ xs, p x = true → f x ≤ g x) :
    ((xs.filter p).map f).sum ≤ (xs.map g).sum := by
  induction xs with
  | nil => exact Nat.le_refl 0
  | cons x xs ih =>
      have hRest := ih (fun y hy =>
        hLe y (List.mem_cons_of_mem _ hy))
      by_cases hx : p x = true
      · rw [List.filter_cons_of_pos hx]
        simp only [List.map_cons, List.sum_cons]
        exact Nat.add_le_add (hLe x List.mem_cons_self hx) hRest
      · rw [List.filter_cons_of_neg hx]
        simp only [List.map_cons, List.sum_cons]
        exact hRest.trans (Nat.le_add_left _ _)

/- A sum, split by a test. -/
theorem sum_filter_add
    (p : A → Bool)
    (f : A → Nat)
    (xs : List A) :
    (xs.map f).sum =
      ((xs.filter p).map f).sum +
        ((xs.filter (fun x => !p x)).map f).sum := by
  rw [← List.sum_append, ← List.map_append]
  exact ((List.filter_append_perm p xs).map f).sum_eq.symm

end Loads
