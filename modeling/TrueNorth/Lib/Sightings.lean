import Mathlib.Data.List.Sort
import Mathlib.Data.Prod.Lex

/-
  A list of sightings: the first under each key, and the
  last of those that a stable sort leaves at the end.

  Key definitions include:
    * `Sightings.firstSeen`
    * `Sightings.atTop`

  Main theorems:
    * `Sightings.firstSeen_append`
    * `Sightings.exists_firstSeen`
    * `Sightings.getLast?_insertionSort`
-/

--------
-- The First Under Each Key
--------

namespace Sightings

variable {α κ : Type}
variable [DecidableEq κ]

/- What has a key that neither `seen` nor what is before has. -/
def firstSeen (key : α → κ) :
    List κ → List α → List α
| _, [] => []
| seen, a :: l =>
    if key a ∈ seen then firstSeen key (seen ++ [key a]) l
    else a :: firstSeen key (seen ++ [key a]) l

variable {key : α → κ}

theorem firstSeen_nil
    (seen : List κ) :
    firstSeen key seen [] = [] :=
  rfl

theorem firstSeen_cons
    (seen : List κ)
    (a : α)
    (l : List α) :
    firstSeen key seen (a :: l) =
      if key a ∈ seen then firstSeen key (seen ++ [key a]) l
      else a :: firstSeen key (seen ++ [key a]) l :=
  rfl

theorem firstSeen_append
    (seen : List κ)
    (l l' : List α) :
    firstSeen key seen (l ++ l') =
      firstSeen key seen l ++
        firstSeen key (seen ++ l.map key) l' := by
  induction l generalizing seen with
  | nil => simp [firstSeen_nil]
  | cons a l ih =>
      simp only [List.cons_append, firstSeen_cons, ih,
        List.map_cons, List.append_assoc]
      split
      · rfl
      · rfl

/- Only which keys were seen matters. -/
theorem firstSeen_congr
    {seen seen' : List κ}
    (hSeen : ∀ k, k ∈ seen ↔ k ∈ seen')
    (l : List α) :
    firstSeen key seen l = firstSeen key seen' l := by
  induction l generalizing seen seen' with
  | nil => rfl
  | cons a l ih =>
      have hNext : ∀ k, k ∈ seen ++ [key a] ↔
          k ∈ seen' ++ [key a] := by
        intro k
        simp [hSeen k]
      simp only [firstSeen_cons, ih hNext, hSeen]

theorem firstSeen_sublist
    (seen : List κ)
    (l : List α) :
    (firstSeen key seen l).Sublist l := by
  induction l generalizing seen with
  | nil => exact List.Sublist.slnil
  | cons a l ih =>
      rw [firstSeen_cons]
      split
      · exact (ih _).cons a
      · exact (ih _).cons_cons a

theorem not_seen
    {seen : List κ}
    {l : List α}
    {a : α}
    (hMem : a ∈ firstSeen key seen l) :
    key a ∉ seen := by
  induction l generalizing seen with
  | nil => cases hMem
  | cons b l ih =>
      rw [firstSeen_cons] at hMem
      have hLater : a ∈ firstSeen key (seen ++ [key b]) l →
          key a ∉ seen := by
        intro hMem hSeen
        exact ih hMem (List.mem_append_left _ hSeen)
      split at hMem
      · exact hLater hMem
      · next hNew =>
          rcases List.mem_cons.mp hMem with rfl | hMem
          · exact hNew
          · exact hLater hMem

/- Every key is seen, before or first. -/
theorem exists_firstSeen
    {seen : List κ}
    {l : List α}
    {a : α}
    (hMem : a ∈ l)
    (hNew : key a ∉ seen) :
    ∃ b ∈ firstSeen key seen l, key b = key a := by
  induction l generalizing seen with
  | nil => cases hMem
  | cons c l ih =>
      rw [firstSeen_cons]
      by_cases hSame : key c = key a
      · rw [hSame, if_neg hNew]
        exact ⟨c, List.mem_cons_self, hSame⟩
      · have hRest : a ∈ l := by
          rcases List.mem_cons.mp hMem with rfl | hMem
          · exact absurd rfl hSame
          · exact hMem
        have hStill : key a ∉ seen ++ [key c] := by
          simp [hNew, Ne.symm hSame]
        rcases ih hRest hStill with ⟨b, hb, hKey⟩
        split
        · exact ⟨b, hb, hKey⟩
        · exact ⟨b, List.mem_cons_of_mem c hb, hKey⟩

/- What has only keys that were seen adds nothing. -/
theorem firstSeen_eq_nil
    {seen : List κ}
    {l : List α}
    (hSeen : ∀ a ∈ l, key a ∈ seen) :
    firstSeen key seen l = [] := by
  rw [List.eq_nil_iff_forall_not_mem]
  intro a hMem
  exact not_seen hMem
    (hSeen a ((firstSeen_sublist seen l).subset hMem))

/- Of sightings under one new key, the first. -/
theorem firstSeen_one_key
    {seen : List κ}
    {a : α}
    {l : List α}
    (hNew : key a ∉ seen)
    (hSame : ∀ b ∈ l, key b = key a) :
    firstSeen key seen (a :: l) = [a] := by
  rw [firstSeen_cons, if_neg hNew, firstSeen_eq_nil]
  intro b hb
  rw [hSame b hb]
  simp

--------
-- The Last of a Stable Sort
--------

variable {α ι : Type}
variable [LinearOrder ι]

/- Those with the highest place. -/
def atTop
    (place : α → ι)
    (l : List α) : List α :=
  l.filter (fun a => ∀ b ∈ l, place b ≤ place a)

variable {place : α → ι}

/- A stable sort keeps the order of what has one place. -/
theorem filter_insertionSort
    (i : ι)
    (l : List α) :
    (l.insertionSort (fun a b => place a ≤ place b)).filter
        (fun a => place a = i) =
      l.filter (fun a => place a = i) := by
  have hInsert : ∀ (a : α) (l : List α),
      (l.orderedInsert (fun a b => place a ≤ place b) a).filter
          (fun a => place a = i) =
        (a :: l).filter (fun a => place a = i) := by
    intro a l
    induction l with
    | nil => rfl
    | cons b l ih =>
        rw [List.orderedInsert_cons]
        split
        · rfl
        · next hAbove =>
            simp only [List.filter_cons] at ih ⊢
            rw [ih]
            by_cases hA : place a = i
            · have hB : place b ≠ i := by
                intro hB
                exact hAbove (by rw [hA, hB])
              simp [hA, hB]
            · simp [hA]
  induction l with
  | nil => rfl
  | cons a l ih =>
      rw [List.insertionSort_cons, hInsert]
      simp only [List.filter_cons, ih]

/- The last of a sorted list has the highest place. -/
theorem le_getLast
    {l : List α}
    (hSorted : l.Pairwise (fun a b => place a ≤ place b))
    {last : α}
    (hLast : l.getLast? = some last)
    {a : α}
    (hMem : a ∈ l) :
    place a ≤ place last := by
  rcases List.getLast?_eq_some_iff.mp hLast with ⟨before, rfl⟩
  rcases List.mem_append.mp hMem with hMem | hMem
  · exact (List.pairwise_append.mp hSorted).2.2 a hMem last
      (List.mem_singleton_self last)
  · rw [List.mem_singleton.mp hMem]

/-
  A stable sort leaves at the end the last of those with the
  highest place.
-/
theorem getLast?_insertionSort
    (l : List α) :
    (l.insertionSort (fun a b => place a ≤ place b)).getLast? =
      (atTop place l).getLast? := by
  have hPerm := List.perm_insertionSort
    (fun a b => place a ≤ place b) l
  have hSorted := List.pairwise_insertionSort
    (fun a b => place a ≤ place b) l
  cases hLast :
      (l.insertionSort (fun a b => place a ≤ place b)).getLast? with
  | none =>
      have hNil := List.getLast?_eq_none_iff.mp hLast
      rw [hNil] at hPerm
      rw [hPerm.symm.eq_nil]
      rfl
  | some last =>
      have hTop : atTop place l =
          l.filter (fun a => place a = place last) := by
        apply List.filter_congr
        intro a ha
        have hLe := le_getLast hSorted hLast (hPerm.mem_iff.mpr ha)
        have hMem : last ∈ l :=
          hPerm.mem_iff.mp (List.mem_of_getLast? hLast)
        rw [decide_eq_decide]
        constructor
        · intro hAll
          exact le_antisymm hLe (hAll last hMem)
        · intro hSame b hb
          rw [hSame]
          exact le_getLast hSorted hLast (hPerm.mem_iff.mpr hb)
      rw [hTop, ← filter_insertionSort]
      rcases List.getLast?_eq_some_iff.mp hLast with
        ⟨before, hEnd⟩
      rw [hEnd, List.filter_append]
      simp

end Sightings
