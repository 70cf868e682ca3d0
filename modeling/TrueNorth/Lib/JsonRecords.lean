import TrueNorth.Lib.JsonReadBack

/-
  Objects as records: the members do not depend on the order
  they stand in, and a value sorted by its keys has the same
  members, sorted in turn.

  Key definitions include:
    * `Json.member?`

  Main theorems:
    * `Json.member?_sorted`
    * `Json.inOrder_eq_of_perm`
    * `Json.tidy_sorted`
    * `Json.member?_of_sorted_eq`
-/

--------
-- Members
--------

namespace Json

/- The value of a key, none when the key is absent. -/
def member?
    (members : List (String × Json))
    (key : String) : Option Json :=
  (members.find? (fun member => member.1 = key)).map Prod.snd

theorem lookup_eq
    (members : List (String × Json))
    (key : String) :
    lookup members key = (member? members key).getD .null := by
  unfold lookup member?
  cases members.find? (fun member => member.1 = key) with
  | none => rfl
  | some member => rfl

theorem member?_eq_some
    {members : List (String × Json)}
    {key : String}
    {value : Json}
    (hKeys : (members.map Prod.fst).Nodup) :
    member? members key = some value ↔
      (key, value) ∈ members := by
  induction members with
  | nil =>
      constructor
      · intro hSome
        cases hSome
      · intro hMem
        cases hMem
  | cons m members ih =>
      rw [List.map_cons, List.nodup_cons] at hKeys
      have hRest := ih hKeys.2
      unfold member? at hRest ⊢
      rw [List.find?_cons]
      by_cases hKey : m.1 = key
      · rw [decide_eq_true hKey]
        constructor
        · intro hSome
          cases hSome
          rw [← hKey]
          exact List.mem_cons_self
        · intro hMem
          rcases List.mem_cons.mp hMem with rfl | hMem
          · rfl
          · exact absurd
              (List.mem_map.mpr ⟨_, hMem, hKey.symm⟩) hKeys.1
      · rw [decide_eq_false hKey]
        rw [hRest, List.mem_cons]
        constructor
        · exact .inr
        · rintro (rfl | hMem)
          · exact absurd rfl hKey
          · exact hMem

/- The members of a record in any order. -/
theorem member?_of_perm
    {members members' : List (String × Json)}
    (hPerm : members.Perm members')
    (hKeys : (members.map Prod.fst).Nodup)
    (key : String) :
    member? members key = member? members' key := by
  have hKeys' : (members'.map Prod.fst).Nodup :=
    (hPerm.map Prod.fst).nodup_iff.mp hKeys
  apply Option.ext
  intro value
  rw [member?_eq_some hKeys, member?_eq_some hKeys',
    hPerm.mem_iff]

--------
-- In Order
--------

theorem inOrder_perm
    (members : List (String × Json)) :
    (inOrder members).Perm members :=
  List.mergeSort_perm _ _

theorem inOrder_pairwise
    (members : List (String × Json)) :
    (inOrder members).Pairwise (fun m m' => m.1 ≤ m'.1) := by
  have hSorted :=
    @List.pairwise_mergeSort (String × Json)
      (fun m m' => decide (m.1 ≤ m'.1))
      (by
        intro a b c hab hbc
        rw [decide_eq_true_eq] at hab hbc ⊢
        exact String.le_trans hab hbc)
      (by
        intro a b
        rw [Bool.or_eq_true, decide_eq_true_eq,
          decide_eq_true_eq]
        exact String.le_total a.1 b.1)
      members
  exact hSorted.imp (fun hLe => of_decide_eq_true hLe)

/- Records that are the same are the same in order. -/
theorem inOrder_eq_of_perm
    {members members' : List (String × Json)}
    (hPerm : members.Perm members')
    (hKeys : (members.map Prod.fst).Nodup) :
    inOrder members = inOrder members' := by
  have hOrder :
      (inOrder members).Perm (inOrder members') :=
    ((inOrder_perm members).trans hPerm).trans
      (inOrder_perm members').symm
  refine hOrder.eq_of_pairwise ?_ (inOrder_pairwise members)
    (inOrder_pairwise members')
  rintro ⟨key, value⟩ ⟨key', value'⟩ hIn hIn' hLe hLe'
  have hSame : key = key' := String.le_antisymm hLe hLe'
  subst hSame
  have hMem := (inOrder_perm members).mem_iff.mp hIn
  have hMem' :=
    hPerm.mem_iff.mpr ((inOrder_perm members').mem_iff.mp hIn')
  have hValue := (member?_eq_some hKeys).mpr hMem
  have hValue' := (member?_eq_some hKeys).mpr hMem'
  rw [hValue] at hValue'
  cases hValue'
  rfl

--------
-- Sorted Values
--------

theorem sortedMembers_eq
    (members : List (String × Json)) :
    sortedMembers members =
      members.map (fun m => (m.1, sorted m.2)) := by
  induction members with
  | nil => rw [sortedMembers]; rfl
  | cons m members ih =>
      rcases m with ⟨key, value⟩
      rw [sortedMembers, sortedMember, ih]
      rfl

theorem keys_sortedMembers
    (members : List (String × Json)) :
    (sortedMembers members).map Prod.fst =
      members.map Prod.fst := by
  rw [sortedMembers_eq, List.map_map]
  rfl

theorem nodup_sortedMembers
    {members : List (String × Json)}
    (hKeys : (members.map Prod.fst).Nodup) :
    ((sortedMembers members).map Prod.fst).Nodup := by
  rw [keys_sortedMembers]
  exact hKeys

theorem nodup_inOrder
    {members : List (String × Json)}
    (hKeys : (members.map Prod.fst).Nodup) :
    ((inOrder members).map Prod.fst).Nodup :=
  ((inOrder_perm members).map Prod.fst).nodup_iff.mpr hKeys

theorem member?_sortedMembers
    (members : List (String × Json))
    (key : String) :
    member? (sortedMembers members) key =
      (member? members key).map sorted := by
  unfold member?
  rw [sortedMembers_eq, List.find?_map, Option.map_map,
    Option.map_map]
  rfl

/- A sorted record has the members it had, sorted. -/
theorem member?_sorted
    {members : List (String × Json)}
    (hKeys : (members.map Prod.fst).Nodup)
    (key : String) :
    member? (inOrder (sortedMembers members)) key =
      (member? members key).map sorted := by
  rw [← member?_sortedMembers]
  exact member?_of_perm (inOrder_perm _)
    (nodup_inOrder (nodup_sortedMembers hKeys)) key

theorem tidyMembers_iff
    {members : List (String × Json)} :
    TidyMembers members ↔ ∀ m ∈ members, m.2.Tidy := by
  induction members with
  | nil => simp [TidyMembers]
  | cons m members ih =>
      rcases m with ⟨key, value⟩
      rw [TidyMembers, TidyMember, ih, List.forall_mem_cons]

mutual

/- Sorting keeps a value tidy. -/
theorem tidy_sorted
    (value : Json)
    (hTidy : value.Tidy) :
    value.sorted.Tidy := by
  cases value with
  | null => simpa [sorted] using hTidy
  | bool value => simpa [sorted] using hTidy
  | int value => simpa [sorted] using hTidy
  | float value => simpa [sorted] using hTidy
  | str text => simpa [sorted] using hTidy
  | arr items =>
      rw [Tidy] at hTidy
      rw [sorted, Tidy]
      exact tidy_sortedItems items hTidy
  | obj members =>
      rw [Tidy] at hTidy
      rw [sorted, Tidy]
      refine ⟨nodup_inOrder (nodup_sortedMembers hTidy.1), ?_⟩
      have hMembers := tidy_sortedMembers members hTidy.2
      rw [tidyMembers_iff] at hMembers ⊢
      intro m hMem
      exact hMembers m ((inOrder_perm _).mem_iff.mp hMem)

theorem tidy_sortedItems
    (items : List Json)
    (hTidy : TidyItems items) :
    TidyItems (sortedItems items) := by
  cases items with
  | nil => rw [sortedItems, TidyItems]; trivial
  | cons item items =>
      rw [TidyItems] at hTidy
      rw [sortedItems, TidyItems]
      exact ⟨tidy_sorted item hTidy.1,
        tidy_sortedItems items hTidy.2⟩

theorem tidy_sortedMembers
    (members : List (String × Json))
    (hTidy : TidyMembers members) :
    TidyMembers (sortedMembers members) := by
  cases members with
  | nil => rw [sortedMembers, TidyMembers]; trivial
  | cons member members =>
      rw [TidyMembers] at hTidy
      rw [sortedMembers, TidyMembers]
      exact ⟨tidy_sortedMember member hTidy.1,
        tidy_sortedMembers members hTidy.2⟩

theorem tidy_sortedMember
    (member : String × Json)
    (hTidy : TidyMember member) :
    TidyMember (sortedMember member) := by
  rcases member with ⟨key, value⟩
  rw [TidyMember] at hTidy
  rw [sortedMember, TidyMember]
  exact tidy_sorted value hTidy

end

--------
-- Equal When Sorted
--------

theorem str_of_sorted
    {value : Json}
    {text : String}
    (hSorted : value.sorted = .str text) :
    value = .str text := by
  cases value with
  | str text' => simpa [sorted] using hSorted
  | arr items => rw [sorted] at hSorted; cases hSorted
  | obj members => rw [sorted] at hSorted; cases hSorted
  | null => simp [sorted] at hSorted
  | bool value => simp [sorted] at hSorted
  | int value => simp [sorted] at hSorted
  | float value => simp [sorted] at hSorted

/- Records equal when sorted have equal members, sorted. -/
theorem member?_of_sorted_eq
    {members members' : List (String × Json)}
    (hKeys : (members.map Prod.fst).Nodup)
    (hSame : (Json.obj members').sorted = (Json.obj members).sorted)
    (key : String) :
    (member? members' key).map sorted =
      (member? members key).map sorted := by
  rw [sorted, sorted, Json.obj.injEq] at hSame
  have hPerm :
      (members'.map Prod.fst).Perm (members.map Prod.fst) := by
    have hLeft :=
      (inOrder_perm (sortedMembers members')).map Prod.fst
    have hRight :=
      (inOrder_perm (sortedMembers members)).map Prod.fst
    rw [keys_sortedMembers] at hLeft hRight
    rw [hSame] at hLeft
    exact hLeft.symm.trans hRight
  have hKeys' : (members'.map Prod.fst).Nodup :=
    hPerm.nodup_iff.mpr hKeys
  rw [← member?_sorted hKeys, ← member?_sorted hKeys', hSame]

/- A member that is a text is that text in both. -/
theorem lookup_str_of_sorted_eq
    {members members' : List (String × Json)}
    (hKeys : (members.map Prod.fst).Nodup)
    (hSame : (Json.obj members').sorted = (Json.obj members).sorted)
    {key text : String}
    (hText : member? members key = some (.str text)) :
    lookup members' key = .str text := by
  have hStr : (Json.str text).sorted = .str text := by
    simp [sorted]
  have hMember := member?_of_sorted_eq hKeys hSame key
  rw [hText, Option.map_some, hStr] at hMember
  rcases Option.map_eq_some_iff.mp hMember with
    ⟨value, hValue, hSorted⟩
  rw [lookup_eq, hValue, str_of_sorted hSorted]
  rfl

end Json
