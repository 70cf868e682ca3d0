import Mathlib.Data.Finset.Sort
import Mathlib.Data.String.Basic
import TrueNorth.Lib.Sightings

/-
  The check against the live switch before a port group is
  created (provisioners/vsphere_vlans.py).

  Whether there is a conflict and which port group is to
  blame are two searches over one list.

  Key definitions include:
    * `PortgroupUse`, `PortgroupConflictError`
    * `conflict`, `check`
    * `Violates`
    * `Exact`, `Blames`

  Main theorems:
    * `conflict_isSome_iff`
    * `blamed_eq`
    * `exact_iff_blames`
-/

--------
-- Port Groups
--------

namespace TrueNorth

namespace PortGroups

/- One port group on the switch and the VLANs it carries. -/
structure PortgroupUse where
  name : String
  vlans : Finset Int
  trunk : Bool := false
  description : String := ""

structure PortgroupConflictError where
  message : String
  vlan : Int
  usedBy : String
  carried : Bool

/- `owner_mark`. -/
def ownerMark (rangeId : String) : String :=
  "TrueNorth range " ++ rangeId

/- Without a description, or with this range's mark. -/
def PortgroupUse.mine
    (use : PortgroupUse)
    (rangeId : String) : Bool :=
  use.description = "" || use.description = ownerMark rangeId

/- Not this range's port group on this VLAN. -/
def PortgroupUse.differs
    (use : PortgroupUse)
    (vlan : Int)
    (rangeId : String) : Bool :=
  use.trunk || use.vlans ≠ {vlan} || !use.mine rangeId

/- The first eight VLANs, or none. -/
def carriedText (use : PortgroupUse) : String :=
  let texts := ((use.vlans.sort (· ≤ ·)).take 8).map toString
  if texts = [] then "none" else ", ".intercalate texts

/- Why a port group of the name is in the way. -/
def ownReason
    (repr : String → String)
    (use : PortgroupUse)
    (name : String)
    (vlan : Int)
    (rangeId switch : String) : String :=
  let owner :=
    if use.mine rangeId then ""
    else ", owned by " ++ repr use.description
  let exists_ :=
    "port group " ++ repr name ++ " already exists on " ++ switch
  if use.vlans ≠ {vlan} ∨ use.trunk = true then
    exists_ ++ " with VLAN " ++ carriedText use ++
      (if use.trunk then " (trunk)" else "") ++ owner ++
      ", not this range's VLAN " ++ toString vlan
  else exists_ ++ owner ++ ": it is not this range's"

/- Why a port group of another name is in the way. -/
def otherReason
    (repr : String → String)
    (use : PortgroupUse)
    (vlan : Int)
    (switch : String) : String :=
  "VLAN " ++ toString vlan ++ " is already used by " ++
    (if use.trunk then "trunk port group" else "port group") ++
    " " ++ repr use.name ++ " on " ++ switch

/- `sorted(uses, key=lambda u: u.name)`. -/
def byName (uses : List PortgroupUse) : List PortgroupUse :=
  uses.insertionSort (fun u u' => u.name ≤ u'.name)

/- `conflict`; `repr` is Python's, of a text. -/
def conflict
    (repr : String → String)
    (uses : List PortgroupUse)
    (name : String)
    (vlan : Int)
    (rangeId switch : String) : Option String :=
  match uses.find? (fun use =>
      use.name = name && use.differs vlan rangeId) with
  | some use =>
      some (ownReason repr use name vlan rangeId switch)
  | none =>
      ((byName uses).find? (fun use =>
        use.name ≠ name && vlan ∈ use.vlans)).map (fun use =>
          otherReason repr use vlan switch)

/- Those of the name come first, then the others by name. -/
def place
    (name : String)
    (use : PortgroupUse) : Bool ×ₗ String :=
  toLex (use.name ≠ name, use.name)

/- The port group that is blamed. -/
def blamed
    (uses : List PortgroupUse)
    (name : String)
    (vlan : Int) : Option PortgroupUse :=
  (uses.insertionSort (fun u u' =>
    place name u ≤ place name u')).find? (fun use =>
      use.name = name || vlan ∈ use.vlans)

/- `check`. -/
def check
    (repr : String → String)
    (uses : List PortgroupUse)
    (name : String)
    (vlan : Int)
    (rangeId switch : String) :
    Except PortgroupConflictError Bool :=
  match conflict repr uses name vlan rangeId switch with
  | some reason =>
      let by_ := blamed uses name vlan
      .error
        { message := reason ++ "; it appeared after VLAN " ++
            toString vlan ++ " was allocated, so the build " ++
            "stopped before creating anything further"
          vlan := vlan
          usedBy := (by_.map PortgroupUse.name).getD name
          carried := by_.any (fun use => vlan ∈ use.vlans) }
  | none => .ok (uses.any (fun use => use.name = name))

--------
-- Conflicts
--------

variable {repr : String → String}
variable {uses : List PortgroupUse}
variable {name rangeId switch : String}
variable {vlan : Int}

/- Exactly that VLAN, no trunk, unmarked or this range's. -/
def Fits
    (vlan : Int)
    (rangeId : String)
    (use : PortgroupUse) : Prop :=
  use.vlans = {vlan} ∧ use.trunk = false ∧
    (use.description = "" ∨ use.description = ownerMark rangeId)

/- What stands in the way of the port group. -/
def Violates
    (name : String)
    (vlan : Int)
    (rangeId : String)
    (use : PortgroupUse) : Prop :=
  use.name = name ∧ ¬ Fits vlan rangeId use ∨
    use.name ≠ name ∧ vlan ∈ use.vlans

theorem differs_iff
    {use : PortgroupUse} :
    use.differs vlan rangeId = true ↔ ¬ Fits vlan rangeId use := by
  unfold PortgroupUse.differs PortgroupUse.mine Fits
  cases use.trunk with
  | true => simp
  | false =>
      simp only [Bool.false_or, Bool.or_eq_true,
        decide_eq_true_eq, Bool.not_eq_true', Bool.or_eq_false_iff,
        decide_eq_false_iff_not, true_and, not_and_or, not_or]

/- There is a conflict where something is in the way. -/
theorem conflict_isSome_iff :
    (conflict repr uses name vlan rangeId switch).isSome = true ↔
      ∃ use ∈ uses, Violates name vlan rangeId use := by
  unfold conflict
  cases hOwn : uses.find? (fun use =>
      use.name = name && use.differs vlan rangeId) with
  | some use =>
      have hFound := List.find?_some hOwn
      rw [Bool.and_eq_true, decide_eq_true_eq, differs_iff]
        at hFound
      simp only [Option.isSome_some, true_iff]
      exact ⟨use, List.mem_of_find?_eq_some hOwn, .inl hFound⟩
  | none =>
      rw [List.find?_eq_none] at hOwn
      simp only [Option.isSome_map, List.find?_isSome]
      have hMem : ∀ use, use ∈ byName uses ↔ use ∈ uses :=
        fun use => (List.perm_insertionSort _ uses).mem_iff
      constructor
      · rintro ⟨use, hUse, hOther⟩
        rw [Bool.and_eq_true, decide_eq_true_eq,
          decide_eq_true_eq] at hOther
        exact ⟨use, (hMem use).mp hUse, .inr hOther⟩
      · rintro ⟨use, hUse, hSame | hOther⟩
        · have hNot := hOwn use hUse
          rw [Bool.and_eq_true, decide_eq_true_eq, differs_iff]
            at hNot
          exact absurd hSame hNot
        · refine ⟨use, (hMem use).mpr hUse, ?_⟩
          rw [Bool.and_eq_true, decide_eq_true_eq,
            decide_eq_true_eq]
          exact hOther

/- Of the port groups of the name, the first is blamed. -/
theorem blamed_eq
    {first : PortgroupUse}
    (hFirst : uses.find? (fun use => use.name = name) =
      some first) :
    blamed uses name vlan = some first := by
  have hSorted := List.pairwise_insertionSort
    (fun u u' => place name u ≤ place name u') uses
  have hPerm := List.perm_insertionSort
    (fun u u' => place name u ≤ place name u') uses
  have hStable : (uses.insertionSort (fun u u' =>
      place name u ≤ place name u')).filter (fun use =>
        place name use = toLex (false, name)) =
      uses.filter (fun use =>
        place name use = toLex (false, name)) :=
    Sightings.filter_insertionSort (toLex (false, name)) uses
  have hPlace : ∀ use : PortgroupUse,
      place name use = toLex (false, name) ↔ use.name = name := by
    intro use
    unfold place
    simp
  simp only [hPlace] at hStable
  unfold blamed
  generalize uses.insertionSort (fun u u' =>
    place name u ≤ place name u') = sorted
    at hSorted hPerm hStable ⊢
  -- the head of those of the name is the head of the sorted
  have hHead : (sorted.filter (fun use =>
      decide (use.name = name))).head? = some first := by
    rw [hStable, List.head?_filter]
    exact hFirst
  cases sorted with
  | nil => cases hHead
  | cons use sorted =>
      have hName : use.name = name := by
        by_contra hOther
        have hMem : first ∈ sorted := by
          rw [List.filter_cons_of_neg (by simp [hOther])] at hHead
          exact (List.mem_filter.mp
            (List.mem_of_head? hHead)).1
        have hLe := (List.pairwise_cons.mp hSorted).1 first hMem
        have hFirstName : first.name = name := by
          simpa using List.find?_some hFirst
        unfold place at hLe
        rw [Prod.Lex.le_iff] at hLe
        simp [hOther, hFirstName] at hLe
        exact absurd hLe (by decide)
      rw [List.filter_cons_of_pos (by simp [hName]),
        List.head?_cons, Option.some.injEq] at hHead
      rw [List.find?_cons_of_pos (by simp [hName]), hHead]

/- Where none has the name, one that carries the VLAN is. -/
theorem blamed_other
    (hNone : uses.find? (fun use => use.name = name) = none)
    (hSome : ∃ use ∈ uses, Violates name vlan rangeId use) :
    ∃ use ∈ uses, blamed uses name vlan = some use ∧
      use.name ≠ name ∧ vlan ∈ use.vlans := by
  rw [List.find?_eq_none] at hNone
  have hPerm := List.perm_insertionSort
    (fun u u' => place name u ≤ place name u') uses
  rcases hSome with ⟨use, hUse, hViolates⟩
  have hOther : ∀ use ∈ uses, use.name ≠ name := by
    intro use hUse
    simpa using hNone use hUse
  have hVlan : vlan ∈ use.vlans := by
    rcases hViolates with ⟨hName, _⟩ | ⟨_, hVlan⟩
    · exact absurd hName (hOther use hUse)
    · exact hVlan
  have hFound : (blamed uses name vlan).isSome = true := by
    unfold blamed
    rw [List.find?_isSome]
    exact ⟨use, hPerm.mem_iff.mpr hUse, by simp [hVlan]⟩
  rcases Option.isSome_iff_exists.mp hFound with ⟨found, hBlamed⟩
  have hMem : found ∈ uses :=
    hPerm.mem_iff.mp (List.mem_of_find?_eq_some hBlamed)
  have hTest := List.find?_some hBlamed
  rw [Bool.or_eq_true, decide_eq_true_eq, decide_eq_true_eq]
    at hTest
  refine ⟨found, hMem, hBlamed, hOther found hMem, ?_⟩
  rcases hTest with hName | hVlan
  · exact absurd hName (hOther found hMem)
  · exact hVlan

--------
-- The Check
--------

variable (uses : List PortgroupUse)
variable (name : String)
variable (vlan : Int)
variable (rangeId : String)

/-
  The check returns where nothing is in the way, whether the
  name is there, and else blames what is in the way.
-/
structure Exact
    (outcome : Except PortgroupConflictError Bool) : Prop where
  returns : (∃ found, outcome = .ok found) ↔
    ∀ use ∈ uses, ¬ Violates name vlan rangeId use
  found : ∀ found, outcome = .ok found →
    (found = true ↔ ∃ use ∈ uses, use.name = name)
  blames : ∀ e, outcome = .error e →
    ∃ use ∈ uses, Violates name vlan rangeId use ∧
      e.usedBy = use.name ∧ (e.carried = true ↔ vlan ∈ use.vlans)

/-
  If something is in the way and the name is there, one of
  the name is in the way, and carries the VLAN just as the
  first of the name does.
-/
def Blames : Prop :=
  (∃ use ∈ uses, Violates name vlan rangeId use) →
    ∀ first, uses.find? (fun use => use.name = name) =
      some first →
    ∃ use ∈ uses, use.name = name ∧ ¬ Fits vlan rangeId use ∧
      (vlan ∈ use.vlans ↔ vlan ∈ first.vlans)

/- The check is exact if and only if it blames one in the way. -/
theorem exact_iff_blames
    (repr : String → String)
    (switch : String) :
    Exact uses name vlan rangeId
        (check repr uses name vlan rangeId switch) ↔
      Blames uses name vlan rangeId := by
  have hIff := @conflict_isSome_iff repr uses name rangeId
    switch vlan
  cases hConflict : conflict repr uses name vlan rangeId switch with
  | none =>
      rw [hConflict] at hIff
      have hNone : ¬ ∃ use ∈ uses,
          Violates name vlan rangeId use := by
        intro hSome
        have hTrue := hIff.mpr hSome
        cases hTrue
      have hCheck : check repr uses name vlan rangeId switch =
          .ok (uses.any (fun use => use.name = name)) := by
        unfold check
        rw [hConflict]
      rw [hCheck]
      constructor
      · intro _ hSome
        exact absurd hSome hNone
      · intro _
        constructor
        · constructor
          · intro _ use hUse hViolates
            exact hNone ⟨use, hUse, hViolates⟩
          · intro _
            exact ⟨_, rfl⟩
        · intro found hFound
          cases hFound
          simp
        · intro e hError
          cases hError
  | some reason =>
      rw [hConflict] at hIff
      have hSome := hIff.mp rfl
      have hCheck : ∃ message,
          check repr uses name vlan rangeId switch =
            .error
              { message := message
                vlan := vlan
                usedBy := ((blamed uses name vlan).map
                  PortgroupUse.name).getD name
                carried := (blamed uses name vlan).any
                  (fun use => vlan ∈ use.vlans) } := by
        unfold check
        rw [hConflict]
        exact ⟨_, rfl⟩
      rcases hCheck with ⟨message, hCheck⟩
      rw [hCheck]
      cases hFirst : uses.find? (fun use => use.name = name) with
      | some first =>
          have hName : first.name = name := by
            simpa using List.find?_some hFirst
          rw [blamed_eq hFirst]
          constructor
          · rintro ⟨_, _, hBlames⟩ _ first' hFirst'
            rw [hFirst] at hFirst'
            cases hFirst'
            rcases hBlames _ rfl with
              ⟨use, hUse, hViolates, hBy, hCarried⟩
            simp only [Option.map_some, Option.getD_some, hName,
              Option.any_some, decide_eq_true_eq] at hBy hCarried
            rcases hViolates with ⟨hSame, hNot⟩ | ⟨hOther, _⟩
            · exact ⟨use, hUse, hSame, hNot, hCarried.symm⟩
            · exact absurd hBy.symm hOther
          · intro hBlames
            refine ⟨?_, ?_, ?_⟩
            · constructor
              · rintro ⟨_, hOk⟩
                cases hOk
              · intro hNone
                rcases hSome with ⟨use, hUse, hViolates⟩
                exact absurd hViolates (hNone use hUse)
            · intro found hOk
              cases hOk
            · intro e hError
              cases hError
              rcases hBlames hSome first hFirst with
                ⟨use, hUse, hSame, hNot, hVlan⟩
              refine ⟨use, hUse, .inl ⟨hSame, hNot⟩, ?_, ?_⟩
              · simp [hName, hSame]
              · simp [hVlan]
      | none =>
          rcases blamed_other hFirst hSome with
            ⟨use, hUse, hBlamed, hOther, hVlan⟩
          rw [hBlamed]
          constructor
          · intro _ _ first hFirst'
            rw [hFirst] at hFirst'
            cases hFirst'
          · intro _
            refine ⟨?_, ?_, ?_⟩
            · constructor
              · rintro ⟨_, hOk⟩
                cases hOk
              · intro hNone
                rcases hSome with ⟨use, hUse, hViolates⟩
                exact absurd hViolates (hNone use hUse)
            · intro found hOk
              cases hOk
            · intro e hError
              cases hError
              exact ⟨use, hUse, .inr ⟨hOther, hVlan⟩, rfl,
                by simp [hVlan]⟩

/-
  A range's own port group, there already, takes the blame
  of another's on the same VLAN.
-/
theorem own_blamed :
    ¬ Exact
      [{ name := "tn-00000001-v10", vlans := {10} },
       { name := "legacy", vlans := {10} }]
      "tn-00000001-v10" 10 "r1"
      (check (fun text => "'" ++ text ++ "'")
        [{ name := "tn-00000001-v10", vlans := {10} },
         { name := "legacy", vlans := {10} }]
        "tn-00000001-v10" 10 "r1" "dvs") := by
  intro hExact
  rcases hExact.blames _ rfl with
    ⟨use, hUse, hViolates, hBy, _⟩
  have hOwn : use.name = "tn-00000001-v10" := by
    rw [← hBy]
    decide
  rcases List.mem_pair.mp hUse with rfl | rfl
  · rcases hViolates with ⟨_, hNot⟩ | ⟨hOther, _⟩
    · exact hNot ⟨rfl, rfl, .inl rfl⟩
    · exact hOther rfl
  · exact absurd hOwn (by decide)

end PortGroups

end TrueNorth
