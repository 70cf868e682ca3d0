import TrueNorth.TemplateCopies.Prune

/-
  What a prune spares: the copies of a promoted build and of
  those registered since, the names in use, and, unless a
  template of its is one of a promoted image's too, whatever
  is of an image with no promoted build.

  Key definitions include:
    * `BuildRow.CopiedBy`
    * `Catalogue.Free`
    * `Catalogue.Apart`

  Main theorem:
    * `Catalogue.prune_spares_iff`
-/

--------
-- What Is Destroyed
--------

namespace TrueNorth

namespace TemplateCopies

section

variable {policy : PrunePolicy}

/- The copies of a name are a promoted image's, to prune. -/
def Deletable
    (policy : PrunePolicy)
    (rows : List VmRow)
    (name : String) : Prop :=
  (∃ c, parse name = some c ∧ c.base ∈ policy.managed) ∧
    name ∉ policy.isProtected ∧
    ∀ vm ∈ rows, vm.template = true → vm.name = name →
      policy.stamped vm.note = false

theorem mem_prunable
    {rows : List VmRow}
    {name : String} :
    name ∈ (prunable (listing policy rows).notes policy).1 ↔
      (∃ vm ∈ rows, vm.template = true ∧ vm.name = name) ∧
        Deletable policy rows name := by
  have hNamed := @listing_named policy rows name
  have hStamped := @listing_stamped policy rows name
  unfold prunable
  dsimp only
  rw [List.mem_insertionSort, List.mem_map]
  constructor
  · rintro ⟨⟨name', note⟩, hMem, rfl⟩
    rw [List.mem_filter, List.mem_filter] at hMem
    rcases hMem with ⟨⟨hEntry, hBase⟩, hFree⟩
    rw [Option.any_eq_true] at hBase
    rcases hBase with ⟨c, hParse, hManaged⟩
    have hGet := Dict.get?_eq_some_iff.mpr hEntry
    rw [hGet] at hNamed hStamped
    rcases List.any_eq_true.mp hNamed.symm with
      ⟨vm, hVm, hCopy⟩
    unfold VmRow.isCopy at hCopy
    simp only [Bool.and_eq_true, decide_eq_true_eq] at hCopy
    simp only [Bool.not_eq_true', Bool.or_eq_false_iff,
      List.contains_eq_mem, decide_eq_false_iff_not] at hFree
    refine ⟨⟨vm, hVm, hCopy.1.1, hCopy.2⟩,
      ⟨c, hParse, List.contains_iff_mem.mp hManaged⟩,
      hFree.1, ?_⟩
    intro other hOther hTemplate hName
    have hNone := hStamped.symm.trans hFree.2
    rw [List.any_eq_false] at hNone
    have hNot := hNone other hOther
    unfold VmRow.isCopy at hNot
    rw [hName] at hNot
    rw [hTemplate, hParse] at hNot
    simpa using hNot
  · rintro ⟨⟨vm, hVm, hTemplate, hName⟩,
      ⟨c, hParse, hManaged⟩, hFree, hUnstamped⟩
    have hSome :
        ((listing policy rows).notes.get? name).isSome =
          true := by
      rw [hNamed, List.any_eq_true]
      refine ⟨vm, hVm, ?_⟩
      unfold VmRow.isCopy
      simp [hTemplate, hName, hParse]
    rcases Option.isSome_iff_exists.mp hSome with
      ⟨note, hGet⟩
    refine ⟨(name, note), ?_, rfl⟩
    rw [hGet] at hStamped
    have hNone : policy.stamped note = false := by
      change policy.stamped (some note).join = false
      rw [hStamped, List.any_eq_false]
      intro other hOther
      simp only [Bool.and_eq_true, decide_eq_true_eq,
        Bool.not_eq_true, not_and]
      rintro ⟨hCopy, hSame⟩
      unfold VmRow.isCopy at hCopy
      exact hUnstamped other hOther
        (Bool.and_eq_true_iff.mp hCopy).1 hSame
    rw [List.mem_filter, List.mem_filter]
    refine ⟨⟨Dict.get?_eq_some_iff.mp hGet, ?_⟩, ?_⟩
    · simp [hParse, hManaged]
    · simp [hFree, hNone]

/- What a prune destroys. -/
theorem mem_pruneCopies
    {rows : List VmRow}
    {now : Nat → Option VmRow}
    {dryRun : Bool}
    {vm : VmRow} :
    vm ∈ pruneCopies policy rows now dryRun ↔
      dryRun = false ∧
        ∃ old ∈ rows, old.template = true ∧
          Deletable policy rows old.name ∧
          now old.vmId = some vm ∧ vm.name = old.name ∧
          vm.template = true ∧ policy.stamped vm.note = false := by
  unfold pruneCopies
  dsimp only
  cases dryRun with
  | true => simp
  | false =>
      rw [if_neg Bool.false_ne_true, List.mem_flatMap]
      simp only [true_and]
      constructor
      · rintro ⟨name, hName, hMem⟩
        rw [listing_ids, List.mem_filterMap] at hMem
        rcases hMem with ⟨id, hId, hNow⟩
        rcases List.mem_map.mp hId with ⟨old, hOld, rfl⟩
        rcases List.mem_filter.mp hOld with ⟨hRow, hCopy⟩
        rcases Option.filter_eq_some_iff.mp hNow with
          ⟨hFound, hSame⟩
        unfold VmRow.isCopy at hCopy
        simp only [Bool.and_eq_true, decide_eq_true_eq,
          Bool.not_eq_true'] at hCopy hSame
        refine ⟨old, hRow, hCopy.1.1, ?_, hFound, ?_,
          hSame.1.2, hSame.2⟩
        · rw [hCopy.2]
          exact (mem_prunable.mp hName).2
        · rw [hCopy.2]
          exact hSame.1.1
      · rintro ⟨old, hRow, hTemplate, hDelete, hFound, hName,
          hNow, hUnstamped⟩
        refine ⟨old.name, mem_prunable.mpr
          ⟨⟨old, hRow, hTemplate, rfl⟩, hDelete⟩, ?_⟩
        rcases hDelete.1 with ⟨c, hParse, _⟩
        rw [listing_ids, List.mem_filterMap]
        refine ⟨old.vmId, ?_, ?_⟩
        · refine List.mem_map.mpr ⟨old, ?_, rfl⟩
          refine List.mem_filter.mpr ⟨hRow, ?_⟩
          unfold VmRow.isCopy
          simp [hTemplate, hParse]
        · rw [Option.filter_eq_some_iff]
          refine ⟨hFound, ?_⟩
          simp [hName, hNow, hUnstamped]

end

--------
-- Copies to Keep
--------

/-
  A template is a copy of a build: the build's record names
  it, or it is stamped as the build.
-/
def BuildRow.CopiedBy
    (r : BuildRow)
    (vm : VmRow) : Prop :=
  vm.name ∈ r.copies ∨ stampOf vm.note = some r.stamp

namespace Catalogue

/-
  A template is a copy of an image: by the base of its name,
  or as a copy of one of the image's builds.
-/
def CopyOf
    (cat : Catalogue)
    (imageId : Nat)
    (image : Image)
    (vm : VmRow) : Prop :=
  (∃ c, parse vm.name = some c ∧
    (c.base = image.templateName ∨
      c.base = image.catalogueId ∨
      ∃ r ∈ cat.rows, r.imageId = imageId ∧
        c.base ∈ r.templates)) ∨
  ∃ r ∈ cat.rows, r.imageId = imageId ∧ r.CopiedBy vm

/- A build was registered since its image's promotion. -/
def Since
    (cat : Catalogue)
    (r : BuildRow) : Prop :=
  ∃ buildId p at' t,
    cat.builds.get? (r.imageId, buildId) = some p ∧
      p.promoted = true ∧ p.promotedAt = some at' ∧
      r.createdAt = some t ∧ at' ≤ t

/- A template that nothing says is to be kept. -/
structure Free
    (cat : Catalogue)
    (inUse : List String)
    (vm : VmRow) : Prop where
  promoted : ∀ r ∈ cat.rows, r.promoted = true →
    ¬ r.CopiedBy vm
  since : ∀ r ∈ cat.rows, cat.Since r → ¬ r.CopiedBy vm
  inUse : vm.name ∉ inUse
  unpromoted : ∀ imageId image,
    cat.images.get? imageId = some image →
      ¬ HasPromoted cat.rows imageId →
        ¬ cat.CopyOf imageId image vm

/-
  A template is kept, whatever image it is of: no template of
  an image with a promoted build is the base of its name, or
  its name is in use, or it is a kept build's by its name, by
  its stamp or by that of another template of its name.
-/
def Sheltered
    (cat : Catalogue)
    (inUse : List String)
    (e : Endpoint)
    (vm : VmRow) : Prop :=
  (∀ c, parse vm.name = some c → ∀ r ∈ cat.rows,
    HasPromoted cat.rows r.imageId → c.base ∉ r.templates) ∨
  vm.name ∈ inUse ∨
  ∃ r ∈ cat.rows, Kept cat.rows r ∧
    (r.CopiedBy vm ∨
      ∃ other ∈ e.rows, other.template = true ∧
        other.name = vm.name ∧ stampOf other.note = some r.stamp)

/- Copies of images with no promoted build are sheltered. -/
def Apart
    (cat : Catalogue)
    (inUse : List String)
    (e : Endpoint) : Prop :=
  ∀ old ∈ e.rows, ∀ vm,
    old.template = true → e.now old.vmId = some vm →
      vm.name = old.name → vm.template = true →
        ∀ imageId image,
          cat.images.get? imageId = some image →
            ¬ HasPromoted cat.rows imageId →
              cat.CopyOf imageId image vm →
                cat.Sheltered inUse e vm

theorem mem_rows
    {cat : Catalogue}
    {r : BuildRow} :
    r ∈ cat.rows ↔
      ∃ imageId image buildId b,
        cat.images.get? imageId = some image ∧
          cat.builds.get? (imageId, buildId) = some b ∧
          r =
            { imageId := imageId
              catalogueId := image.catalogueId
              imageTemplate := image.templateName
              buildId := buildId
              checksum := b.checksum
              buildTemplate := b.templateName
              promoted := b.promoted
              createdAt := b.createdAt
              copies := b.copies } := by
  unfold rows
  rw [List.mem_filterMap]
  constructor
  · rintro ⟨⟨⟨imageId, buildId⟩, b⟩, hEntry, hSome⟩
    rcases Option.map_eq_some_iff.mp hSome with
      ⟨image, hImage, rfl⟩
    exact ⟨imageId, image, buildId, b, hImage,
      Dict.get?_eq_some_iff.mpr hEntry, rfl⟩
  · rintro ⟨imageId, image, buildId, b, hImage, hBuild, rfl⟩
    refine ⟨((imageId, buildId), b),
      Dict.get?_eq_some_iff.mp hBuild, ?_⟩
    rw [hImage]
    rfl

section

variable {cat : Catalogue}

theorem Lawful.onePromoted
    (hLawful : Lawful cat) :
    OnePromoted cat.rows := by
  intro p hMem p' hMem' hSome hSome' hImage
  rcases mem_rows.mp hMem with
    ⟨imageId, image, buildId, b, hGet, hBuild, rfl⟩
  rcases mem_rows.mp hMem' with
    ⟨imageId', image', buildId', b', hGet', hBuild', rfl⟩
  have hKey := hLawful.one _ _ b b' hBuild hBuild' hSome hSome'
    hImage
  cases hKey
  rw [hGet] at hGet'
  rw [hBuild] at hBuild'
  cases hGet'
  cases hBuild'
  rfl

theorem kept_promoted
    {r : BuildRow}
    (hMem : r ∈ cat.rows)
    (hSome : r.promoted = true) :
    Kept cat.rows r := by
  refine ⟨r, hMem, hSome, rfl, ?_⟩
  unfold BuildRow.kept
  rw [hSome]
  rfl

/- What was registered since the promotion is kept. -/
theorem Lawful.kept_since
    (hLawful : Lawful cat)
    {r : BuildRow}
    (hMem : r ∈ cat.rows)
    (hSince : cat.Since r) :
    Kept cat.rows r := by
  rcases hSince with
    ⟨buildId, p, at', t, hGet, hSome, hAt, hCreated, hLe⟩
  rcases hLawful.promoted _ p hGet hSome with
    ⟨at₀, hAt₀, hBefore⟩
  rw [hAt] at hAt₀
  cases hAt₀
  rcases mem_rows.mp hMem with
    ⟨imageId, image, buildId', b, hImage, hBuild, rfl⟩
  refine ⟨_, mem_rows.mpr
    ⟨imageId, image, buildId, p, hImage, hGet, rfl⟩, hSome,
    rfl, ?_⟩
  unfold BuildRow.kept
  rw [Bool.or_eq_true]
  right
  dsimp only at hCreated ⊢
  rw [hCreated]
  cases hFirst : p.createdAt with
  | none => rfl
  | some first =>
      exact decide_eq_true ((hBefore first hFirst).trans hLe)

/-
  A prune, of whatever catalogue was come to: all that it
  destroys is free to go exactly where the copies of images
  with no promoted build are apart.
-/
theorem prune_spares_iff
    (actions : List Action)
    (ranges : List RangeRow)
    (endpoints : List Endpoint)
    (dryRun : Bool) :
    let cat := Runs.run step fresh actions
    (∀ vm ∈ runPrune cat ranges endpoints dryRun,
        cat.Free (namesInUse ranges) vm) ↔
      ((dryRun || defers ranges) = false →
        ∀ e ∈ endpoints, cat.Apart (namesInUse ranges) e) := by
  intro cat
  have hLawful : Lawful cat := Lawful.run actions
  have hOne := hLawful.onePromoted
  unfold runPrune
  simp only [List.mem_flatMap, mem_pruneCopies]
  constructor
  · intro hFree hDeletes e hEndpoint old hOld vm hTemplate hNow
      hName hStill imageId image hImage hNone hCopy
    by_contra hNot
    unfold Sheltered at hNot
    push Not at hNot
    rcases hNot with ⟨⟨c, hParse, r, hRow, hHas, hBase⟩,
      hUnused, hUnkept⟩
    have hUnstamped
        {note : Option String}
        (hNote : ∀ r ∈ cat.rows, Kept cat.rows r →
          stampOf note ≠ some r.stamp) :
        (prunePolicy cat.rows (namesInUse ranges)).stamped
          note = false := by
      rw [← Bool.not_eq_true, stamped_iff hOne]
      rintro ⟨r, hRow, hKept, hStamp⟩
      exact hNote r hRow hKept hStamp
    refine (hFree vm ⟨e, hEndpoint, hDeletes, old, hOld,
      hTemplate, ?_, hNow, hName, hStill, ?_⟩).unpromoted
        imageId image hImage hNone hCopy
    · refine ⟨⟨c, ?_, ?_⟩, ?_, ?_⟩
      · rw [← hName]
        exact hParse
      · exact mem_managed.mpr ⟨r, hRow, hHas, hBase⟩
      · rw [mem_protected hOne, ← hName]
        rintro (hUsed | ⟨r, hRow, hKept, hCopies⟩)
        · exact hUnused hUsed
        · exact (hUnkept r hRow hKept).1 (.inl hCopies)
      · intro other hOther hCopyTemplate hSame
        apply hUnstamped
        intro r hRow hKept hStamp
        exact (hUnkept r hRow hKept).2 other hOther
          hCopyTemplate (hSame.trans hName.symm) hStamp
    · apply hUnstamped
      intro r hRow hKept hStamp
      exact (hUnkept r hRow hKept).1 (.inr hStamp)
  · rintro hApart vm ⟨e, hEndpoint, hDeletes, old, hOld,
      hTemplate, ⟨⟨c, hParse, hManaged⟩, hUnprotected,
      hUnstamped⟩, hNow, hName, hStill, hStamped⟩
    rw [mem_protected hOne, not_or, ← hName] at hUnprotected
    have hUnkept : ∀ r ∈ cat.rows, Kept cat.rows r →
        ¬ r.CopiedBy vm := by
      intro r hRow hKept
      rintro (hCopies | hStamp)
      · exact hUnprotected.2 ⟨r, hRow, hKept, hCopies⟩
      · rw [(stamped_iff hOne).mpr ⟨r, hRow, hKept, hStamp⟩]
          at hStamped
        cases hStamped
    refine ⟨?_, ?_, hUnprotected.1, ?_⟩
    · intro r hRow hSome
      exact hUnkept r hRow (kept_promoted hRow hSome)
    · intro r hRow hSince
      exact hUnkept r hRow (hLawful.kept_since hRow hSince)
    · intro imageId image hImage hNone hCopy
      rcases hApart hDeletes e hEndpoint old hOld vm hTemplate
          hNow hName hStill imageId image hImage hNone hCopy
        with hBase | hUsed | ⟨r, hRow, hKept, hOwn⟩
      · rcases mem_managed.mp hManaged with
          ⟨r, hRow, hHas, hMem⟩
        rw [← hName] at hParse
        exact hBase c hParse r hRow hHas hMem
      · exact hUnprotected.1 hUsed
      · rcases hOwn with hOwn |
          ⟨other, hOther, hCopyTemplate, hSame, hStamp⟩
        · exact hUnkept r hRow hKept hOwn
        · have hFalse := hUnstamped other hOther hCopyTemplate
            (hSame.trans hName)
          rw [(stamped_iff hOne).mpr ⟨r, hRow, hKept, hStamp⟩]
            at hFalse
          cases hFalse

end

/-
  An image and another of the same catalogue id, of another
  hypervisor: only the other one has a promoted build.
-/
def twoHypervisors : List Action :=
  [.setImage 1 ⟨"srv2022", "srv2022"⟩,
    .setImage 2 ⟨"srv2022", "srv2022"⟩,
    .register 2 "p1" (String.ofList (List.replicate 64 'a'))
      "srv2022" ["srv2022@pve1-20261019"],
    .promote 2 "p1",
    .register 1 "v1" (String.ofList (List.replicate 64 'b'))
      "srv2022" ["srv2022@esx03-20261020"]]

def loneCopy : VmRow where
  vmId := 10
  name := "srv2022@esx03-20261020"
  note := none
  template := true

/- The copy of the image with no promoted build is destroyed. -/
theorem prune_destroys_unpromoted :
    ¬ (∀ vm ∈
          runPrune (Runs.run step fresh twoHypervisors) []
            [⟨[loneCopy], fun _ => some loneCopy⟩] false,
        (Runs.run step fresh twoHypervisors).Free [] vm) := by
  intro hFree
  have hGone :
      loneCopy ∈
        runPrune (Runs.run step fresh twoHypervisors) []
          [⟨[loneCopy], fun _ => some loneCopy⟩] false := by
    decide
  apply (hFree loneCopy hGone).unpromoted 1
    ⟨"srv2022", "srv2022"⟩
  · decide
  · unfold HasPromoted
    decide
  · right
    unfold BuildRow.CopiedBy
    decide

end Catalogue

end TemplateCopies

end TrueNorth
