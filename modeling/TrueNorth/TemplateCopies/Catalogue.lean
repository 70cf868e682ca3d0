import TrueNorth.Lib.Dict
import TrueNorth.Lib.Runs
import TrueNorth.TemplateCopies.Names

/-
  The golden images and their builds, as they are registered
  and promoted (golden_image_builds/service.py).  An image
  that was deleted is not in the catalogue.

  Key definitions include:
    * `Catalogue`
    * `Catalogue.step`
    * `Catalogue.Lawful`

  Main theorem:
    * `Catalogue.Lawful.run`
-/

--------
-- Catalogues
--------

namespace TrueNorth

namespace TemplateCopies

structure Image where
  catalogueId : String
  templateName : String
deriving DecidableEq

/- `copies`: the names that are recorded, of whatever host. -/
structure Build where
  checksum : String
  templateName : String
  copies : List String
  promoted : Bool
  createdAt : Option Int
  promotedAt : Option Int
deriving DecidableEq

/-
  Builds are known by their image and build id, as the unique
  constraint has it.
-/
structure Catalogue where
  clock : Int
  images : Dict Nat Image
  builds : Dict (Nat × String) Build

/- Time passes, or something is done with an image. -/
inductive Action where
| wait (n : Nat)
| setImage (id : Nat) (image : Image)
| register
    (imageId : Nat)
    (buildId checksum templateName : String)
    (copies : List String)
| addCopies
    (imageId : Nat)
    (buildId : String)
    (copies : List String)
| promote (imageId : Nat) (buildId : String)

namespace Catalogue

def fresh : Catalogue where
  clock := 0
  images := .empty
  builds := .empty

/- `record_build`, of a build that is not recorded yet. -/
def register
    (cat : Catalogue)
    (imageId : Nat)
    (buildId checksum templateName : String)
    (copies : List String) : Catalogue :=
  if (cat.images.get? imageId).isNone ||
      (cat.builds.get? (imageId, buildId)).isSome then
    cat
  else
    { cat with
      builds :=
        cat.builds.set (imageId, buildId)
          { checksum := checksum
            templateName := templateName
            copies := copies
            promoted := false
            createdAt := some cat.clock
            promotedAt := none } }

/- `record_build` again: a promoted build never changes. -/
def addCopies
    (cat : Catalogue)
    (imageId : Nat)
    (buildId : String)
    (copies : List String) : Catalogue :=
  match cat.builds.get? (imageId, buildId) with
  | none => cat
  | some build =>
      if build.promoted then
        cat
      else
        { cat with
          builds :=
            cat.builds.set (imageId, buildId)
              { build with copies := build.copies ++ copies } }

/- `promote`: the build promoted before is no more. -/
def promote
    (cat : Catalogue)
    (imageId : Nat)
    (buildId : String) : Catalogue :=
  match cat.builds.get? (imageId, buildId) with
  | none => cat
  | some build =>
      if build.promoted || build.copies = [] then
        cat
      else
        { cat with
          builds :=
            cat.builds.mapValues (fun key b =>
              if key = (imageId, buildId) then
                { b with
                  promoted := true
                  promotedAt := some cat.clock }
              else if key.1 = imageId then
                { b with promoted := false }
              else b) }

def step
    (cat : Catalogue) :
    Action → Catalogue
| .wait n => { cat with clock := cat.clock + n }
| .setImage id image =>
    { cat with images := cat.images.set id image }
| .register imageId buildId checksum templateName copies =>
    cat.register imageId buildId checksum templateName copies
| .addCopies imageId buildId copies =>
    cat.addCopies imageId buildId copies
| .promote imageId buildId => cat.promote imageId buildId

--------
-- Promotions
--------

/-
  One build of an image is promoted, and it was registered
  before it was.
-/
structure Lawful (cat : Catalogue) : Prop where
  registered : ∀ key b t, cat.builds.get? key = some b →
    b.createdAt = some t → t ≤ cat.clock
  promoted : ∀ key b, cat.builds.get? key = some b →
    b.promoted = true →
      ∃ at', b.promotedAt = some at' ∧
        ∀ t, b.createdAt = some t → t ≤ at'
  one : ∀ key key' b b', cat.builds.get? key = some b →
    cat.builds.get? key' = some b' → b.promoted = true →
      b'.promoted = true → key.1 = key'.1 → key = key'

variable {cat : Catalogue}

theorem Lawful.fresh : Lawful .fresh := by
  constructor
  · intro key b t hGet
    cases hGet
  · intro key b hGet
    cases hGet
  · intro key key' b b' hGet
    cases hGet

/- A build that is not promoted is written. -/
theorem Lawful.set
    (hLawful : Lawful cat)
    {key : Nat × String}
    {b : Build}
    (hPromoted : b.promoted = false)
    (hCreated : ∀ t, b.createdAt = some t → t ≤ cat.clock) :
    Lawful { cat with builds := cat.builds.set key b } := by
  have hCases
      {key' : Nat × String}
      {b' : Build}
      (hGet : (cat.builds.set key b).get? key' = some b') :
      b' = b ∨ cat.builds.get? key' = some b' := by
    rw [Dict.get?_set] at hGet
    by_cases hSame : key' = key
    · rw [if_pos hSame] at hGet
      cases hGet
      exact .inl rfl
    · rw [if_neg hSame] at hGet
      exact .inr hGet
  constructor
  · intro key' b' t hGet
    rcases hCases hGet with rfl | hGet
    · exact hCreated t
    · exact hLawful.registered key' b' t hGet
  · intro key' b' hGet hSome
    rcases hCases hGet with rfl | hGet
    · rw [hPromoted] at hSome
      cases hSome
    · exact hLawful.promoted key' b' hGet hSome
  · intro key₁ key₂ b₁ b₂ hGet₁ hGet₂ hSome₁ hSome₂
    rcases hCases hGet₁ with rfl | hGet₁
    · rw [hPromoted] at hSome₁
      cases hSome₁
    · rcases hCases hGet₂ with rfl | hGet₂
      · rw [hPromoted] at hSome₂
        cases hSome₂
      · exact hLawful.one key₁ key₂ b₁ b₂ hGet₁ hGet₂ hSome₁
          hSome₂

theorem Lawful.promote
    (hLawful : Lawful cat)
    (imageId : Nat)
    (buildId : String) :
    Lawful (cat.promote imageId buildId) := by
  unfold Catalogue.promote
  cases hBuild : cat.builds.get? (imageId, buildId) with
  | none => exact hLawful
  | some build =>
      dsimp only
      by_cases hSkip : (build.promoted || build.copies = []) = true
      · rw [if_pos hSkip]
        exact hLawful
      · rw [if_neg hSkip]
        constructor
        · intro key b t hGet hCreated
          rw [Dict.get?_mapValues, Option.map_eq_some_iff]
            at hGet
          rcases hGet with ⟨old, hOld, rfl⟩
          apply hLawful.registered key old t hOld
          rw [← hCreated]
          split
          · rfl
          · split
            · rfl
            · rfl
        · intro key b hGet hSome
          rw [Dict.get?_mapValues, Option.map_eq_some_iff]
            at hGet
          rcases hGet with ⟨old, hOld, rfl⟩
          by_cases hKey : key = (imageId, buildId)
          · rw [if_pos hKey]
            exact ⟨cat.clock, rfl,
              fun t => hLawful.registered key old t hOld⟩
          · rw [if_neg hKey] at hSome ⊢
            by_cases hImage : key.1 = imageId
            · rw [if_pos hImage] at hSome
              cases hSome
            · rw [if_neg hImage] at hSome ⊢
              exact hLawful.promoted key old hOld hSome
        · intro key key' b b' hGet hGet' hSome hSome' hSame
          rw [Dict.get?_mapValues, Option.map_eq_some_iff]
            at hGet hGet'
          rcases hGet with ⟨old, hOld, rfl⟩
          rcases hGet' with ⟨old', hOld', rfl⟩
          by_cases hKey : key = (imageId, buildId)
          · by_cases hKey' : key' = (imageId, buildId)
            · rw [hKey, hKey']
            · rw [if_neg hKey', if_pos (by rw [← hSame, hKey])]
                at hSome'
              cases hSome'
          · rw [if_neg hKey] at hSome
            by_cases hImage : key.1 = imageId
            · rw [if_pos hImage] at hSome
              cases hSome
            · rw [if_neg hImage] at hSome
              have hImage' : key'.1 ≠ imageId := by
                rw [← hSame]
                exact hImage
              rw [if_neg (fun h => hImage' (by rw [h])),
                if_neg hImage'] at hSome'
              exact hLawful.one key key' old old' hOld hOld'
                hSome hSome' hSame

/- What one step preserves. -/
theorem Lawful.step
    (hLawful : Lawful cat)
    (a : Action) :
    Lawful (cat.step a) := by
  cases a with
  | wait n =>
      refine ⟨?_, hLawful.promoted, hLawful.one⟩
      intro key b t hGet hCreated
      have hBefore := hLawful.registered key b t hGet hCreated
      simp only [Catalogue.step]
      omega
  | setImage id image =>
      exact ⟨hLawful.registered, hLawful.promoted, hLawful.one⟩
  | register imageId buildId checksum templateName copies =>
      simp only [Catalogue.step, Catalogue.register]
      split
      · exact hLawful
      · apply hLawful.set rfl
        intro t hCreated
        cases hCreated
        exact Int.le_refl _
  | addCopies imageId buildId copies =>
      simp only [Catalogue.step, Catalogue.addCopies]
      cases hGet : cat.builds.get? (imageId, buildId) with
      | none => exact hLawful
      | some build =>
          dsimp only
          by_cases hPromoted : build.promoted = true
          · rw [if_pos hPromoted]
            exact hLawful
          · rw [if_neg hPromoted]
            apply hLawful.set
            · exact Bool.eq_false_iff.mpr hPromoted
            · exact fun t => hLawful.registered _ build t hGet
  | promote imageId buildId => exact hLawful.promote _ _

/- Every catalogue that is reached is lawful. -/
theorem Lawful.run (actions : List Action) :
    Lawful (Runs.run Catalogue.step .fresh actions) :=
  Runs.run_invariant Lawful (fun _ a hLawful => hLawful.step a)
    .fresh actions

end Catalogue

end TemplateCopies

end TrueNorth
