import TrueNorth.Lib.Successions
import TrueNorth.AuditLog.Archive

/-
  The chain of exports: each is signed over the digest of the
  manifest before it, so that none can be taken out.

  Key definitions include:
    * `byManifest`
    * `Chained`

  Main theorems:
    * `Site.chainHead_of_chained`
    * `Chained.append`
    * `Chained.linked`
-/

--------
-- The Chain
--------

namespace TrueNorth

namespace AuditLog

open Successions

variable {H : Type}

/- An export comes after the manifest it points back to. -/
def byManifest : Reading (Export H) H Unit Unit where
  ident := Export.manifestSha
  replaces := Export.prev
  series := fun _ => ()
  traits := fun _ => ()

/- Each export came after the last one there was. -/
def Chained (exports : List (Export H)) : Prop :=
  Histories.Lawful byManifest.Follows exports

theorem group_byManifest
    (exports : List (Export H)) :
    byManifest.group exports () = exports := by
  unfold Reading.group
  apply List.filter_eq_self.mpr
  intro e _
  rfl

namespace Chained

variable {exports : List (Export H)}

/- The first has no manifest before it, the others have. -/
theorem linked
    (hChained : Chained exports) :
    byManifest.Linked exports := by
  have hLinked := Reading.linked_of_lawful hChained ()
  rw [group_byManifest] at hLinked
  exact hLinked

theorem nodup
    (hChained : Chained exports) :
    (exports.map Export.manifestSha).Nodup := by
  induction hChained with
  | nil => exact List.nodup_nil
  | @snoc log e hLog hFollows ih =>
      rw [List.map_append, List.map_singleton,
        List.nodup_append]
      refine ⟨ih, List.nodup_singleton _, ?_⟩
      intro h hMem h' hLast hSame
      rcases List.mem_map.mp hMem with ⟨a, ha, rfl⟩
      rw [List.mem_singleton] at hLast
      exact hFollows.fresh a ha (hSame.trans hLast)

end Chained

end AuditLog

end TrueNorth

--------
-- Its Head
--------

namespace TrueNorth

namespace AuditLog

open Successions

variable {H : Type} [DecidableEq H]

namespace Site

variable {s : Site H}

theorem mem_heads
    {h : H} :
    h ∈ s.heads ↔
      ∃ e ∈ s.exports, e.manifestSha = h ∧
        byManifest.Current s.exports e := by
  unfold heads
  rw [List.mem_filter, List.mem_map, Bool.not_eq_true',
    ← Bool.not_eq_true, List.contains_iff_mem, List.mem_filterMap]
  constructor
  · rintro ⟨⟨e, hMem, rfl⟩, hNone⟩
    refine ⟨e, hMem, rfl, ?_⟩
    intro b hb hPrev
    exact hNone ⟨b, hb, hPrev⟩
  · rintro ⟨e, hMem, rfl, hCurrent⟩
    refine ⟨⟨e, hMem, rfl⟩, ?_⟩
    rintro ⟨b, hb, hPrev⟩
    exact hCurrent b hb hPrev

/- The chain has one end. -/
theorem heads_of_chained
    (hChained : Chained s.exports)
    (hSome : s.exports ≠ []) :
    ∃ head, s.heads = [head] := by
  rcases Reading.current_of_lawful hChained
      (k := ()) (by rw [group_byManifest]; exact hSome) with
    ⟨last, ⟨hMem, hCurrent⟩, hOnly⟩
  rw [group_byManifest] at hMem hOnly
  have hNodup : s.heads.Nodup :=
    hChained.nodup.filter _
  have hHead : last.manifestSha ∈ s.heads :=
    mem_heads.mpr ⟨last, hMem, rfl, hCurrent⟩
  have hAll : ∀ h ∈ s.heads, h = last.manifestSha := by
    intro h hh
    rcases mem_heads.mp hh with ⟨e, he, rfl, hCurrent'⟩
    rw [hOnly e ⟨he, hCurrent'⟩]
  refine ⟨last.manifestSha, ?_⟩
  cases hHeads : s.heads with
  | nil =>
      rw [hHeads] at hHead
      cases hHead
  | cons h hs =>
      rw [hHeads] at hNodup hAll
      have hFirst := hAll h List.mem_cons_self
      cases hs with
      | nil => rw [hFirst]
      | cons h' hs =>
          have hSecond := hAll h'
            (List.mem_cons_of_mem _ List.mem_cons_self)
          rw [hFirst, hSecond] at hNodup
          exact absurd List.mem_cons_self
            (List.nodup_cons.mp hNodup).1

theorem chainHead_of_chained
    (hChained : Chained s.exports) :
    ∃ prev, s.chainHead = .ok prev := by
  unfold chainHead
  by_cases hNone : s.exports.isEmpty = true
  · rw [if_pos hNone]
    exact ⟨none, rfl⟩
  · rw [if_neg hNone]
    rw [List.isEmpty_iff] at hNone
    rcases heads_of_chained hChained hNone with ⟨head, hHeads⟩
    rw [hHeads]
    exact ⟨some head, rfl⟩

/- An export signed over the head goes on with the chain. -/
theorem follows_head
    {prev : Option H}
    (hHead : s.chainHead = .ok prev)
    {e : Export H}
    (hPrev : e.prev = prev)
    (hFresh : ∀ a ∈ s.exports,
      a.manifestSha ≠ e.manifestSha) :
    byManifest.Follows s.exports e := by
  unfold chainHead at hHead
  by_cases hNone : s.exports.isEmpty = true
  · rw [if_pos hNone] at hHead
    cases hHead
    rw [List.isEmpty_iff] at hNone
    constructor
    case fresh => exact hFresh
    case first =>
      intro _ a ha
      rw [hNone] at ha
      cases ha
    case next =>
      intro i hSome
      have hAbsurd := hPrev.symm.trans hSome
      cases hAbsurd
  · rw [if_neg hNone] at hHead
    cases hHeads : s.heads with
    | nil =>
        rw [hHeads] at hHead
        cases hHead
    | cons head hs =>
        cases hs with
        | cons h' hs =>
            rw [hHeads] at hHead
            cases hHead
        | nil =>
            rw [hHeads] at hHead
            cases hHead
            have hMem : head ∈ s.heads := by
              rw [hHeads]
              exact List.mem_cons_self
            rcases mem_heads.mp hMem with
              ⟨last, hLast, rfl, hCurrent⟩
            constructor
            case fresh => exact hFresh
            case first =>
              intro hFirst
              have hAbsurd := hPrev.symm.trans hFirst
              cases hAbsurd
            case next =>
              intro i hSome
              have hSame := hPrev.symm.trans hSome
              cases hSame
              exact ⟨last, hLast, rfl, rfl, rfl, hCurrent⟩

end Site

theorem Chained.append
    {s : Site H}
    (hChained : Chained s.exports)
    {prev : Option H}
    (hHead : s.chainHead = .ok prev)
    {e : Export H}
    (hPrev : e.prev = prev)
    (hFresh : ∀ a ∈ s.exports,
      a.manifestSha ≠ e.manifestSha) :
    Chained (s.exports ++ [e]) :=
  .snoc hChained (Site.follows_head hHead hPrev hFresh)

end AuditLog

end TrueNorth
