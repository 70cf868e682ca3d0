import TrueNorth.AuditLog.Archive

/-
  A hash with no collisions: the digest of a file is the
  file, written out.

  Key definitions include:
    * `Digest`
    * `Digest.ofBlob`

  Main theorem:
    * `Digest.ofBlob_injective`
-/

--------
-- Digests Without Collisions
--------

namespace TrueNorth

namespace AuditLog

/- A manifest's digests stand beside what else it says. -/
inductive Digest where
| nothing
| rows (rows : List AuditRow)
| manifest (head : Manifest Unit) (file prev : Digest)
| signature
    (keyId : Nat)
    (head : Manifest Unit)
    (file prev : Digest)
| pem (keyId : Nat)
deriving DecidableEq

namespace Manifest

variable {H : Type}

/- All but the digests. -/
def head (m : Manifest H) : Manifest Unit where
  schemaVersion := m.schemaVersion
  day := m.day
  seq := m.seq
  rowCount := m.rowCount
  firstId := m.firstId
  lastId := m.lastId
  file := m.file
  fileSha := ()
  prev := m.prev.map (fun _ => ())
  keyId := m.keyId
  generatedAt := m.generatedAt

end Manifest

namespace Digest

def ofBlob : Blob Digest → Digest
| .rows rs => .rows rs
| .manifest m =>
    .manifest m.head m.fileSha (m.prev.getD .nothing)
| .signature k m =>
    .signature k m.head m.fileSha (m.prev.getD .nothing)
| .pem k => .pem k

theorem manifest_eq
    {m m' : Manifest Digest}
    (hHead : m.head = m'.head)
    (hFile : m.fileSha = m'.fileSha)
    (hPrev :
      m.prev.getD .nothing = m'.prev.getD .nothing) :
    m = m' := by
  rcases m with ⟨v, d, q, n, f, l, file, sha, prev, k, t⟩
  rcases m' with
    ⟨v', d', q', n', f', l', file', sha', prev', k', t'⟩
  simp only [Manifest.head, Manifest.mk.injEq] at hHead
  rcases hHead with
    ⟨rfl, rfl, rfl, rfl, rfl, rfl, rfl, _, hThere, rfl, rfl⟩
  cases hFile
  cases prev with
  | none =>
      cases prev' with
      | none => rfl
      | some h' => cases hThere
  | some h =>
      cases prev' with
      | none => cases hThere
      | some h' =>
          cases hPrev
          rfl

theorem ofBlob_injective :
    Function.Injective ofBlob := by
  intro b b' hSame
  cases b with
  | rows rs =>
      cases b' with
      | rows rs' =>
          cases hSame
          rfl
      | manifest m' => cases hSame
      | signature k' m' => cases hSame
      | pem k' => cases hSame
  | manifest m =>
      cases b' with
      | manifest m' =>
          simp only [ofBlob, Digest.manifest.injEq] at hSame
          rw [manifest_eq hSame.1 hSame.2.1 hSame.2.2]
      | rows rs' => cases hSame
      | signature k' m' => cases hSame
      | pem k' => cases hSame
  | signature k m =>
      cases b' with
      | signature k' m' =>
          simp only [ofBlob, Digest.signature.injEq] at hSame
          rcases hSame with ⟨rfl, hHead, hFile, hPrev⟩
          rw [manifest_eq hHead hFile hPrev]
      | rows rs' => cases hSame
      | manifest m' => cases hSame
      | pem k' => cases hSame
  | pem k =>
      cases b' with
      | pem k' =>
          cases hSame
          rfl
      | rows rs' => cases hSame
      | manifest m' => cases hSame
      | signature k' m' => cases hSame

end Digest

end AuditLog

end TrueNorth
