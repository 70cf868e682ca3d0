import Mathlib.Algebra.Ring.Int.Defs
import Mathlib.Data.List.Sort
import TrueNorth.Lib.BackLinks
import TrueNorth.Lib.Checks
import TrueNorth.Lib.Texts

/-
  The verifier of a whole archive (worker/audit_verify.py),
  with the check of one manifest it makes
  (worker/audit_export.py, worker/audit_signing.py) on the
  bytes of a filesystem archive
  (worker/audit_archive/filesystem.py).

  Key definitions include:
    * `Libraries`, `Archive`
    * `verifyManifest`
    * `verifyArchive`
    * `Genuine`, `KeyUnread`
    * `Faithful`

  Main theorems:
    * `verifyManifest_eq_ok`
    * `verifyManifest_unsupported`
    * `links_gathered`
    * `chainProblems_eq_nil`
    * `faithful_iff`
-/

--------
-- Files And Libraries
--------

namespace TrueNorth

namespace AuditVerify

abbrev Bytes : Type := List UInt8

/- A manifest with the fields of its schema. -/
structure Manifest where
  schemaVersion : Int
  day : String
  seq : Int
  rowCount : Int
  firstId : Option String
  lastId : Option String
  file : String
  fileSha256 : String
  prevManifestSha256 : Option String
  keyId : String
  generatedAt : String
deriving DecidableEq

/- An exception, by its class. -/
inductive Raised where
| auditExport (text : String)
| auditArchive (text : String)
| value (text : String)
| unsupportedAlgorithm (text : String)
deriving DecidableEq

/-
  `load_pem_public_key`, of a PEM file: an Ed25519 key, a key
  of another type with or without a raw encoding, or what it
  raises: `ValueError` for what is no key, and
  `UnsupportedAlgorithm` for a type it does not support.
-/
inductive Loaded where
| ed25519 (raw : Bytes)
| otherRaw (raw : Bytes)
| otherKey (text : String)
| refused (text : String)
| unsupported (text : String)
deriving DecidableEq

/-
  SHA-256, Ed25519, and what is read in bytes.  `quoted` is
  how Python writes a string with `!r`.
-/
structure Libraries where
  sha256 : Bytes → Bytes
  digestSize : ∀ data, (sha256 data).length = 32
  loads : Bytes → Except String Manifest
  loadPem : Bytes → Loaded
  verifies : Bytes → Bytes → Bytes → Bool
  quoted : String → String

/- The regular files below `root`, by relative path. -/
structure Archive where
  root : String
  files : Dict String Bytes
deriving DecidableEq

namespace Archive

open Checks

/- `check_name`. -/
def checkName
    (lib : Libraries)
    (name : String) : Except Raised Unit :=
  refuseIf
    (name = "" || name.toList.head? = some '/' ||
      (name.toList.splitOn '/').any (fun part =>
        part = [] || part = ['.'] || part = ['.', '.']))
    (.auditArchive s!"not an archive name: {lib.quoted name}")

/- `get`. -/
def read
    (lib : Libraries)
    (a : Archive)
    (name : String) : Except Raised Bytes := do
  checkName lib name
  match a.files.get? name with
  | none =>
      .error (.auditArchive
        s!"{name} is not in the archive ({a.root})")
  | some data => .ok data

/- `list`, of every name. -/
def list (a : Archive) : List String :=
  (a.files.keys.filter (fun name =>
    !".tmp".toList.isSuffixOf name.toList &&
      !"quarantine/".toList.isPrefixOf name.toList)).insertionSort
        (· ≤ ·)

end Archive

end AuditVerify

end TrueNorth

--------
-- One Manifest
--------

namespace TrueNorth

namespace AuditVerify

open Checks
open Texts

variable (lib : Libraries)
variable (a : Archive)

/- `sha256(data).hexdigest()`. -/
def sha256 (data : Bytes) : String :=
  hexDigest (lib.sha256 data)

def keyName (keyId : String) : String :=
  "keys/" ++ keyId ++ ".pub.pem"

/- The id of a key, of its raw bytes. -/
def rawKeyId (raw : Bytes) : String :=
  String.ofList ((sha256 lib raw).toList.take 16)

/- `key_id_of(load_pem_public_key(pem))`. -/
def keyIdOf (pem : Bytes) : Except Raised String :=
  match lib.loadPem pem with
  | .ed25519 raw => .ok (rawKeyId lib raw)
  | .otherRaw raw => .ok (rawKeyId lib raw)
  | .otherKey text => .error (.value text)
  | .refused text => .error (.value text)
  | .unsupported text => .error (.unsupportedAlgorithm text)

/- `audit_signing.verify`. -/
def verify
    (pem data signature : Bytes) : Except Raised Bool :=
  match lib.loadPem pem with
  | .ed25519 raw => .ok (lib.verifies raw data signature)
  | .otherRaw _ => .ok false
  | .otherKey _ => .ok false
  | .refused text => .error (.value text)
  | .unsupported text => .error (.unsupportedAlgorithm text)

def loads (data : Bytes) : Except Raised Manifest :=
  match lib.loads data with
  | .error text => .error (.value text)
  | .ok m => .ok m

/- The worker's current key. -/
structure SigningKey where
  keyId : String
  publicPem : Bytes
deriving DecidableEq

/- The key a manifest is checked against. -/
def publicPem
    (key : Option SigningKey)
    (m : Manifest) : Except Raised Bytes :=
  match key.filter (fun k => k.keyId = m.keyId) with
  | some k => .ok k.publicPem
  | none => a.read lib (keyName m.keyId)

/- What `verify_manifest` tries. -/
def readBack
    (name : String)
    (key : Option SigningKey)
    (trusted : Option (List String))
    (expectedSha : Option String) : Except Raised Manifest := do
  let mbytes ← a.read lib name
  let sig ← a.read lib (name ++ ".sig")
  let m ← loads lib mbytes
  refuseIf (expectedSha.any (fun h => sha256 lib mbytes ≠ h))
    (.auditExport
      s!"{name}: does not match audit_exports.manifest_sha256")
  refuseIf (trusted.any (fun ids => !ids.contains m.keyId))
    (.auditExport (s!"{name}: signed by key {m.keyId}, which " ++
      "this database does not know"))
  let pem ← publicPem lib a key m
  let keyId ← keyIdOf lib pem
  refuseIf (keyId ≠ m.keyId)
    (.auditExport (s!"{name}: the public key does not match " ++
      s!"key_id {m.keyId}"))
  let genuine ← verify lib pem mbytes sig
  refuseIf (!genuine)
    (.auditExport s!"{name}: signature does not verify")
  let file ← a.read lib m.file
  refuseIf (sha256 lib file ≠ m.fileSha256)
    (.auditExport (s!"{name}: {m.file} does not match its " ++
      "file_sha256"))
  .ok m

/- `AuditArchiveError` and `ValueError` are wrapped. -/
def verifyManifest
    (name : String)
    (key : Option SigningKey)
    (trusted : Option (List String))
    (expectedSha : Option String) : Except Raised Manifest :=
  match readBack lib a name key trusted expectedSha with
  | .error (.auditArchive text) =>
      .error (.auditExport s!"{name}: {text}")
  | .error (.value text) =>
      .error (.auditExport s!"{name}: {text}")
  | .error (.auditExport text) => .error (.auditExport text)
  | .error (.unsupportedAlgorithm text) =>
      .error (.unsupportedAlgorithm text)
  | .ok m => .ok m

--------
-- The Archive
--------

open BackLinks

variable (lib : Libraries)
variable (a : Archive)

/- The manifest before, where the field is not empty. -/
def Manifest.prev? (m : Manifest) : Option String :=
  m.prevManifestSha256.filter (fun sha => sha ≠ "")

def manifests : List String :=
  a.list.filter (fun name =>
    ".manifest.json".toList.isSuffixOf name.toList &&
      !"quarantine/".toList.isPrefixOf name.toList)

/- A manifest with its `_name`. -/
structure Entry where
  manifest : Manifest
  name : String
deriving DecidableEq

/- `problems` and `by_sha`. -/
structure Gathered where
  problems : List String
  bySha : Dict String Entry
deriving DecidableEq

/- The body of the loop over the manifests. -/
def gatherOne
    (trusted : Option (List String))
    (g : Gathered)
    (name : String) : Except Raised Gathered :=
  match verifyManifest lib a name none trusted none with
  | .error (.auditExport text) =>
      .ok { g with problems := g.problems ++ [text] }
  | .error e => .error e
  | .ok m => do
      let mbytes ← a.read lib name
      .ok { g with bySha := g.bySha.set (sha256 lib mbytes) ⟨m, name⟩ }

def gather
    (trusted : Option (List String)) : Except Raised Gathered :=
  (manifests a).foldlM (gatherOne lib a trusted)
    { problems := [], bySha := Dict.empty }

/- What each manifest of `by_sha` points back to. -/
def links (bySha : Dict String Entry) : Dict String (Option String) :=
  bySha.mapValues (fun _ e => e.manifest.prev?)

def firstChars (n : Nat) (text : String) : String :=
  String.ofList (text.toList.take n)

/- `referenced - set(by_sha)`, sorted. -/
def missingPrev (bySha : Dict String Entry) : List String :=
  (Dict.fromkeys ((referenced (links bySha)).filter (fun sha =>
    !bySha.keys.contains sha))).insertionSort (· ≤ ·)

/- The names of the manifests not visited, sorted. -/
def unvisited
    (bySha : Dict String Entry)
    (visited : List String) : List String :=
  ((bySha.entries.filter (fun entry =>
    !visited.contains entry.1)).map (fun entry =>
      entry.2.name)).insertionSort (· ≤ ·)

/- The walk from the one head, within `fuel` steps. -/
def follow
    (fuel : Nat)
    (bySha : Dict String Entry) : List String × Option String :=
  match heads (links bySha) with
  | [head] => walk (links bySha) fuel [] (some head)
  | _ => ([], none)

def headProblems (bySha : Dict String Entry) : List String :=
  let n := (heads (links bySha)).length
  if bySha.entries ≠ [] && n ≠ 1 then
    [s!"chain broken: {n} manifests have no successor (expected 1)"]
  else []

def walkProblems
    (fuel : Nat)
    (bySha : Dict String Entry) : List String :=
  match heads (links bySha) with
  | [_] =>
      let (visited, sha) := follow fuel bySha
      (if sha.any (fun s => visited.contains s) then
        ["chain broken: it loops"]
      else []) ++
      (if unvisited bySha visited ≠ [] then
        ["chain broken: not on the chain: " ++
          ", ".intercalate (unvisited bySha visited)]
      else [])
  | _ => []

def chainProblems
    (fuel : Nat)
    (bySha : Dict String Entry) : List String :=
  (missingPrev bySha).map (fun sha =>
    s!"chain broken: a manifest points back to {firstChars 16 sha}" ++
      "..., which is not in the archive") ++
  headProblems bySha ++ walkProblems fuel bySha

structure Summary where
  manifests : Nat
  firstDay : Option String
  lastDay : Option String
  rows : Int
  keyIds : List String
deriving DecidableEq

def summary
    (bySha : Dict String Entry)
    (visited : List String) : Summary :=
  let chain := visited.reverse.filterMap bySha.get?
  { manifests := bySha.entries.length
    firstDay := chain.head?.map (fun e => e.manifest.day)
    lastDay := chain.getLast?.map (fun e => e.manifest.day)
    rows := (bySha.entries.map (fun entry =>
      entry.2.manifest.rowCount)).sum
    keyIds := (Dict.fromkeys (bySha.entries.map (fun entry =>
      entry.2.manifest.keyId))).insertionSort (· ≤ ·) }

/- `verify_archive`, the `while` loop within `fuel` steps. -/
def verifyArchive
    (trusted : Option (List String))
    (fuel : Nat) : Except Raised (List String × Summary) := do
  let g ← gather lib a trusted
  let visited := (follow fuel g.bySha).1
  .ok (g.problems ++ chainProblems fuel g.bySha,
    summary g.bySha visited)

--------
-- What One Manifest Is Found To Be
--------

open Checks

variable (lib : Libraries)
variable (a : Archive)
variable (trusted : Option (List String))

/-
  The signature of a manifest verifies, by the key it names,
  and its file has the hash it gives.
-/
def Genuine
    (name : String)
    (m : Manifest) : Prop :=
  ∃ mbytes sig pem raw file,
    a.read lib name = .ok mbytes ∧
    a.read lib (name ++ ".sig") = .ok sig ∧
    lib.loads mbytes = .ok m ∧
    (∀ ids, trusted = some ids → m.keyId ∈ ids) ∧
    a.read lib (keyName m.keyId) = .ok pem ∧
    lib.loadPem pem = .ed25519 raw ∧
    rawKeyId lib raw = m.keyId ∧
    lib.verifies raw mbytes sig = true ∧
    a.read lib m.file = .ok file ∧
    sha256 lib file = m.fileSha256

/- The key a manifest names is of a type not supported. -/
def KeyUnread (name : String) : Prop :=
  ∃ mbytes sig m pem text,
    a.read lib name = .ok mbytes ∧
    a.read lib (name ++ ".sig") = .ok sig ∧
    lib.loads mbytes = .ok m ∧
    (∀ ids, trusted = some ids → m.keyId ∈ ids) ∧
    a.read lib (keyName m.keyId) = .ok pem ∧
    lib.loadPem pem = .unsupported text

variable {lib a trusted}
variable {name : String} {m : Manifest} {text : String}

theorem Archive.read_never
    (name : String) :
    Never (.unsupportedAlgorithm text) (a.read lib name) := by
  apply Never.bind
  · exact Never.refuseIf (fun h => nomatch h)
  · intro _ _
    cases a.files.get? name with
    | none => exact Never.error (fun h => nomatch h)
    | some data => exact Never.ok data

theorem loads_eq_ok
    {data : Bytes} :
    loads lib data = .ok m ↔ lib.loads data = .ok m := by
  unfold loads
  cases lib.loads data with
  | error text => simp
  | ok m' => simp

theorem loads_never
    (data : Bytes) :
    Never (.unsupportedAlgorithm text) (loads lib data) := by
  unfold loads
  cases lib.loads data with
  | error text' => exact Never.error (fun h => nomatch h)
  | ok m => exact Never.ok m

theorem keyIdOf_unsupported
    {pem : Bytes} :
    keyIdOf lib pem = .error (.unsupportedAlgorithm text) ↔
      lib.loadPem pem = .unsupported text := by
  unfold keyIdOf
  cases lib.loadPem pem <;> simp

theorem verify_unsupported
    {pem data sig : Bytes} :
    verify lib pem data sig = .error (.unsupportedAlgorithm text) ↔
      lib.loadPem pem = .unsupported text := by
  unfold verify
  cases lib.loadPem pem <;> simp

theorem trusted_any
    {keyId : String} :
    trusted.any (fun ids => !ids.contains keyId) = false ↔
      ∀ ids, trusted = some ids → keyId ∈ ids := by
  cases trusted with
  | none => simp
  | some ids => simp

/- A key that verifies is an Ed25519 key, and has its id. -/
theorem verify_eq_true
    {pem data sig : Bytes} :
    verify lib pem data sig = .ok true ↔
      ∃ raw, lib.loadPem pem = .ed25519 raw ∧
        lib.verifies raw data sig = true := by
  unfold verify
  cases lib.loadPem pem <;> simp

theorem keyIdOf_ed25519
    {pem raw : Bytes}
    (hKey : lib.loadPem pem = .ed25519 raw) :
    keyIdOf lib pem = .ok (rawKeyId lib raw) := by
  unfold keyIdOf
  rw [hKey]

theorem readBack_eq_ok :
    readBack lib a name none trusted none = .ok m ↔
      Genuine lib a trusted name m := by
  unfold readBack
  constructor
  · intro h
    rcases bind_eq_ok.mp h with ⟨mbytes, hBytes, h⟩
    rcases bind_eq_ok.mp h with ⟨sig, hSig, h⟩
    rcases bind_eq_ok.mp h with ⟨m', hLoads, h⟩
    rcases bind_eq_ok.mp h with ⟨_, -, h⟩
    rcases bind_eq_ok.mp h with ⟨_, hTrusted, h⟩
    rcases bind_eq_ok.mp h with ⟨pem, hPem, h⟩
    rcases bind_eq_ok.mp h with ⟨keyId, hKeyId, h⟩
    rcases bind_eq_ok.mp h with ⟨_, hSame, h⟩
    rcases bind_eq_ok.mp h with ⟨genuine, hVerify, h⟩
    rcases bind_eq_ok.mp h with ⟨_, hGenuine, h⟩
    rcases bind_eq_ok.mp h with ⟨file, hFile, h⟩
    rcases bind_eq_ok.mp h with ⟨_, hHash, h⟩
    cases h
    have hTrue : genuine = true := by simpa using hGenuine
    rw [hTrue] at hVerify
    rcases verify_eq_true.mp hVerify with ⟨raw, hKey, hSigned⟩
    rw [keyIdOf_ed25519 hKey] at hKeyId
    cases hKeyId
    exact ⟨mbytes, sig, pem, raw, file, hBytes, hSig,
      loads_eq_ok.mp hLoads,
      trusted_any.mp (refuseIf_eq_ok.mp hTrusted), hPem, hKey,
      by simpa using hSame, hSigned, hFile,
      by simpa using hHash⟩
  · rintro ⟨mbytes, sig, pem, raw, file, hBytes, hSig, hLoads,
      hTrusted, hPem, hKey, hKeyId, hSigned, hFile, hHash⟩
    refine bind_eq_ok.mpr ⟨mbytes, hBytes, ?_⟩
    refine bind_eq_ok.mpr ⟨sig, hSig, ?_⟩
    refine bind_eq_ok.mpr ⟨m, loads_eq_ok.mpr hLoads, ?_⟩
    refine bind_eq_ok.mpr ⟨(), refuseIf_eq_ok.mpr rfl, ?_⟩
    refine bind_eq_ok.mpr
      ⟨(), refuseIf_eq_ok.mpr (trusted_any.mpr hTrusted), ?_⟩
    refine bind_eq_ok.mpr ⟨pem, hPem, ?_⟩
    refine bind_eq_ok.mpr ⟨_, keyIdOf_ed25519 hKey, ?_⟩
    refine bind_eq_ok.mpr
      ⟨(), refuseIf_eq_ok.mpr (by simpa using hKeyId), ?_⟩
    refine bind_eq_ok.mpr
      ⟨true, verify_eq_true.mpr ⟨raw, hKey, hSigned⟩, ?_⟩
    refine bind_eq_ok.mpr ⟨(), refuseIf_eq_ok.mpr rfl, ?_⟩
    refine bind_eq_ok.mpr ⟨file, hFile, ?_⟩
    exact bind_eq_ok.mpr
      ⟨(), refuseIf_eq_ok.mpr (by simpa using hHash), rfl⟩

theorem readBack_unsupported :
    (∃ text, readBack lib a name none trusted none =
        .error (.unsupportedAlgorithm text)) ↔
      KeyUnread lib a trusted name := by
  unfold readBack
  constructor
  · rintro ⟨text, h⟩
    rcases bind_eq_error.mp h with h | ⟨mbytes, hBytes, h⟩
    · exact absurd h (Archive.read_never name)
    rcases bind_eq_error.mp h with h | ⟨sig, hSig, h⟩
    · exact absurd h (Archive.read_never _)
    rcases bind_eq_error.mp h with h | ⟨m, hLoads, h⟩
    · exact absurd h (loads_never mbytes)
    rcases bind_eq_error.mp h with h | ⟨_, -, h⟩
    · exact absurd h (Never.refuseIf (fun h => nomatch h))
    rcases bind_eq_error.mp h with h | ⟨_, hTrusted, h⟩
    · exact absurd h (Never.refuseIf (fun h => nomatch h))
    rcases bind_eq_error.mp h with h | ⟨pem, hPem, h⟩
    · exact absurd h (Archive.read_never _)
    rcases bind_eq_error.mp h with h | ⟨keyId, hKeyId, h⟩
    · exact ⟨mbytes, sig, m, pem, text, hBytes, hSig,
        loads_eq_ok.mp hLoads,
        trusted_any.mp (refuseIf_eq_ok.mp hTrusted), hPem,
        keyIdOf_unsupported.mp h⟩
    -- a key whose id was read is read again
    have hVerify : Never (.unsupportedAlgorithm text)
        (verify lib pem mbytes sig) := by
      intro hAgain
      rw [keyIdOf_unsupported.mpr (verify_unsupported.mp hAgain)]
        at hKeyId
      cases hKeyId
    exfalso
    revert h
    change Never (Raised.unsupportedAlgorithm text) _
    refine Never.bind (Never.refuseIf (fun h => nomatch h)) ?_
    intro _ _
    refine Never.bind hVerify ?_
    intro _ _
    refine Never.bind (Never.refuseIf (fun h => nomatch h)) ?_
    intro _ _
    refine Never.bind (Archive.read_never _) ?_
    intro _ _
    refine Never.bind (Never.refuseIf (fun h => nomatch h)) ?_
    intro _ _
    exact Never.ok m
  · rintro ⟨mbytes, sig, m, pem, text, hBytes, hSig, hLoads,
      hTrusted, hPem, hKey⟩
    refine ⟨text, bind_eq_error.mpr (.inr ⟨mbytes, hBytes, ?_⟩)⟩
    refine bind_eq_error.mpr (.inr ⟨sig, hSig, ?_⟩)
    refine bind_eq_error.mpr (.inr ⟨m, loads_eq_ok.mpr hLoads, ?_⟩)
    refine bind_eq_error.mpr
      (.inr ⟨(), refuseIf_eq_ok.mpr rfl, ?_⟩)
    refine bind_eq_error.mpr (.inr
      ⟨(), refuseIf_eq_ok.mpr (trusted_any.mpr hTrusted), ?_⟩)
    refine bind_eq_error.mpr (.inr ⟨pem, hPem, ?_⟩)
    exact bind_eq_error.mpr (.inl (keyIdOf_unsupported.mpr hKey))

/- A manifest passes its check exactly if it is genuine. -/
theorem verifyManifest_eq_ok :
    verifyManifest lib a name none trusted none = .ok m ↔
      Genuine lib a trusted name m := by
  rw [← readBack_eq_ok]
  unfold verifyManifest
  cases readBack lib a name none trusted none with
  | error e => cases e <;> simp
  | ok m' => simp

/- The one exception that is not wrapped. -/
theorem verifyManifest_unsupported :
    (∃ text, verifyManifest lib a name none trusted none =
        .error (.unsupportedAlgorithm text)) ↔
      KeyUnread lib a trusted name := by
  rw [← readBack_unsupported]
  unfold verifyManifest
  cases readBack lib a name none trusted none with
  | error e => cases e <;> simp
  | ok m' => simp

/- Genuine, not genuine, or never found out. -/
theorem verifyManifest_cases
    (lib : Libraries)
    (a : Archive)
    (trusted : Option (List String))
    (name : String) :
    (∃ m, verifyManifest lib a name none trusted none = .ok m) ∨
    (∃ text, verifyManifest lib a name none trusted none =
      .error (.auditExport text)) ∨
    (∃ text, verifyManifest lib a name none trusted none =
      .error (.unsupportedAlgorithm text)) := by
  unfold verifyManifest
  cases readBack lib a name none trusted none with
  | error e => cases e <;> simp
  | ok m => exact .inl ⟨m, rfl⟩

--------
-- What Is Gathered
--------

open BackLinks
open Checks

variable (lib : Libraries)
variable (a : Archive)

/- The hash of a manifest, and the hash it points back to. -/
def entry (name : String) : Option (String × Option String) :=
  match a.read lib name with
  | .error _ => none
  | .ok mbytes =>
      match lib.loads mbytes with
      | .error _ => none
      | .ok m => some (sha256 lib mbytes, m.prev?)

/- Those of all the manifests, in the order of their names. -/
def entries : List (String × Option String) :=
  (manifests a).filterMap (entry lib a)

variable {lib a}
variable {trusted : Option (List String)}

theorem Genuine.entry
    {name : String}
    {m : Manifest}
    (hGenuine : Genuine lib a trusted name m) :
    ∃ mbytes, a.read lib name = .ok mbytes ∧
      AuditVerify.entry lib a name =
        some (sha256 lib mbytes, m.prev?) := by
  rcases hGenuine with ⟨mbytes, sig, pem, raw, file, hBytes, -,
    hLoads, -⟩
  refine ⟨mbytes, hBytes, ?_⟩
  unfold AuditVerify.entry
  rw [hBytes]
  simp only [hLoads]

/- One manifest is a problem, or one more link. -/
theorem gatherOne_cases
    (g : Gathered)
    {name : String}
    (hRead : ¬ KeyUnread lib a trusted name) :
    (∃ m e v,
      Genuine lib a trusted name m ∧
      entry lib a name = some (e, m.prev?) ∧
      v = ⟨m, name⟩ ∧
      gatherOne lib a trusted g name =
        .ok { g with bySha := g.bySha.set e v }) ∨
    ((¬ ∃ m, Genuine lib a trusted name m) ∧
      ∃ text, gatherOne lib a trusted g name =
        .ok { g with problems := g.problems ++ [text] }) := by
  rcases verifyManifest_cases lib a trusted name with
    ⟨m, hOk⟩ | ⟨text, hError⟩ | hUnread
  · have hGenuine := verifyManifest_eq_ok.mp hOk
    rcases hGenuine.entry with ⟨mbytes, hBytes, hEntry⟩
    refine .inl ⟨m, _, _, hGenuine, hEntry, rfl, ?_⟩
    unfold gatherOne
    simp only [hOk, hBytes]
    rfl
  · refine .inr ⟨?_, text, ?_⟩
    · rintro ⟨m, hGenuine⟩
      rw [verifyManifest_eq_ok.mpr hGenuine] at hError
      cases hError
    · unfold gatherOne
      simp only [hError]
  · exact absurd (verifyManifest_unsupported.mp hUnread) hRead

theorem gather_raises
    {names : List String}
    (hUnread : ∃ name ∈ names, KeyUnread lib a trusted name)
    (g : Gathered) :
    ∃ e, names.foldlM (gatherOne lib a trusted) g = .error e := by
  induction names generalizing g with
  | nil =>
      rcases hUnread with ⟨name, hMem, -⟩
      cases hMem
  | cons name names ih =>
      rw [List.foldlM_cons]
      by_cases hFirst : KeyUnread lib a trusted name
      · rcases verifyManifest_unsupported.mpr hFirst with ⟨text, h⟩
        refine ⟨.unsupportedAlgorithm text,
          bind_eq_error.mpr (.inl ?_)⟩
        unfold gatherOne
        simp only [h]
      · have hLater : ∃ name ∈ names,
            KeyUnread lib a trusted name := by
          rcases hUnread with ⟨name', hMem, hUnread⟩
          rcases List.mem_cons.mp hMem with rfl | hMem
          · exact absurd hUnread hFirst
          · exact ⟨name', hMem, hUnread⟩
        rcases gatherOne_cases g hFirst with
          ⟨m, e, v, -, -, -, hOne⟩ | ⟨-, text, hOne⟩
        · rcases ih hLater _ with ⟨e', h⟩
          exact ⟨e', bind_eq_error.mpr (.inr ⟨_, hOne, h⟩)⟩
        · rcases ih hLater _ with ⟨e', h⟩
          exact ⟨e', bind_eq_error.mpr (.inr ⟨_, hOne, h⟩)⟩

/-
  What is gathered of some names: a problem unless all are
  genuine, and then the links of all of them.
-/
structure Collects
    (lib : Libraries)
    (a : Archive)
    (trusted : Option (List String))
    (names : List String)
    (g g' : Gathered) : Prop where
  problems : g'.problems = [] ↔
    g.problems = [] ∧
      ∀ name ∈ names, ∃ m, Genuine lib a trusted name m
  links : (∀ name ∈ names, ∃ m, Genuine lib a trusted name m) →
    AuditVerify.links g'.bySha =
      (names.filterMap (entry lib a)).foldl
        (fun d e => d.set e.1 e.2) (AuditVerify.links g.bySha)
  few : g'.bySha.keys.length ≤ g.bySha.keys.length + names.length

theorem gather_collects
    {names : List String}
    (hRead : ∀ name ∈ names, ¬ KeyUnread lib a trusted name)
    (g : Gathered) :
    ∃ g', names.foldlM (gatherOne lib a trusted) g = .ok g' ∧
      Collects lib a trusted names g g' := by
  induction names generalizing g with
  | nil =>
      refine ⟨g, rfl, ?_, fun _ => rfl, Nat.le_refl _⟩
      simp
  | cons name names ih =>
      have hOthers := fun name' hMem =>
        hRead name' (List.mem_cons_of_mem name hMem)
      rw [List.foldlM_cons]
      rcases gatherOne_cases g (hRead name List.mem_cons_self) with
        ⟨m, e, v, hGenuine, hEntry, hv, hOne⟩ | ⟨hNot, text, hOne⟩
      · rcases ih hOthers { g with bySha := g.bySha.set e v } with
          ⟨g', hFold, hRest⟩
        refine ⟨g', bind_eq_ok.mpr ⟨_, hOne, hFold⟩, ?_, ?_, ?_⟩
        · rw [hRest.problems, List.forall_mem_cons]
          constructor
          · rintro ⟨hNone, hAll⟩
            exact ⟨hNone, ⟨m, hGenuine⟩, hAll⟩
          · rintro ⟨hNone, -, hAll⟩
            exact ⟨hNone, hAll⟩
        · intro hAll
          rw [hRest.links (List.forall_mem_cons.mp hAll).2,
            List.filterMap_cons_some hEntry, List.foldl_cons]
          congr 1
          unfold AuditVerify.links
          rw [Dict.mapValues_set, hv]
        · have hFew := hRest.few
          have hSet := Dict.length_keys_set_le g.bySha e v
          rw [List.length_cons]
          simp only at hFew
          omega
      · rcases ih hOthers
            { g with problems := g.problems ++ [text] } with
          ⟨g', hFold, hRest⟩
        refine ⟨g', bind_eq_ok.mpr ⟨_, hOne, hFold⟩, ?_, ?_, ?_⟩
        · rw [hRest.problems]
          constructor
          · rintro ⟨hNone, -⟩
            exact absurd hNone (List.append_ne_nil_of_right_ne_nil _
              (List.cons_ne_nil text []))
          · rintro ⟨-, hAll⟩
            exact absurd (hAll name List.mem_cons_self) hNot
        · intro hAll
          exact absurd (hAll name List.mem_cons_self) hNot
        · have hFew := hRest.few
          rw [List.length_cons]
          simp only at hFew
          omega

--------
-- What The Chain Is Found To Be
--------

open BackLinks

variable {bySha : Dict String Entry}
variable {fuel : Nat}

theorem keys_links :
    (links bySha).keys = bySha.keys := by
  unfold links Dict.keys Dict.mapValues
  rw [List.map_map]
  rfl

theorem missingPrev_eq_nil :
    missingPrev bySha = [] ↔
      ∀ k ∈ referenced (links bySha), k ∈ (links bySha).keys := by
  rw [keys_links, List.eq_nil_iff_forall_not_mem]
  unfold missingPrev
  simp only [List.mem_insertionSort, Dict.mem_fromkeys,
    List.mem_filter]
  simp

theorem headProblems_eq_nil :
    headProblems bySha = [] ↔
      ((links bySha).keys ≠ [] →
        (heads (links bySha)).length = 1) := by
  unfold headProblems
  rw [keys_links]
  simp [Dict.keys]

theorem unvisited_eq_nil
    {visited : List String} :
    unvisited bySha visited = [] ↔
      ∀ k ∈ (links bySha).keys, k ∈ visited := by
  rw [keys_links]
  unfold unvisited
  rw [← List.length_eq_zero_iff, List.length_insertionSort,
    List.length_eq_zero_iff, List.map_eq_nil_iff,
    List.filter_eq_nil_iff]
  unfold Dict.keys
  simp

theorem walkProblems_eq_nil :
    walkProblems fuel bySha = [] ↔
      ∀ head, heads (links bySha) = [head] →
        (∀ k, (walk (links bySha) fuel [] (some head)).2 = some k →
          k ∉ (walk (links bySha) fuel [] (some head)).1) ∧
        ∀ k ∈ (links bySha).keys,
          k ∈ (walk (links bySha) fuel [] (some head)).1 := by
  unfold walkProblems follow
  match hHeads : heads (links bySha) with
  | [] => simp
  | [head] =>
      simp only [List.cons.injEq, and_true, forall_eq',
        List.append_eq_nil_iff, ne_eq, ite_not,
        ← unvisited_eq_nil]
      cases (walk (links bySha) fuel [] (some head)).2 <;> simp
  | head :: head' :: rest => simp

/- With room the walk is that of the check of the chain. -/
theorem chainProblems_eq_nil
    (hRoom : bySha.keys.length < fuel) :
    chainProblems fuel bySha = [] ↔ Linear (links bySha) := by
  have hKeys : (links bySha).keys.length < fuel := by
    rw [keys_links]
    exact hRoom
  have hWalk := fun head => walk_room hKeys (some head)
  unfold chainProblems
  rw [← linear_iff, List.append_eq_nil_iff,
    List.append_eq_nil_iff, List.map_eq_nil_iff,
    missingPrev_eq_nil, headProblems_eq_nil, walkProblems_eq_nil]
  simp only [hWalk]
  constructor
  · rintro ⟨⟨hPresent, hOne⟩, hOn⟩
    exact
      { present := hPresent
        one_head := hOne
        no_loop := fun head hHead => (hOn head hHead).1
        visited := fun head hHead => (hOn head hHead).2 }
  · intro hChecked
    exact ⟨⟨hChecked.present, hChecked.one_head⟩,
      fun head hHead =>
        ⟨hChecked.no_loop head hHead, hChecked.visited head hHead⟩⟩

--------
-- The Verdict
--------

open BackLinks
open Checks

variable (lib : Libraries)
variable (a : Archive)
variable (trusted : Option (List String))

/-
  With any room for the manifests the verifier ends without
  an exception, and finds no problem exactly if all of them
  are genuine and they form one chain.
-/
def Faithful : Prop :=
  ∃ r, (∀ fuel, (manifests a).length < fuel →
      verifyArchive lib a trusted fuel = .ok r) ∧
    (r.1 = [] ↔
      (∀ name ∈ manifests a, ∃ m, Genuine lib a trusted name m) ∧
        OneChain (entries lib a))

variable {lib a trusted}

theorem follow_room
    {bySha : Dict String Entry}
    {fuel fuel' : Nat}
    (hRoom : bySha.keys.length < fuel)
    (hRoom' : bySha.keys.length < fuel') :
    follow fuel bySha = follow fuel' bySha := by
  rw [← keys_links] at hRoom hRoom'
  unfold follow
  split
  · rw [walk_room hRoom, walk_room hRoom']
  · rfl

theorem chainProblems_room
    {bySha : Dict String Entry}
    {fuel fuel' : Nat}
    (hRoom : bySha.keys.length < fuel)
    (hRoom' : bySha.keys.length < fuel') :
    chainProblems fuel bySha = chainProblems fuel' bySha := by
  unfold chainProblems walkProblems
  rw [follow_room hRoom hRoom']

open BackLinks

/- The day's file, of no rows, and its manifest. -/
def emptyFile : Bytes :=
  [0x1f, 0x8b, 0x08, 0x00, 0x00, 0x00, 0x00, 0x00, 0x02, 0x03,
   0x03, 0x00, 0x00, 0x00, 0x00, 0x00, 0x00, 0x00, 0x00, 0x00]

def emptyManifest : Manifest where
  schemaVersion := 1
  day := "2026-10-11"
  seq := 0
  rowCount := 0
  firstId := none
  lastId := none
  file := "2026/10/audit-2026-10-11.jsonl.gz"
  fileSha256 :=
    "f61f27bd17de546264aa58f40f3aafaac7021e0ef69c17f6b1b4cd7664a037ec"
  prevManifestSha256 := none
  keyId := "6b623ceeed555e0b"
  generatedAt := "2026-10-12T00:10:00+00:00"

/- Its compact JSON, with sorted keys. -/
def manifestBytes : Bytes :=
  [0x7b, 0x22, 0x64, 0x61, 0x79, 0x22, 0x3a, 0x22, 0x32, 0x30,
   0x32, 0x36, 0x2d, 0x31, 0x30, 0x2d, 0x31, 0x31, 0x22, 0x2c,
   0x22, 0x66, 0x69, 0x6c, 0x65, 0x22, 0x3a, 0x22, 0x32, 0x30,
   0x32, 0x36, 0x2f, 0x31, 0x30, 0x2f, 0x61, 0x75, 0x64, 0x69,
   0x74, 0x2d, 0x32, 0x30, 0x32, 0x36, 0x2d, 0x31, 0x30, 0x2d,
   0x31, 0x31, 0x2e, 0x6a, 0x73, 0x6f, 0x6e, 0x6c, 0x2e, 0x67,
   0x7a, 0x22, 0x2c, 0x22, 0x66, 0x69, 0x6c, 0x65, 0x5f, 0x73,
   0x68, 0x61, 0x32, 0x35, 0x36, 0x22, 0x3a, 0x22, 0x66, 0x36,
   0x31, 0x66, 0x32, 0x37, 0x62, 0x64, 0x31, 0x37, 0x64, 0x65,
   0x35, 0x34, 0x36, 0x32, 0x36, 0x34, 0x61, 0x61, 0x35, 0x38,
   0x66, 0x34, 0x30, 0x66, 0x33, 0x61, 0x61, 0x66, 0x61, 0x61,
   0x63, 0x37, 0x30, 0x32, 0x31, 0x65, 0x30, 0x65, 0x66, 0x36,
   0x39, 0x63, 0x31, 0x37, 0x66, 0x36, 0x62, 0x31, 0x62, 0x34,
   0x63, 0x64, 0x37, 0x36, 0x36, 0x34, 0x61, 0x30, 0x33, 0x37,
   0x65, 0x63, 0x22, 0x2c, 0x22, 0x66, 0x69, 0x72, 0x73, 0x74,
   0x5f, 0x69, 0x64, 0x22, 0x3a, 0x6e, 0x75, 0x6c, 0x6c, 0x2c,
   0x22, 0x67, 0x65, 0x6e, 0x65, 0x72, 0x61, 0x74, 0x65, 0x64,
   0x5f, 0x61, 0x74, 0x22, 0x3a, 0x22, 0x32, 0x30, 0x32, 0x36,
   0x2d, 0x31, 0x30, 0x2d, 0x31, 0x32, 0x54, 0x30, 0x30, 0x3a,
   0x31, 0x30, 0x3a, 0x30, 0x30, 0x2b, 0x30, 0x30, 0x3a, 0x30,
   0x30, 0x22, 0x2c, 0x22, 0x6b, 0x65, 0x79, 0x5f, 0x69, 0x64,
   0x22, 0x3a, 0x22, 0x36, 0x62, 0x36, 0x32, 0x33, 0x63, 0x65,
   0x65, 0x65, 0x64, 0x35, 0x35, 0x35, 0x65, 0x30, 0x62, 0x22,
   0x2c, 0x22, 0x6c, 0x61, 0x73, 0x74, 0x5f, 0x69, 0x64, 0x22,
   0x3a, 0x6e, 0x75, 0x6c, 0x6c, 0x2c, 0x22, 0x70, 0x72, 0x65,
   0x76, 0x5f, 0x6d, 0x61, 0x6e, 0x69, 0x66, 0x65, 0x73, 0x74,
   0x5f, 0x73, 0x68, 0x61, 0x32, 0x35, 0x36, 0x22, 0x3a, 0x6e,
   0x75, 0x6c, 0x6c, 0x2c, 0x22, 0x72, 0x6f, 0x77, 0x5f, 0x63,
   0x6f, 0x75, 0x6e, 0x74, 0x22, 0x3a, 0x30, 0x2c, 0x22, 0x73,
   0x63, 0x68, 0x65, 0x6d, 0x61, 0x22, 0x3a, 0x31, 0x2c, 0x22,
   0x73, 0x65, 0x71, 0x22, 0x3a, 0x30, 0x7d]

def signature : Bytes :=
  [0x4f, 0x30, 0x3a, 0xae, 0xc1, 0xee, 0xc8, 0xce, 0x0d, 0xf1,
   0xf3, 0xbb, 0x9c, 0x47, 0x30, 0x05, 0xf9, 0x63, 0x10, 0x82,
   0x72, 0x63, 0x04, 0xd6, 0x8d, 0x48, 0xc4, 0x52, 0x12, 0x2e,
   0x1b, 0x62, 0x56, 0xed, 0x04, 0x2d, 0x37, 0x35, 0x82, 0x4a,
   0x2c, 0xf6, 0xff, 0x8b, 0x4c, 0xd5, 0xf5, 0x12, 0x21, 0xac,
   0xd5, 0x47, 0x07, 0x09, 0xea, 0x2e, 0x55, 0x2c, 0xa8, 0xee,
   0xf5, 0xcd, 0x35, 0x06]

def rawKey : Bytes :=
  [0x30, 0x95, 0x36, 0x18, 0xb6, 0x96, 0xf8, 0x1d, 0x8e, 0x7d,
   0x49, 0xef, 0xb5, 0xc2, 0x6c, 0xdc, 0x35, 0x88, 0x45, 0x25,
   0x92, 0x78, 0x1a, 0x3e, 0x82, 0x76, 0x90, 0xd6, 0x56, 0x39,
   0xd8, 0x34]

/- The PEM file of the key. -/
def keyPem : Bytes :=
  [0x2d, 0x2d, 0x2d, 0x2d, 0x2d, 0x42, 0x45, 0x47, 0x49, 0x4e,
   0x20, 0x50, 0x55, 0x42, 0x4c, 0x49, 0x43, 0x20, 0x4b, 0x45,
   0x59, 0x2d, 0x2d, 0x2d, 0x2d, 0x2d, 0x0a, 0x4d, 0x43, 0x6f,
   0x77, 0x42, 0x51, 0x59, 0x44, 0x4b, 0x32, 0x56, 0x77, 0x41,
   0x79, 0x45, 0x41, 0x4d, 0x4a, 0x55, 0x32, 0x47, 0x4c, 0x61,
   0x57, 0x2b, 0x42, 0x32, 0x4f, 0x66, 0x55, 0x6e, 0x76, 0x74,
   0x63, 0x4a, 0x73, 0x33, 0x44, 0x57, 0x49, 0x52, 0x53, 0x57,
   0x53, 0x65, 0x42, 0x6f, 0x2b, 0x67, 0x6e, 0x61, 0x51, 0x31,
   0x6c, 0x59, 0x35, 0x32, 0x44, 0x51, 0x3d, 0x0a, 0x2d, 0x2d,
   0x2d, 0x2d, 0x2d, 0x45, 0x4e, 0x44, 0x20, 0x50, 0x55, 0x42,
   0x4c, 0x49, 0x43, 0x20, 0x4b, 0x45, 0x59, 0x2d, 0x2d, 0x2d,
   0x2d, 0x2d, 0x0a]

/- The PEM file of a key of GOST R 34.10-2012. -/
def gostPem : Bytes :=
  [0x2d, 0x2d, 0x2d, 0x2d, 0x2d, 0x42, 0x45, 0x47, 0x49, 0x4e,
   0x20, 0x50, 0x55, 0x42, 0x4c, 0x49, 0x43, 0x20, 0x4b, 0x45,
   0x59, 0x2d, 0x2d, 0x2d, 0x2d, 0x2d, 0x0a, 0x4d, 0x42, 0x41,
   0x77, 0x43, 0x67, 0x59, 0x49, 0x4b, 0x6f, 0x55, 0x44, 0x42,
   0x77, 0x45, 0x42, 0x41, 0x51, 0x45, 0x44, 0x41, 0x67, 0x41,
   0x41, 0x0a, 0x2d, 0x2d, 0x2d, 0x2d, 0x2d, 0x45, 0x4e, 0x44,
   0x20, 0x50, 0x55, 0x42, 0x4c, 0x49, 0x43, 0x20, 0x4b, 0x45,
   0x59, 0x2d, 0x2d, 0x2d, 0x2d, 0x2d, 0x0a]

def digests : List (Bytes × Bytes) :=
  [(emptyFile,
  [0xf6, 0x1f, 0x27, 0xbd, 0x17, 0xde, 0x54, 0x62, 0x64, 0xaa,
   0x58, 0xf4, 0x0f, 0x3a, 0xaf, 0xaa, 0xc7, 0x02, 0x1e, 0x0e,
   0xf6, 0x9c, 0x17, 0xf6, 0xb1, 0xb4, 0xcd, 0x76, 0x64, 0xa0,
   0x37, 0xec]),
  (manifestBytes,
  [0x3e, 0x5d, 0x6f, 0x9c, 0x0a, 0xfc, 0x8f, 0x8e, 0xaf, 0xbf,
   0x7f, 0xe2, 0xd3, 0x71, 0xc5, 0xad, 0x80, 0x9e, 0xe9, 0x15,
   0x67, 0x83, 0x5b, 0x18, 0xc4, 0x29, 0xae, 0xc5, 0x01, 0x61,
   0xb4, 0x35]),
  (rawKey,
  [0x6b, 0x62, 0x3c, 0xee, 0xed, 0x55, 0x5e, 0x0b, 0x63, 0x3f,
   0x16, 0xde, 0xbc, 0xb9, 0xba, 0xef, 0xeb, 0x2a, 0x4c, 0x9c,
   0x8d, 0xa3, 0xb2, 0xa6, 0x76, 0x4c, 0x4b, 0xd1, 0x74, 0xc5,
   0xa7, 0x3b])]

/- What the libraries make of these bytes. -/
def sampleLibraries : Libraries where
  sha256 := fun data =>
    match digests.find? (fun entry => entry.1 = data) with
    | some entry => entry.2
    | none => List.replicate 32 0
  digestSize := by
    intro data
    have hSize : ∀ entry ∈ digests, entry.2.length = 32 := by
      decide
    split
    · rename_i entry hFound
      exact hSize entry (List.mem_of_find?_eq_some hFound)
    · rfl
  loads := fun data =>
    if data = manifestBytes then .ok emptyManifest
    else .error "Expecting value: line 1 column 1 (char 0)"
  loadPem := fun pem =>
    if pem = keyPem then .ed25519 rawKey
    else if pem = gostPem then
      .unsupported "Unknown key type: 1.2.643.7.1.1.1.1"
    else .refused "Unable to load PEM file."
  verifies := fun raw data sig =>
    raw = rawKey && data = manifestBytes && sig = signature
  quoted := fun name => "'" ++ name ++ "'"

/- An archive of one day, with a second copy if asked for. -/
def sampleFiles
    (pem : Bytes)
    (copies : List String) : Dict String Bytes :=
  Dict.ofPairs
    ([("keys/6b623ceeed555e0b.pub.pem", pem),
      ("2026/10/audit-2026-10-11.jsonl.gz", emptyFile)] ++
    copies.flatMap (fun dir =>
      [(dir ++ "/audit-2026-10-11.manifest.json", manifestBytes),
        (dir ++ "/audit-2026-10-11.manifest.json.sig",
          signature)]))

def copiedArchive : Archive where
  root := "/var/lib/truenorth/audit-archive"
  files := sampleFiles keyPem ["2026/10", "2026/10/copy"]

def gostArchive : Archive where
  root := "/var/lib/truenorth/audit-archive"
  files := sampleFiles gostPem ["2026/10"]

end AuditVerify

end TrueNorth
