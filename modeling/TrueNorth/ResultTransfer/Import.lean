import TrueNorth.Lib.Checks
import TrueNorth.Lib.Dict
import TrueNorth.Lib.Runs

/-
  Results from another enclave, imported on the Secret side
  (result_transfer/service.py `bind_subject`,
  `import_result`; media.py `consume_package`).

  A package arrives verified and decrypted (contract.py), or
  refused there: what verification and decryption gave comes
  with it.

  Key definitions include:
    * `ResultClaim`, `DecryptedResult`
    * `Ledger`
    * `Ledger.bindSubject`
    * `Ledger.importResult`
    * `Ledger.consumePackage`
-/

--------
-- Packages
--------

namespace TrueNorth

namespace ResultTransfer

abbrev Uuid : Type := Nat

/- Lowercase SHA-256 hex. -/
def isSha256 (text : String) : Bool :=
  text.length = 64 &&
    text.toList.all (fun c => "0123456789abcdef".toList.contains c)

inductive Outcome where
| pass
| fail
deriving DecidableEq

def Outcome.value : Outcome → String
| pass => "pass"
| fail => "fail"

/- `ResultClaim`: the private result, as it was validated. -/
structure ResultClaim where
  opaqueSubjectId : Uuid
  tenantId : Uuid
  courseReleaseId : Uuid
  assessmentId : String
  attemptId : Uuid
  rawScore : Nat
  maxScore : Nat
  outcome : Outcome
  scorerVersion : String
  evidenceSha256 : List String
  supersedesPackageId : Option Uuid
  occurredAt : Int
  hAssessment :
    1 ≤ assessmentId.length ∧ assessmentId.length ≤ 255
  hScorer :
    1 ≤ scorerVersion.length ∧ scorerVersion.length ≤ 100
  hMax : 0 < maxScore
  hScore : rawScore ≤ maxScore
  hCount : evidenceSha256.length ≤ 1000
  hEvidence : evidenceSha256.all isSha256 = true

structure DecryptedResult where
  packageId : Uuid
  sourceEnclave : String
  destinationEnclave : String
  claim : ResultClaim

/-
  Why a request fails: refused, two rows where there is to
  be one, or a row the database does not take.
-/
inductive Refusal where
| transfer (message : String)
| multipleResults
| integrity
deriving DecidableEq

--------
-- The Secret Side
--------

/- What this deployment is; an unsafe setting is its text. -/
structure Settings where
  classificationLevel : Except String String
  enclaveId : Except String String

structure ResultSubjectBinding where
  tenantId : Uuid
  sourceEnclave : String
  opaqueSubjectId : Uuid
  userId : Uuid
  active : Bool
deriving DecidableEq

structure ImportedResult where
  packageId : Uuid
  packageSha256 : String
  tenantId : Uuid
  subjectBindingId : Uuid
  userId : Uuid
  sourceEnclave : String
  courseReleaseId : Uuid
  assessmentId : String
  attemptId : Uuid
  rawScore : Nat
  maxScore : Nat
  outcome : String
  scorerVersion : String
  evidenceSha256Json : String
  supersedesPackageId : Option Uuid
  occurredAt : Int
deriving DecidableEq

/-
  `users`: the tenant of each user.  `releases`: the tenant
  a course release is for, none for every tenant's.
  `receipts`: the hash of every package consumed
  (`FileConsumptionLedger`).
-/
structure Ledger where
  users : Dict Uuid Uuid
  releases : Dict Uuid (Option Uuid)
  bindings : Dict Uuid ResultSubjectBinding
  results : List ImportedResult
  receipts : Dict Uuid String

/- No result has been imported. -/
def Ledger.fresh
    (users : Dict Uuid Uuid)
    (releases : Dict Uuid (Option Uuid))
    (bindings : Dict Uuid ResultSubjectBinding) :
    Ledger where
  users := users
  releases := releases
  bindings := bindings
  results := []
  receipts := .empty

--------
-- Subjects
--------

open Checks

/- `one_or_none`. -/
def oneOrNone
    {A : Type} :
    List A → Except Refusal (Option A)
| [] => .ok none
| [a] => .ok (some a)
| _ => .error .multipleResults

/- A setting that is safe to use. -/
def safe
    {A : Type} :
    Except String A → Except Refusal A
| .ok a => .ok a
| .error message => .error (.transfer message)

/- `_require_secret`. -/
def requireSecret (cfg : Settings) : Except Refusal Unit := do
  let level ← safe cfg.classificationLevel
  refuseIf (!(["secret", "top_secret"].contains level))
    (.transfer
      "subject mappings and readable grades require a Secret-side deployment")

namespace Ledger

/- `bind_subject`; `newId` is the id a new row is given. -/
def bindSubject
    (cfg : Settings)
    (w : Ledger)
    (newId tenantId : Uuid)
    (sourceEnclave : String)
    (opaqueSubjectId userId : Uuid) :
    Except Refusal (Uuid × Ledger) := do
  requireSecret cfg
  refuseIf (w.users.get? userId ≠ some tenantId)
    (.transfer
      "subject binding user does not belong to the destination tenant")
  let existing ← oneOrNone (w.bindings.entries.filter (fun b =>
    b.2.tenantId = tenantId &&
      b.2.sourceEnclave = sourceEnclave &&
      b.2.opaqueSubjectId = opaqueSubjectId))
  match existing with
  | some (id, binding) =>
      refuseIf (binding.userId ≠ userId)
        (.transfer
          "opaque subject token is already bound to another user")
      refuseIf (!binding.active)
        (.transfer
          "revoked opaque subject token cannot be reused")
      .ok (id, w)
  | none =>
      refuseIf (w.bindings.get? newId).isSome .integrity
      let binding : ResultSubjectBinding :=
        { tenantId := tenantId
          sourceEnclave := sourceEnclave
          opaqueSubjectId := opaqueSubjectId
          userId := userId
          active := true }
      .ok (newId,
        { w with bindings := w.bindings.set newId binding })

end Ledger

end ResultTransfer

end TrueNorth

--------
-- Results
--------

namespace TrueNorth

namespace ResultTransfer

open Checks

/- `json.dumps` of digests, without spaces. -/
def evidenceJson (digests : List String) : String :=
  "[" ++ ",".intercalate
    (digests.map (fun d => "\"" ++ d ++ "\"")) ++ "]"

/- The row that is recorded. -/
def record
    (result : DecryptedResult)
    (packageSha256 : String)
    (bindingId : Uuid)
    (binding : ResultSubjectBinding) : ImportedResult :=
  { packageId := result.packageId
    packageSha256 := packageSha256
    tenantId := result.claim.tenantId
    subjectBindingId := bindingId
    userId := binding.userId
    sourceEnclave := result.sourceEnclave
    courseReleaseId := result.claim.courseReleaseId
    assessmentId := result.claim.assessmentId
    attemptId := result.claim.attemptId
    rawScore := result.claim.rawScore
    maxScore := result.claim.maxScore
    outcome := result.claim.outcome.value
    scorerVersion := result.claim.scorerVersion
    evidenceSha256Json := evidenceJson result.claim.evidenceSha256
    supersedesPackageId := result.claim.supersedesPackageId
    occurredAt := result.claim.occurredAt }

namespace Ledger

/- The checks of a result that corrects another. -/
def checkCorrection
    (w : Ledger)
    (result : DecryptedResult)
    (bindingId : Uuid)
    (supersedes : Uuid) : Except Refusal Unit := do
  let claim := result.claim
  let prior ← oneOrNone (w.results.filter (fun r =>
    r.packageId = supersedes && r.tenantId = claim.tenantId &&
      r.sourceEnclave = result.sourceEnclave))
  match prior with
  | none =>
      .error
        (.transfer
          "superseded result does not exist for this source enclave")
  | some prior => do
      refuseIf (prior.attemptId ≠ claim.attemptId)
        (.transfer "a correction must keep the original attempt_id")
      refuseIf
        (prior.subjectBindingId ≠ bindingId ||
          prior.courseReleaseId ≠ claim.courseReleaseId ||
          prior.assessmentId ≠ claim.assessmentId)
        (.transfer
          "a correction cannot change subject, course release or assessment")
      refuseIf
        (w.results.any (fun r =>
          r.supersedesPackageId = some prior.packageId))
        (.transfer
          "correction does not supersede the latest result for this attempt")

/- The row is added, unless a constraint is against it. -/
def addResult
    (w : Ledger)
    (row : ImportedResult) : Except Refusal Ledger := do
  refuseIf (w.results.any (fun r => r.packageId = row.packageId))
    .integrity
  refuseIf
    (row.supersedesPackageId.isSome &&
      w.results.any (fun r =>
        r.supersedesPackageId = row.supersedesPackageId))
    .integrity
  .ok { w with results := w.results ++ [row] }

/- `import_result`: the record, and whether it is new. -/
def importResult
    (cfg : Settings)
    (w : Ledger)
    (result : DecryptedResult)
    (packageSha256 : String) :
    Except Refusal (ImportedResult × Bool × Ledger) := do
  requireSecret cfg
  let enclave ← safe cfg.enclaveId
  refuseIf (result.destinationEnclave ≠ enclave)
    (.transfer
      "result destination does not match this deployment's TN_ENCLAVE_ID")
  refuseIf (!isSha256 packageSha256)
    (.transfer "package_sha256 must be lowercase SHA-256 hex")
  let claim := result.claim
  let existing ← oneOrNone (w.results.filter (fun r =>
    r.packageId = result.packageId &&
      r.tenantId = claim.tenantId))
  match existing with
  | some row => do
      refuseIf (row.packageSha256 ≠ packageSha256)
        (.transfer
          "package_id was already imported with different content")
      .ok (row, false, w)
  | none => do
      let bound ← oneOrNone (w.bindings.entries.filter (fun b =>
        b.2.tenantId = claim.tenantId &&
          b.2.sourceEnclave = result.sourceEnclave &&
          b.2.opaqueSubjectId = claim.opaqueSubjectId &&
          b.2.active))
      match bound with
      | none =>
          .error
            (.transfer
              "no active Secret subject binding exists for this source token")
      | some (bindingId, binding) => do
          refuseIf
            (w.releases.get? claim.courseReleaseId ≠ some none &&
              w.releases.get? claim.courseReleaseId ≠
                some (some claim.tenantId))
            (.transfer
              "course release is not approved for the destination tenant")
          let sameAttempt := w.results.any (fun r =>
            r.tenantId = claim.tenantId &&
              r.sourceEnclave = result.sourceEnclave &&
              r.attemptId = claim.attemptId)
          match claim.supersedesPackageId with
          | some supersedes =>
              w.checkCorrection result bindingId supersedes
          | none =>
              refuseIf sameAttempt
                (.transfer
                  "a new package for an imported attempt must declare supersedes_package_id")
          let row :=
            record result packageSha256 bindingId binding
          let w' ← w.addResult row
          .ok (row, true, w')

end Ledger

end ResultTransfer

end TrueNorth

--------
-- Packages on Media
--------

namespace TrueNorth

namespace ResultTransfer

open Checks

inductive ConsumptionStatus where
| applied
| duplicate
deriving DecidableEq

namespace Ledger

/-
  `consume_package` with `import_result` as its writer: a
  package that was loaded and verified, and what decrypting
  it gives.
-/
def consumePackage
    (cfg : Settings)
    (w : Ledger)
    (packageId : Uuid)
    (sha256 : String)
    (decrypted : Except String DecryptedResult) :
    Except Refusal (ConsumptionStatus × Ledger) :=
  match w.receipts.get? packageId with
  | some recorded => do
      refuseIf (recorded ≠ sha256)
        (.transfer
          "package_id was already consumed with different content")
      .ok (.duplicate, w)
  | none => do
      let result ← safe decrypted
      let (_, _, w') ← w.importResult cfg result sha256
      .ok (.applied,
        { w' with receipts := w'.receipts.set packageId sha256 })

end Ledger

/-
  `consume` with an error for a package that was not loaded:
  not read, or not verified.
-/
inductive Action where
| bindSubject
    (newId tenantId : Uuid)
    (sourceEnclave : String)
    (opaqueSubjectId userId : Uuid)
| importResult
    (result : DecryptedResult)
    (packageSha256 : String)
| consume
    (loaded : Except String (Uuid × String))
    (decrypted : Except String DecryptedResult)

namespace Ledger

variable (cfg : Settings)

/- The ledger a request leaves, or why it was refused. -/
def answer
    (w : Ledger) :
    Action → Except Refusal Ledger
| .bindSubject newId tenantId sourceEnclave subject userId => do
    let (_, w') ←
      w.bindSubject cfg newId tenantId sourceEnclave subject
        userId
    .ok w'
| .importResult result packageSha256 => do
    let (_, _, w') ← w.importResult cfg result packageSha256
    .ok w'
| .consume loaded decrypted => do
    let (packageId, sha256) ← safe loaded
    let (_, w') ←
      w.consumePackage cfg packageId sha256 decrypted
    .ok w'

/- A request that fails is rolled back. -/
def step
    (w : Ledger)
    (a : Action) : Ledger :=
  match w.answer cfg a with
  | .ok w' => w'
  | .error _ => w

end Ledger

end ResultTransfer

end TrueNorth
