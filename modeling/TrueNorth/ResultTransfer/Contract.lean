import TrueNorth.Lib.Base64
import TrueNorth.Lib.Calendar
import TrueNorth.Lib.JsonUnambiguous
import TrueNorth.Lib.Uuid
import TrueNorth.ResultTransfer.Import

/-
  Signed, destination-bound and encrypted result packages
  (result_transfer/contract.py).

  The keys, ciphers and digests of `cryptography` and
  `hashlib`, and how pydantic reads and writes a UUID, an
  integer or a time, are given.

  Key definitions include:
    * `Libraries`
    * `ResultProjection`, `ResultClaim.modelValidate`
    * `createPackage`
    * `verifyPackage`, `decryptPackage`
    * `assertPublicPackageMinimal`
-/

--------
-- What Is Used
--------

namespace TrueNorth

namespace ResultTransfer

abbrev Bytes : Type := List UInt8

/- `ResultTransferError`, or what a library raises. -/
inductive Failure where
| resultTransfer (message : String)
| other
deriving DecidableEq

/-
  Ed25519, X25519, HKDF and AES-GCM of raw keys, SHA-256,
  the values pydantic takes for a field, and how Python
  writes a double.  `loadsOther`: what `json.loads` reads in
  bytes that are no plain JSON in UTF-8.
-/
structure Libraries where
  sha256 : Bytes → Bytes
  signingPublic : Bytes → Bytes
  sign : Bytes → Bytes → Bytes
  verifies : Bytes → Bytes → Bytes → Bool
  exchangePublic : Bytes → Bytes
  exchange : Bytes → Bytes → Option Bytes
  hkdf : Bytes → Bytes → Bytes → Bytes
  encrypt : Bytes → Bytes → Bytes → Bytes → Bytes
  decrypt : Bytes → Bytes → Bytes → Bytes → Option Bytes
  uuidOf : Json → Option Uuid
  intOf : Json → Option Int
  datetimeOf : Json → Option Datetime
  datetimeText : Datetime → String
  floatText : Double → String
  loadsOther : Bytes → Option Json

--------
-- Claims
--------

/- A claim as it is held: UUIDs of 128 bits, a zoned time. -/
structure TimedClaim extends ResultClaim where
  occurred : Datetime
  hOccurred : occurred.instant? = some occurredAt
  hSubject : opaqueSubjectId < 2 ^ 128
  hTenant : tenantId < 2 ^ 128
  hRelease : courseReleaseId < 2 ^ 128
  hAttempt : attemptId < 2 ^ 128
  hSupersedes : ∀ s ∈ supersedesPackageId, s < 2 ^ 128

/- The only result fields that may be retained readable. -/
structure ResultProjection where
  opaqueSubjectId : Uuid
  courseReleaseId : Uuid
  assessmentId : String
  attemptId : Uuid
  outcome : Outcome
deriving DecidableEq

def ResultProjection.of (claim : ResultClaim) : ResultProjection where
  opaqueSubjectId := claim.opaqueSubjectId
  courseReleaseId := claim.courseReleaseId
  assessmentId := claim.assessmentId
  attemptId := claim.attemptId
  outcome := claim.outcome

def uuidJson (id : Uuid) : Json :=
  .str (Uuid.text id)

/- `claim.model_dump(mode="json")`. -/
def TimedClaim.modelDump
    (lib : Libraries)
    (claim : TimedClaim) : List (String × Json) :=
  [("opaque_subject_id", uuidJson claim.opaqueSubjectId),
    ("tenant_id", uuidJson claim.tenantId),
    ("course_release_id", uuidJson claim.courseReleaseId),
    ("assessment_id", .str claim.assessmentId),
    ("attempt_id", uuidJson claim.attemptId),
    ("raw_score", .int claim.rawScore),
    ("max_score", .int claim.maxScore),
    ("outcome", .str claim.outcome.value),
    ("scorer_version", .str claim.scorerVersion),
    ("evidence_sha256", .arr (claim.evidenceSha256.map .str)),
    ("supersedes_package_id",
      (claim.supersedesPackageId.map uuidJson).getD .null),
    ("occurred_at", .str (lib.datetimeText claim.occurred))]

def ResultProjection.modelDump
    (projection : ResultProjection) : List (String × Json) :=
  [("opaque_subject_id", uuidJson projection.opaqueSubjectId),
    ("course_release_id", uuidJson projection.courseReleaseId),
    ("assessment_id", .str projection.assessmentId),
    ("attempt_id", uuidJson projection.attemptId),
    ("outcome", .str projection.outcome.value)]

/- `str`: no other value is taken for a text. -/
def text? :
    Json → Option String
| .str text => some text
| _ => none

/- `Literal["pass", "fail"]`. -/
def outcome? (j : Json) : Option Outcome :=
  if j.isText "pass" then some .pass
  else if j.isText "fail" then some .fail
  else none

/- `list[str]`, by default empty. -/
def evidence? :
    Option Json → Option (List String)
| none => some []
| some (.arr items) => items.mapM text?
| some _ => none

/- `uuid.UUID | None`, by default none. -/
def supersedes?
    (lib : Libraries) :
    Option Json → Option (Option Uuid)
| none => some none
| some .null => some none
| some j => (lib.uuidOf j).map some

/- `extra="forbid"`. -/
def noExtra
    (fields : List String)
    (members : List (String × Json)) : Bool :=
  members.all (fun m => fields.contains m.1)

def claimFields : List String :=
  ["opaque_subject_id", "tenant_id", "course_release_id",
    "assessment_id", "attempt_id", "raw_score", "max_score",
    "outcome", "scorer_version", "evidence_sha256",
    "supersedes_package_id", "occurred_at"]

/- The fields of a claim, each with a value of its type. -/
structure ClaimFields where
  opaqueSubjectId : Uuid
  tenantId : Uuid
  courseReleaseId : Uuid
  assessmentId : String
  attemptId : Uuid
  rawScore : Int
  maxScore : Int
  outcome : Outcome
  scorerVersion : String
  evidenceSha256 : List String
  supersedesPackageId : Option Uuid
  occurredAt : Int

/- Each field on its own; a time without a zone is refused. -/
def claimFields?
    (lib : Libraries)
    (members : List (String × Json)) : Option ClaimFields := do
  let field := Json.member? members
  let opaqueSubjectId ← (field "opaque_subject_id").bind lib.uuidOf
  let tenantId ← (field "tenant_id").bind lib.uuidOf
  let courseReleaseId ← (field "course_release_id").bind lib.uuidOf
  let assessmentId ← (field "assessment_id").bind text?
  let attemptId ← (field "attempt_id").bind lib.uuidOf
  let rawScore ← (field "raw_score").bind lib.intOf
  let maxScore ← (field "max_score").bind lib.intOf
  let outcome ← (field "outcome").bind outcome?
  let scorerVersion ← (field "scorer_version").bind text?
  let evidenceSha256 ← evidence? (field "evidence_sha256")
  let supersedesPackageId ←
    supersedes? lib (field "supersedes_package_id")
  let occurred ← (field "occurred_at").bind lib.datetimeOf
  let occurredAt ← occurred.instant?
  some {
    opaqueSubjectId := opaqueSubjectId
    tenantId := tenantId
    courseReleaseId := courseReleaseId
    assessmentId := assessmentId
    attemptId := attemptId
    rawScore := rawScore
    maxScore := maxScore
    outcome := outcome
    scorerVersion := scorerVersion
    evidenceSha256 := evidenceSha256
    supersedesPackageId := supersedesPackageId
    occurredAt := occurredAt }

/- The bounds of the fields, and `valid_score_and_digests`. -/
def ClaimFields.checked
    (f : ClaimFields) : Option ResultClaim :=
  if hValid :
      0 ≤ f.rawScore ∧
      (1 ≤ f.assessmentId.length ∧ f.assessmentId.length ≤ 255) ∧
      (1 ≤ f.scorerVersion.length ∧ f.scorerVersion.length ≤ 100) ∧
      0 < f.maxScore.toNat ∧
      f.rawScore.toNat ≤ f.maxScore.toNat ∧
      f.evidenceSha256.length ≤ 1000 ∧
      f.evidenceSha256.all isSha256 = true then
    some {
      opaqueSubjectId := f.opaqueSubjectId
      tenantId := f.tenantId
      courseReleaseId := f.courseReleaseId
      assessmentId := f.assessmentId
      attemptId := f.attemptId
      rawScore := f.rawScore.toNat
      maxScore := f.maxScore.toNat
      outcome := f.outcome
      scorerVersion := f.scorerVersion
      evidenceSha256 := f.evidenceSha256
      supersedesPackageId := f.supersedesPackageId
      occurredAt := f.occurredAt
      hAssessment := hValid.2.1
      hScorer := hValid.2.2.1
      hMax := hValid.2.2.2.1
      hScore := hValid.2.2.2.2.1
      hCount := hValid.2.2.2.2.2.1
      hEvidence := hValid.2.2.2.2.2.2 }
  else
    none

/- `ResultClaim.model_validate`. -/
def ResultClaim.modelValidate
    (lib : Libraries) :
    Json → Option ResultClaim
| .obj members => do
    let fields ← claimFields? lib members
    if noExtra claimFields members then fields.checked else none
| _ => none

def projectionFields : List String :=
  ["opaque_subject_id", "course_release_id", "assessment_id",
    "attempt_id", "outcome"]

/- `ResultProjection.model_validate`. -/
def ResultProjection.modelValidate
    (lib : Libraries)
    (j : Json) : Option ResultProjection := do
  let members ← j.members?
  let field := Json.member? members
  let opaqueSubjectId ← (field "opaque_subject_id").bind lib.uuidOf
  let courseReleaseId ← (field "course_release_id").bind lib.uuidOf
  let assessmentId ← (field "assessment_id").bind text?
  let attemptId ← (field "attempt_id").bind lib.uuidOf
  let outcome ← (field "outcome").bind outcome?
  if noExtra projectionFields members then
    some ⟨opaqueSubjectId, courseReleaseId, assessmentId,
      attemptId, outcome⟩
  else
    none

--------
-- Bytes And Keys
--------

open Texts

/- What fails in a library is raised. -/
def orRaise
    {A : Type} :
    Option A → Except Failure A
| some a => .ok a
| none => .error .other

/- `_canonical`; an integer may be too long for a text. -/
def canonical
    (lib : Libraries)
    (members : List (String × Json)) : Except Failure Bytes :=
  if (Json.obj members).hasText then
    .ok (utf8 ((Json.obj members).sorted.write lib.floatText))
  else
    .error .other

/- `json.loads`, of bytes. -/
def loads
    (lib : Libraries)
    (bytes : Bytes) : Option Json :=
  ((utf8? bytes).bind Json.loads?).or (lib.loadsOther bytes)

/- `_b64`. -/
def b64 (bytes : Bytes) : String :=
  String.ofList (Base64.encode bytes)

/- `_unb64`. -/
def unb64
    (value : Json)
    (field : String) : Except Failure Bytes :=
  match (text? value).bind (fun text =>
      Base64.decode? text.toList) with
  | some bytes => .ok bytes
  | none => .error (.resultTransfer s!"{field} is not valid base64")

/- A raw key, private or public, has 32 bytes. -/
def rawKey
    (value : Json)
    (field : String) : Except Failure Bytes := do
  let bytes ← unb64 value field
  if bytes.length = 32 then .ok bytes else .error .other

/- `_key_id`, of the bytes of a public key. -/
def keyId
    (lib : Libraries)
    (publicBytes : Bytes) : String :=
  String.ofList
    ((hexDigest (lib.sha256 publicBytes)).toList.take 16)

def info : String := "truenorth/result-transfer/v1"

/- `_derive`. -/
def derive
    (lib : Libraries)
    (shared : Bytes)
    (packageId : Uuid) : Bytes :=
  lib.hkdf shared (utf8 (Uuid.text packageId).toList)
    (utf8 info.toList)

/- `_public_part`. -/
def publicPart
    (package : List (String × Json)) : List (String × Json) :=
  package.filter (fun m => m.1 ≠ "signature")

--------
-- The Public Fields
--------

open Checks

def format : String := "truenorth.result-transfer.v1"

def scoreKeys : List String :=
  ["score", "raw_score", "max_score", "grade", "percentage"]

def identityKeys : List String :=
  ["name", "display_name", "email", "service_number", "unit",
    "rank"]

def publicFields : List String :=
  ["format", "package_id", "source_enclave",
    "destination_enclave", "created_at", "projection",
    "encryption", "ciphertext", "signature"]

def encryptionFields : List String :=
  ["alg", "recipient_key_id", "ephemeral_public_key", "nonce"]

def signatureFields : List String :=
  ["alg", "key_id", "signed_sha256", "value"]

/- `exact_fields`. -/
def exactFields
    (value : Json)
    (expected : List String)
    (location : String) : Except Failure Unit :=
  refuseIf
    (match value with
    | .obj members =>
        !(noExtra expected members &&
          expected.all (Json.has members))
    | _ => true)
    (.resultTransfer
      s!"{location} fields do not match the public result contract")

/- A name that no readable member may have. -/
def prohibited (key : String) : Bool :=
  (scoreKeys ++ identityKeys).contains (Texts.casefold key)

mutual

/- `walk`. -/
def walk :
    Json → Except Failure Unit
| .obj members => walkMembers members
| .arr items => walkItems items
| _ => .ok ()

def walkItems :
    List Json → Except Failure Unit
| [] => .ok ()
| item :: items => do
    walk item
    walkItems items

def walkMembers :
    List (String × Json) → Except Failure Unit
| [] => .ok ()
| member :: members => do
    walkMember member
    walkMembers members

def walkMember :
    String × Json → Except Failure Unit
| (key, nested) => do
    refuseIf (prohibited key)
      (.resultTransfer s!"prohibited public result field: {key}")
    if key ≠ "ciphertext" then walk nested else .ok ()

end

/- `assert_public_package_minimal`. -/
def assertPublicPackageMinimal
    (package : List (String × Json)) : Except Failure Unit := do
  exactFields (.obj package) publicFields "package"
  exactFields (Json.lookup package "projection")
    projectionFields "projection"
  exactFields (Json.lookup package "encryption")
    encryptionFields "encryption"
  exactFields (Json.lookup package "signature")
    signatureFields "signature"
  walk (.obj package)

--------
-- Creating A Package
--------

open Checks Texts

abbrev PackageId : Type := Fin (2 ^ 128)

/- What `create_package` is called with, besides the claim. -/
structure Request where
  sourceEnclave : String
  destinationEnclave : String
  signingPrivateKey : String
  recipientPublicKey : String
  packageId : Option PackageId
  createdAt : Option Datetime

/- What the system gives: an id, the time and random bytes. -/
structure Draw where
  uuid4 : PackageId
  now : Datetime
  ephemeral : Bytes
  nonce : Bytes
  hEphemeral : ephemeral.length = 32
  hNonce : nonce.length = 12

/- The id the package is given. -/
def Request.pid
    (r : Request)
    (draw : Draw) : PackageId :=
  r.packageId.getD draw.uuid4

def header
    (lib : Libraries)
    (draw : Draw)
    (r : Request)
    (createdAt : String)
    (recipient : Bytes)
    (projection : ResultProjection) : List (String × Json) :=
  [("format", .str format),
    ("package_id", uuidJson (r.pid draw)),
    ("source_enclave", .str (strip r.sourceEnclave)),
    ("destination_enclave", .str (strip r.destinationEnclave)),
    ("created_at", .str createdAt),
    ("projection", .obj projection.modelDump),
    ("encryption", .obj
      [("alg", .str "X25519-HKDF-SHA256+A256GCM"),
        ("recipient_key_id", .str (keyId lib recipient)),
        ("ephemeral_public_key",
          .str (b64 (lib.exchangePublic draw.ephemeral))),
        ("nonce", .str (b64 draw.nonce))])]

/- The signature of the bytes of a package. -/
def signature
    (lib : Libraries)
    (signing body : Bytes) : List (String × Json) :=
  [("alg", .str "Ed25519"),
    ("key_id", .str (keyId lib (lib.signingPublic signing))),
    ("signed_sha256", .str (hexDigest (lib.sha256 body))),
    ("value", .str (b64 (lib.sign signing body)))]

/- `create_package`. -/
def createPackage
    (lib : Libraries)
    (draw : Draw)
    (claim : TimedClaim)
    (r : Request) :
    Except Failure (List (String × Json) × ResultProjection) := do
  refuseIf
    (strip r.sourceEnclave = "" || strip r.destinationEnclave = ""
      || r.sourceEnclave = r.destinationEnclave)
    (.resultTransfer
      "source and destination enclaves must be distinct, non-empty names")
  let created := r.createdAt.getD draw.now
  refuseIf created.offset.isNone
    (.resultTransfer "created_at must include a timezone")
  let signing ←
    rawKey (.str r.signingPrivateKey) "signing_private_key"
  let recipient ←
    rawKey (.str r.recipientPublicKey) "recipient_public_key"
  let projection := ResultProjection.of claim.toResultClaim
  let createdAt ← orRaise created.utcText?
  let header := header lib draw r createdAt recipient projection
  let plaintext ← canonical lib (claim.modelDump lib)
  let shared ← orRaise (lib.exchange draw.ephemeral recipient)
  let aad ← canonical lib header
  let sealed :=
    lib.encrypt (derive lib shared (r.pid draw)) draw.nonce
      plaintext aad
  let unsigned := header ++ [("ciphertext", .str (b64 sealed))]
  let body ← canonical lib unsigned
  let package :=
    unsigned ++ [("signature", .obj (signature lib signing body))]
  assertPublicPackageMinimal package
  .ok (package, projection)

--------
-- Verifying And Decrypting
--------

open Checks Texts

/- The `try` of `verify_package`. -/
def checkPackage
    (lib : Libraries)
    (package : List (String × Json))
    (trustedSigningPublicKey destinationEnclave : String) :
    Except Failure Bool :=
  if !(Json.lookup package "format").isText format ||
      !(Json.lookup package "destination_enclave").isText
        destinationEnclave then
    .ok false
  else
    match Json.lookup package "signature" with
    | .obj signature =>
        if !(Json.lookup signature "alg").isText "Ed25519" then
          .ok false
        else do
          let publicBytes ←
            rawKey (.str trustedSigningPublicKey)
              "trusted_signing_public_key"
          let body ← canonical lib (publicPart package)
          if !(Json.lookup signature "key_id").isText
              (keyId lib publicBytes) then
            .ok false
          else if !(Json.lookup signature "signed_sha256").isText
              (hexDigest (lib.sha256 body)) then
            .ok false
          else do
            let value ←
              unb64 (Json.lookup signature "value")
                "signature.value"
            refuseIf (!lib.verifies publicBytes value body) .other
            assertPublicPackageMinimal package
            .ok true
    | _ => .ok false

/- `verify_package`. -/
def verifyPackage
    (lib : Libraries)
    (package : List (String × Json))
    (trustedSigningPublicKey destinationEnclave : String) : Bool :=
  match checkPackage lib package trustedSigningPublicKey
      destinationEnclave with
  | .ok verified => verified
  | .error _ => false

/-
  `uuid.UUID(str(value))`: only a text or an integer has 32
  digits in its `str`.
-/
def packageId? :
    Json → Option Uuid
| .str text => Uuid.parse? text
| .int value => Uuid.parse? (String.ofList (JsonText.intText value))
| _ => none

/- The `try` of `decrypt_package`. -/
def openPackage
    (lib : Libraries)
    (package : List (String × Json))
    (recipientPrivateKey : String) :
    Except Failure DecryptedResult := do
  let pid ← orRaise (packageId? (Json.lookup package "package_id"))
  let encryption ←
    orRaise (Json.lookup package "encryption").members?
  let privateBytes ←
    rawKey (.str recipientPrivateKey) "recipient_private_key"
  refuseIf
    (!(Json.lookup encryption "recipient_key_id").isText
      (keyId lib (lib.exchangePublic privateBytes)))
    (.resultTransfer "package is encrypted to another recipient key")
  let ephemeral ←
    rawKey (Json.lookup encryption "ephemeral_public_key")
      "encryption.ephemeral_public_key"
  let nonce ←
    unb64 (Json.lookup encryption "nonce") "encryption.nonce"
  let header :=
    (publicPart package).filter (fun m => m.1 ≠ "ciphertext")
  let shared ← orRaise (lib.exchange privateBytes ephemeral)
  let sealed ←
    unb64 (Json.lookup package "ciphertext") "ciphertext"
  let aad ← canonical lib header
  let plain ←
    orRaise (lib.decrypt (derive lib shared pid) nonce sealed aad)
  let document ← orRaise (loads lib plain)
  let claim ← orRaise (ResultClaim.modelValidate lib document)
  let projection ←
    orRaise (ResultProjection.modelValidate lib
      (Json.lookup package "projection"))
  refuseIf (projection ≠ ResultProjection.of claim)
    (.resultTransfer
      "public pass/fail projection does not match the encrypted result")
  let source ← orRaise (text? (Json.lookup package "source_enclave"))
  let destination ←
    orRaise (text? (Json.lookup package "destination_enclave"))
  .ok ⟨pid, source, destination, claim⟩

/- `decrypt_package`. -/
def decryptPackage
    (lib : Libraries)
    (package : List (String × Json))
    (trustedSigningPublicKey recipientPrivateKey : String)
    (destinationEnclave : String) :
    Except Failure DecryptedResult := do
  refuseIf
    (!verifyPackage lib package trustedSigningPublicKey
      destinationEnclave)
    (.resultTransfer "package signature or destination is invalid")
  match openPackage lib package recipientPrivateKey with
  | .ok result => .ok result
  | .error (.resultTransfer message) =>
      .error (.resultTransfer message)
  | .error .other =>
      .error (.resultTransfer
        "package ciphertext or result claim is invalid")

end ResultTransfer

end TrueNorth
