import TrueNorth.ResultTransfer.Codec

/-
  How a package is put together, and that with ideal
  signing and encryption it is verified where it is sent
  and decrypted to the claim it was created from.

  Key definitions include:
    * `Libraries.Ideal`
    * `Assembly`

  Main theorems:
    * `createPackage_eq_ok`
    * `decryptPackage_created`
-/

--------
-- Ideal Libraries
--------

namespace TrueNorth

namespace ResultTransfer

/-
  Ideal signing and encryption: a key's own signature is
  verified, two parties agree on a shared key, and a sealed
  text opens to what was sealed or not at all.
-/
structure Libraries.Ideal (lib : Libraries) : Prop where
  hSigningPublic : ∀ k, k.length = 32 →
    (lib.signingPublic k).length = 32
  hExchangePublic : ∀ k, k.length = 32 →
    (lib.exchangePublic k).length = 32
  hVerifies : ∀ k body, k.length = 32 →
    lib.verifies (lib.signingPublic k) (lib.sign k body) body =
      true
  hAgree : ∀ a b, a.length = 32 → b.length = 32 →
    lib.exchange a (lib.exchangePublic b) =
      lib.exchange b (lib.exchangePublic a)
  hHkdf : ∀ shared salt context,
    (lib.hkdf shared salt context).length = 32
  hOpens : ∀ key nonce plain aad, key.length = 32 →
    nonce.length = 12 →
    lib.decrypt key nonce (lib.encrypt key nonce plain aad) aad =
      some plain
  hSealed : ∀ key nonce aad key' nonce' plain aad' opened,
    lib.decrypt key nonce
        (lib.encrypt key' nonce' plain aad') aad = some opened →
      opened = plain

--------
-- How A Package Is Put Together
--------

open Checks Texts

/- What `create_package` works out on the way. -/
structure Assembly
    (lib : Libraries)
    (draw : Draw)
    (claim : TimedClaim)
    (r : Request) where
  createdAt : String
  signing : Bytes
  recipient : Bytes
  plaintext : Bytes
  shared : Bytes
  aad : Bytes
  body : Bytes
  hCreatedAt :
    (r.createdAt.getD draw.now).utcText? = some createdAt
  hSigning : rawKey (.str r.signingPrivateKey)
    "signing_private_key" = .ok signing
  hRecipient : rawKey (.str r.recipientPublicKey)
    "recipient_public_key" = .ok recipient
  hPlaintext : canonical lib (claim.modelDump lib) = .ok plaintext
  hShared : lib.exchange draw.ephemeral recipient = some shared
  hAad : canonical lib
    (header lib draw r createdAt recipient
      (.of claim.toResultClaim)) = .ok aad
  hBody : canonical lib
    (header lib draw r createdAt recipient
        (.of claim.toResultClaim) ++
      [("ciphertext", .str (b64
        (lib.encrypt (derive lib shared (r.pid draw)) draw.nonce
          plaintext aad)))]) = .ok body

namespace Assembly

variable {lib : Libraries}
variable {draw : Draw}
variable {claim : TimedClaim}
variable {r : Request}

def header (a : Assembly lib draw claim r) : List (String × Json) :=
  ResultTransfer.header lib draw r a.createdAt a.recipient
    (.of claim.toResultClaim)

def sealed (a : Assembly lib draw claim r) : Bytes :=
  lib.encrypt (derive lib a.shared (r.pid draw)) draw.nonce
    a.plaintext a.aad

def unsigned (a : Assembly lib draw claim r) : List (String × Json) :=
  a.header ++ [("ciphertext", .str (b64 a.sealed))]

def package (a : Assembly lib draw claim r) : List (String × Json) :=
  a.unsigned ++
    [("signature", .obj (signature lib a.signing a.body))]

end Assembly

variable {lib : Libraries}
variable {draw : Draw}
variable {claim : TimedClaim}
variable {r : Request}

theorem orRaise_eq_ok
    {A : Type}
    {o : Option A}
    {a : A} :
    orRaise o = .ok a ↔ o = some a := by
  cases o with
  | none =>
      constructor
      · intro h
        cases h
      · intro h
        cases h
  | some a' => simp [orRaise]

/- A package that was created was put together so. -/
theorem createPackage_eq_ok
    {package : List (String × Json)}
    {projection : ResultProjection}
    (hCreated :
      createPackage lib draw claim r = .ok (package, projection)) :
    projection = .of claim.toResultClaim ∧
      ∃ a : Assembly lib draw claim r,
        package = a.package ∧
          assertPublicPackageMinimal package = .ok () := by
  unfold createPackage at hCreated
  rcases bind_eq_ok.mp hCreated with ⟨_, _, hCreated⟩
  rcases bind_eq_ok.mp hCreated with ⟨_, _, hCreated⟩
  rcases bind_eq_ok.mp hCreated with ⟨signing, hSigning, hCreated⟩
  rcases bind_eq_ok.mp hCreated with
    ⟨recipient, hRecipient, hCreated⟩
  rcases bind_eq_ok.mp hCreated with
    ⟨createdAt, hCreatedAt, hCreated⟩
  rcases bind_eq_ok.mp hCreated with
    ⟨plaintext, hPlaintext, hCreated⟩
  rcases bind_eq_ok.mp hCreated with ⟨shared, hShared, hCreated⟩
  rcases bind_eq_ok.mp hCreated with ⟨aad, hAad, hCreated⟩
  rcases bind_eq_ok.mp hCreated with ⟨body, hBody, hCreated⟩
  rcases bind_eq_ok.mp hCreated with ⟨_, hMinimal, hCreated⟩
  cases hCreated
  exact ⟨rfl, ⟨createdAt, signing, recipient, plaintext, shared,
    aad, body, orRaise_eq_ok.mp hCreatedAt, hSigning, hRecipient,
    hPlaintext, orRaise_eq_ok.mp hShared, hAad, hBody⟩, rfl,
    hMinimal⟩

namespace Assembly

end Assembly

end ResultTransfer

end TrueNorth

--------
-- The Round Trip
--------

namespace TrueNorth

namespace ResultTransfer

open Checks Texts

variable {lib : Libraries}
variable {draw : Draw}
variable {claim : TimedClaim}
variable {r : Request}

theorem rawKey_length
    {value : Json}
    {field : String}
    {bytes : Bytes}
    (hKey : rawKey value field = .ok bytes) :
    bytes.length = 32 := by
  unfold rawKey at hKey
  rcases bind_eq_ok.mp hKey with ⟨bytes', _, hLength⟩
  split at hLength
  · rename_i hEq
    cases hLength
    exact hEq
  · cases hLength

theorem isText_str
    (text : String) :
    (Json.str text).isText text = true :=
  decide_eq_true rfl

/- The package is verified where its destination is. -/
theorem verifyPackage_created
    (hIdeal : lib.Ideal)
    (a : Assembly lib draw claim r)
    (hMinimal : assertPublicPackageMinimal a.package = .ok ())
    {trusted : String}
    (hTrusted : rawKey (.str trusted)
      "trusted_signing_public_key" =
        .ok (lib.signingPublic a.signing)) :
    verifyPackage lib a.package trusted
      (strip r.destinationEnclave) = true := by
  have hFormat :
      Json.lookup a.package "format" = .str format := rfl
  have hDestination :
      Json.lookup a.package "destination_enclave" =
        .str (strip r.destinationEnclave) := rfl
  have hSignature :
      Json.lookup a.package "signature" =
        .obj (signature lib a.signing a.body) := rfl
  generalize hSigned : signature lib a.signing a.body = signed
    at hSignature
  have hFields :
      Json.lookup signed "alg" = .str "Ed25519" ∧
        Json.lookup signed "key_id" =
          .str (keyId lib (lib.signingPublic a.signing)) ∧
        Json.lookup signed "signed_sha256" =
          .str (hexDigest (lib.sha256 a.body)) ∧
        Json.lookup signed "value" =
          .str (b64 (lib.sign a.signing a.body)) := by
    subst hSigned
    exact ⟨rfl, rfl, rfl, rfl⟩
  have hBody : canonical lib (publicPart a.package) = .ok a.body :=
    a.hBody
  have hVerifies :=
    hIdeal.hVerifies a.signing a.body (rawKey_length a.hSigning)
  have hCheck :
      checkPackage lib a.package trusted
        (strip r.destinationEnclave) = .ok true := by
    unfold checkPackage
    simp only [hFormat, hDestination, hSignature, hFields,
      isText_str, hTrusted, hBody, unb64_b64, hVerifies,
      hMinimal, bind, Except.bind, refuseIf, Bool.not_true,
      Bool.or_self, Bool.false_eq_true, if_false]
  unfold verifyPackage
  rw [hCheck]

theorem packageId?_str
    (text : String) :
    packageId? (.str text) = Uuid.parse? text :=
  rfl

/- Its ciphertext is opened by the recipient. -/
theorem openPackage_created
    (hDocumented : lib.Documented)
    (hIdeal : lib.Ideal)
    (a : Assembly lib draw claim r)
    {recipientPrivateKey : String}
    {privateBytes : Bytes}
    (hPrivate : rawKey (.str recipientPrivateKey)
      "recipient_private_key" = .ok privateBytes)
    (hPair : a.recipient = lib.exchangePublic privateBytes) :
    openPackage lib a.package recipientPrivateKey =
      .ok ⟨r.pid draw, strip r.sourceEnclave,
        strip r.destinationEnclave, claim.toResultClaim⟩ := by
  have hLength := rawKey_length hPrivate
  have hPackageId :
      packageId? (Json.lookup a.package "package_id") =
        some (r.pid draw : Nat) := by
    have hText :
        Json.lookup a.package "package_id" =
          .str (Uuid.text (r.pid draw)) := rfl
    rw [hText, packageId?_str,
      Uuid.parse?_text (r.pid draw).isLt]
  have hEncryption :
      (Json.lookup a.package "encryption").members? =
        some [("alg", .str "X25519-HKDF-SHA256+A256GCM"),
          ("recipient_key_id", .str (keyId lib a.recipient)),
          ("ephemeral_public_key",
            .str (b64 (lib.exchangePublic draw.ephemeral))),
          ("nonce", .str (b64 draw.nonce))] := rfl
  generalize hMembers :
    [("alg", Json.str "X25519-HKDF-SHA256+A256GCM"),
      ("recipient_key_id", .str (keyId lib a.recipient)),
      ("ephemeral_public_key",
        .str (b64 (lib.exchangePublic draw.ephemeral))),
      ("nonce", .str (b64 draw.nonce))] = encryption
    at hEncryption
  have hFields :
      Json.lookup encryption "recipient_key_id" =
          .str (keyId lib (lib.exchangePublic privateBytes)) ∧
        Json.lookup encryption "ephemeral_public_key" =
          .str (b64 (lib.exchangePublic draw.ephemeral)) ∧
        Json.lookup encryption "nonce" =
          .str (b64 draw.nonce) := by
    subst hMembers
    rw [hPair]
    exact ⟨rfl, rfl, rfl⟩
  have hEphemeral := fun field =>
    rawKey_b64
      (hIdeal.hExchangePublic draw.ephemeral draw.hEphemeral) field
  have hShared :
      lib.exchange privateBytes
        (lib.exchangePublic draw.ephemeral) = some a.shared := by
    rw [hIdeal.hAgree _ _ hLength draw.hEphemeral, ← hPair]
    exact a.hShared
  have hCiphertext :
      Json.lookup a.package "ciphertext" = .str (b64 a.sealed) :=
    rfl
  have hAad :
      canonical lib
        ((publicPart a.package).filter
          (fun m => m.1 ≠ "ciphertext")) = .ok a.aad :=
    a.hAad
  have hPlain :
      lib.decrypt (derive lib a.shared (r.pid draw)) draw.nonce
        a.sealed a.aad = some a.plaintext :=
    hIdeal.hOpens _ _ _ _ (hIdeal.hHkdf _ _ _) draw.hNonce
  have hLoads :
      loads lib a.plaintext =
        some (Json.obj (claim.modelDump lib)).sorted :=
    loads_canonical
      (tidy_dump (canonical_eq_ok.mp a.hPlaintext).1)
      a.hPlaintext
  have hClaim := ResultClaim.modelValidate_dump hDocumented claim
  have hProjection :
      ResultProjection.modelValidate lib
          (Json.lookup a.package "projection") =
        some (.of claim.toResultClaim) :=
    ResultProjection.modelValidate_dump hDocumented claim
  have hSource :
      text? (Json.lookup a.package "source_enclave") =
        some (strip r.sourceEnclave) := rfl
  have hDestination :
      text? (Json.lookup a.package "destination_enclave") =
        some (strip r.destinationEnclave) := rfl
  unfold openPackage
  simp only [hPackageId, hEncryption, hPrivate, hFields,
    isText_str, hEphemeral, unb64_b64, hShared, hCiphertext,
    hAad, orRaise, bind, Except.bind, hPlain, hLoads, hClaim,
    hProjection, hSource, hDestination, refuseIf, Bool.not_true,
    ne_eq, not_true_eq_false, decide_false, Bool.false_eq_true,
    if_false]

/- Both, at the destination that the package names. -/
theorem decryptPackage_created
    (hDocumented : lib.Documented)
    (hIdeal : lib.Ideal)
    (a : Assembly lib draw claim r)
    (hMinimal : assertPublicPackageMinimal a.package = .ok ())
    {trusted recipientPrivateKey : String}
    {privateBytes : Bytes}
    (hTrusted : rawKey (.str trusted)
      "trusted_signing_public_key" =
        .ok (lib.signingPublic a.signing))
    (hPrivate : rawKey (.str recipientPrivateKey)
      "recipient_private_key" = .ok privateBytes)
    (hPair : a.recipient = lib.exchangePublic privateBytes) :
    decryptPackage lib a.package trusted recipientPrivateKey
        (strip r.destinationEnclave) =
      .ok ⟨r.pid draw, strip r.sourceEnclave,
        strip r.destinationEnclave, claim.toResultClaim⟩ := by
  have hVerified :=
    verifyPackage_created hIdeal a hMinimal hTrusted
  have hOpened :=
    openPackage_created hDocumented hIdeal a hPrivate hPair
  unfold decryptPackage
  rw [hVerified, hOpened]
  rfl

end ResultTransfer

end TrueNorth
