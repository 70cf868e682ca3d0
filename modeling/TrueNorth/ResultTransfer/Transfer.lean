import Mathlib.Logic.Denumerable
import TrueNorth.ResultTransfer.RoundTrip

/-
  Results that cross from a low enclave to a high one: what
  is accepted is what was created, and what a package says
  in the open is the projection of its claim.

  Key definitions include:
    * `Signed`, `Opened`
    * `Unforged`
    * `names`, `readablePart`

  Main theorem:
    * `transfer_exact`
-/

--------
-- Packages That Are Accepted
--------

namespace TrueNorth

namespace ResultTransfer

open Checks Texts

variable {lib : Libraries}

/- The signature of a package, and what it is made of. -/
structure Signed
    (lib : Libraries)
    (package : List (String × Json))
    (publicBytes : Bytes) where
  members : List (String × Json)
  body : Bytes
  value : Bytes
  hMembers : Json.lookup package "signature" = .obj members
  hBody : canonical lib (publicPart package) = .ok body
  hDigest : Json.lookup members "signed_sha256" =
    .str (hexDigest (lib.sha256 body))
  hValue : unb64 (Json.lookup members "value")
    "signature.value" = .ok value
  hVerifies : lib.verifies publicBytes value body = true

theorem isText_iff
    {j : Json}
    {text : String} :
    j.isText text = true ↔ j = .str text := by
  cases j with
  | str text' => simp [Json.isText]
  | null => simp [Json.isText]
  | bool value => simp [Json.isText]
  | int value => simp [Json.isText]
  | float value => simp [Json.isText]
  | arr items => simp [Json.isText]
  | obj members => simp [Json.isText]

/- A verified package is signed, and minimal. -/
theorem signed_of_verifyPackage
    {package : List (String × Json)}
    {trusted destination : String}
    (hVerified :
      verifyPackage lib package trusted destination = true) :
    ∃ publicBytes,
      rawKey (.str trusted) "trusted_signing_public_key" =
          .ok publicBytes ∧
        Nonempty (Signed lib package publicBytes) ∧
        assertPublicPackageMinimal package = .ok () := by
  have hCheck :
      checkPackage lib package trusted destination =
        .ok true := by
    unfold verifyPackage at hVerified
    split at hVerified
    · rename_i verified hOk
      rw [hOk, hVerified]
    · cases hVerified
  unfold checkPackage at hCheck
  split at hCheck
  · cases hCheck
  split at hCheck
  · rename_i members hMembers
    split at hCheck
    · cases hCheck
    rcases bind_eq_ok.mp hCheck with ⟨publicBytes, hKey, hCheck⟩
    rcases bind_eq_ok.mp hCheck with ⟨body, hBody, hCheck⟩
    split at hCheck
    · cases hCheck
    split at hCheck
    · cases hCheck
    rename_i hDigest
    rcases bind_eq_ok.mp hCheck with ⟨value, hValue, hCheck⟩
    rcases bind_eq_ok.mp hCheck with ⟨_, hVerifies, hCheck⟩
    rcases bind_eq_ok.mp hCheck with ⟨_, hMinimal, _⟩
    rw [refuseIf_eq_ok, Bool.not_eq_false'] at hVerifies
    rw [Bool.not_eq_true, Bool.not_eq_false'] at hDigest
    exact ⟨publicBytes, hKey,
      ⟨members, body, value, hMembers, hBody,
        isText_iff.mp hDigest, hValue, hVerifies⟩, hMinimal⟩
  · cases hCheck

/- A decrypted package is verified, and opens to the result. -/
theorem openPackage_of_decrypt
    {package : List (String × Json)}
    {trusted recipientPrivateKey destination : String}
    {result : DecryptedResult}
    (hDecrypted :
      decryptPackage lib package trusted recipientPrivateKey
        destination = .ok result) :
    verifyPackage lib package trusted destination = true ∧
      openPackage lib package recipientPrivateKey =
        .ok result := by
  unfold decryptPackage at hDecrypted
  rcases bind_eq_ok.mp hDecrypted with ⟨_, hVerified, hOpened⟩
  rw [refuseIf_eq_ok, Bool.not_eq_false'] at hVerified
  refine ⟨hVerified, ?_⟩
  split at hOpened
  · rename_i result' hOk
    cases hOpened
    exact hOk
  · cases hOpened
  · cases hOpened

/- The ciphertext of a package, and the claim it opens to. -/
structure Opened
    (lib : Libraries)
    (package : List (String × Json))
    (result : DecryptedResult) where
  key : Bytes
  nonce : Bytes
  sealed : Bytes
  aad : Bytes
  plain : Bytes
  document : Json
  hPackageId : packageId? (Json.lookup package "package_id") =
    some result.packageId
  hSource : Json.lookup package "source_enclave" =
    .str result.sourceEnclave
  hDestination : Json.lookup package "destination_enclave" =
    .str result.destinationEnclave
  hSealed : unb64 (Json.lookup package "ciphertext")
    "ciphertext" = .ok sealed
  hAad : canonical lib
    ((publicPart package).filter (fun m => m.1 ≠ "ciphertext")) =
      .ok aad
  hPlain : lib.decrypt key nonce sealed aad = some plain
  hDocument : loads lib plain = some document
  hClaim : ResultClaim.modelValidate lib document =
    some result.claim
  hProjection : ResultProjection.modelValidate lib
    (Json.lookup package "projection") =
      some (.of result.claim)

theorem text?_eq_some
    {j : Json}
    {text : String}
    (hText : text? j = some text) :
    j = .str text := by
  cases j with
  | str text' =>
      cases hText
      rfl
  | null => cases hText
  | bool value => cases hText
  | int value => cases hText
  | float value => cases hText
  | arr items => cases hText
  | obj members => cases hText

theorem opened_of_openPackage
    {package : List (String × Json)}
    {recipientPrivateKey : String}
    {result : DecryptedResult}
    (hOpened :
      openPackage lib package recipientPrivateKey = .ok result) :
    Nonempty (Opened lib package result) := by
  unfold openPackage at hOpened
  rcases bind_eq_ok.mp hOpened with ⟨pid, hPackageId, hOpened⟩
  rcases bind_eq_ok.mp hOpened with ⟨encryption, _, hOpened⟩
  rcases bind_eq_ok.mp hOpened with ⟨privateBytes, _, hOpened⟩
  rcases bind_eq_ok.mp hOpened with ⟨_, _, hOpened⟩
  rcases bind_eq_ok.mp hOpened with ⟨ephemeral, _, hOpened⟩
  rcases bind_eq_ok.mp hOpened with ⟨nonce, _, hOpened⟩
  rcases bind_eq_ok.mp hOpened with ⟨shared, _, hOpened⟩
  rcases bind_eq_ok.mp hOpened with ⟨sealed, hSealed, hOpened⟩
  rcases bind_eq_ok.mp hOpened with ⟨aad, hAad, hOpened⟩
  rcases bind_eq_ok.mp hOpened with ⟨plain, hPlain, hOpened⟩
  rcases bind_eq_ok.mp hOpened with ⟨document, hDocument, hOpened⟩
  rcases bind_eq_ok.mp hOpened with ⟨claim, hClaim, hOpened⟩
  rcases bind_eq_ok.mp hOpened with
    ⟨projection, hProjection, hOpened⟩
  rcases bind_eq_ok.mp hOpened with ⟨_, hMatch, hOpened⟩
  rcases bind_eq_ok.mp hOpened with ⟨source, hSource, hOpened⟩
  rcases bind_eq_ok.mp hOpened with
    ⟨destination, hDestination, hOpened⟩
  cases hOpened
  rw [refuseIf_eq_ok, decide_eq_false_iff_not, ne_eq,
    not_not] at hMatch
  rw [orRaise_eq_ok] at hPackageId hPlain hDocument hClaim
  rw [orRaise_eq_ok] at hProjection hSource hDestination
  subst hMatch
  exact ⟨{
    key := _
    nonce := nonce
    sealed := sealed
    aad := aad
    plain := plain
    document := document
    hPackageId := hPackageId
    hSource := text?_eq_some hSource
    hDestination := text?_eq_some hDestination
    hSealed := hSealed
    hAad := hAad
    hPlain := hPlain
    hDocument := hDocument
    hClaim := hClaim
    hProjection := hProjection }⟩

--------
-- Signatures That Are Not Forged
--------

open Checks Texts

variable {lib : Libraries}

/-
  The signature on a package, where it is verified, was made
  for a package that was created under that key.
-/
def Unforged
    (lib : Libraries)
    (signing : Bytes)
    (package : List (String × Json)) : Prop :=
  ∀ s : Signed lib package (lib.signingPublic signing),
    ∃ (draw : Draw) (claim : TimedClaim) (r : Request)
      (created : List (String × Json))
      (projection : ResultProjection),
      createPackage lib draw claim r = .ok (created, projection) ∧
        rawKey (.str r.signingPrivateKey)
          "signing_private_key" = .ok signing ∧
        canonical lib (publicPart created) = .ok s.body

namespace Assembly

variable {draw : Draw}
variable {claim : TimedClaim}
variable {r : Request}

theorem nodup_unsigned
    (a : Assembly lib draw claim r) :
    (a.unsigned.map Prod.fst).Nodup := by
  have hKeys : a.unsigned.map Prod.fst =
      ["format", "package_id", "source_enclave",
        "destination_enclave", "created_at", "projection",
        "encryption", "ciphertext"] := rfl
  rw [hKeys]
  decide

/- Before it is signed, a package has texts and records. -/
theorem plain_unsigned
    (a : Assembly lib draw claim r) :
    (Json.obj a.unsigned).Plain := by
  simp [Json.Plain, Json.PlainMembers, Json.PlainMember,
    unsigned, header, ResultTransfer.header, uuidJson,
    ResultProjection.modelDump]

/- What has the same bytes has the same members. -/
theorem sorted_eq_of_body
    (hDocumented : lib.Documented)
    (a : Assembly lib draw claim r)
    {members : List (String × Json)}
    {body : Bytes}
    (hBody : canonical lib members = .ok body)
    (hSame : canonical lib a.unsigned = .ok body) :
    (Json.obj members).sorted = (Json.obj a.unsigned).sorted := by
  have hWritten := (canonical_eq_ok.mp hBody).2
  have hUnsigned := (canonical_eq_ok.mp hSame).2
  exact Json.write_injective hDocumented.hFloat
    (Json.plain_sorted _ a.plain_unsigned)
    (utf8_injective (hWritten.trans hUnsigned.symm))

end Assembly

theorem lookup_publicPart
    {package : List (String × Json)}
    {key : String}
    (hKey : key ≠ "signature") :
    Json.lookup (publicPart package) key =
      Json.lookup package key := by
  unfold publicPart
  induction package with
  | nil => rfl
  | cons m package ih =>
      unfold Json.lookup at ih ⊢
      by_cases hSignature : m.1 = "signature"
      · have hOther : ¬ m.1 = key :=
          fun hSame => hKey (hSame.symm.trans hSignature)
        rw [List.filter_cons_of_neg (by simp [hSignature]),
          List.find?_cons_of_neg (by simp [hOther])]
        exact ih
      · rw [List.filter_cons_of_pos (by simp [hSignature])]
        by_cases hSame : m.1 = key
        · rw [List.find?_cons_of_pos (by simp [hSame]),
            List.find?_cons_of_pos (by simp [hSame])]
        · rw [List.find?_cons_of_neg (by simp [hSame]),
            List.find?_cons_of_neg (by simp [hSame])]
          exact ih

/-
  A verified package has what a created one has, and opens
  to the claim that was put into it.
-/
theorem accepted_was_created
    (hDocumented : lib.Documented)
    (hIdeal : lib.Ideal)
    {package : List (String × Json)}
    {trusted destination : String}
    {signing : Bytes}
    (hTrusted : rawKey (.str trusted)
      "trusted_signing_public_key" =
        .ok (lib.signingPublic signing))
    (hUnforged : Unforged lib signing package)
    (hVerified :
      verifyPackage lib package trusted destination = true) :
    ∃ (draw : Draw) (claim : TimedClaim) (r : Request)
      (created : List (String × Json))
      (projection : ResultProjection),
      createPackage lib draw claim r = .ok (created, projection) ∧
        (Json.obj (publicPart package)).sorted =
          (Json.obj (publicPart created)).sorted ∧
        ∀ recipientPrivateKey result,
          decryptPackage lib package trusted recipientPrivateKey
              destination = .ok result →
            result = ⟨r.pid draw, strip r.sourceEnclave,
              strip r.destinationEnclave, claim.toResultClaim⟩ := by
  rcases signed_of_verifyPackage hVerified with
    ⟨publicBytes, hKey, ⟨signed⟩, _⟩
  rw [hTrusted] at hKey
  cases hKey
  rcases hUnforged signed with
    ⟨draw, claim, r, created, projection, hCreated, _, hBody⟩
  rcases createPackage_eq_ok hCreated with ⟨_, a, hPackage, _⟩
  have hUnsigned : publicPart created = a.unsigned := by
    rw [hPackage]
    rfl
  rw [hUnsigned] at hBody
  have hSame :=
    a.sorted_eq_of_body hDocumented signed.hBody hBody
  refine ⟨draw, claim, r, created, projection, hCreated,
    by rw [hUnsigned]; exact hSame, ?_⟩
  intro recipientPrivateKey result hDecrypted
  rcases opened_of_openPackage
      (openPackage_of_decrypt hDecrypted).2 with
    ⟨opened⟩
  have hText {key text : String}
      (hNot : key ≠ "signature")
      (hMember :
        Json.member? a.unsigned key = some (.str text)) :
      Json.lookup package key = .str text := by
    rw [← lookup_publicPart hNot]
    exact Json.lookup_str_of_sorted_eq a.nodup_unsigned hSame
      hMember
  have hPackageId := opened.hPackageId
  rw [hText (by decide) (show _ = some
      (Json.str (Uuid.text (r.pid draw))) from rfl),
    packageId?_str,
    Uuid.parse?_text (r.pid draw).isLt] at hPackageId
  have hSource := opened.hSource
  rw [hText (by decide) (show _ = some
      (Json.str (strip r.sourceEnclave)) from rfl),
    Json.str.injEq] at hSource
  have hDestination := opened.hDestination
  rw [hText (by decide) (show _ = some
      (Json.str (strip r.destinationEnclave)) from rfl),
    Json.str.injEq] at hDestination
  have hCiphertext := opened.hSealed
  rw [hText (by decide) (show _ = some
      (Json.str (b64 a.sealed)) from rfl),
    unb64_b64, Except.ok.injEq] at hCiphertext
  have hPlain := opened.hPlain
  rw [← hCiphertext] at hPlain
  have hPlaintext : opened.plain = a.plaintext :=
    hIdeal.hSealed _ _ _ _ _ _ _ _ hPlain
  have hDocument := opened.hDocument
  rw [hPlaintext, loads_canonical
    (tidy_dump (canonical_eq_ok.mp a.hPlaintext).1)
    a.hPlaintext] at hDocument
  have hClaim := opened.hClaim
  rw [← Option.some.inj hDocument,
    ResultClaim.modelValidate_dump hDocumented claim] at hClaim
  rcases result with ⟨pid, source, destination', claim'⟩
  simp only at hPackageId hSource hDestination hClaim
  rw [← Option.some.inj hPackageId, ← hSource, ← hDestination,
    ← Option.some.inj hClaim]

--------
-- What Is Readable
--------

open Checks Texts

variable {lib : Libraries}

/- What a package says without its ciphertext or signature. -/
def readablePart
    (package : List (String × Json)) : List (String × Json) :=
  (publicPart package).filter (fun m => m.1 ≠ "ciphertext")

mutual

/- The names of the members, at every depth. -/
def names :
    Json → List String
| .obj members => memberNames members
| .arr items => itemNames items
| _ => []

def itemNames :
    List Json → List String
| [] => []
| item :: items => names item ++ itemNames items

def memberNames :
    List (String × Json) → List String
| [] => []
| member :: members => nameOf member ++ memberNames members

def nameOf :
    String × Json → List String
| (key, nested) =>
    key :: (if key ≠ "ciphertext" then names nested else [])

end

mutual

/- A value that was walked has no prohibited name. -/
theorem names_of_walk
    (j : Json)
    (hWalk : walk j = .ok ()) :
    ∀ key ∈ names j, prohibited key = false := by
  cases j with
  | obj members =>
      rw [walk] at hWalk
      rw [names]
      exact names_of_walkMembers members hWalk
  | arr items =>
      rw [walk] at hWalk
      rw [names]
      exact names_of_walkItems items hWalk
  | null => simp [names]
  | bool value => simp [names]
  | int value => simp [names]
  | float value => simp [names]
  | str text => simp [names]

theorem names_of_walkItems
    (items : List Json)
    (hWalk : walkItems items = .ok ()) :
    ∀ key ∈ itemNames items, prohibited key = false := by
  cases items with
  | nil => simp [itemNames]
  | cons item items =>
      rw [walkItems] at hWalk
      rcases bind_eq_ok.mp hWalk with ⟨_, hItem, hItems⟩
      intro key hMem
      rw [itemNames] at hMem
      rcases List.mem_append.mp hMem with hFirst | hRest
      · exact names_of_walk item hItem key hFirst
      · exact names_of_walkItems items hItems key hRest

theorem names_of_walkMembers
    (members : List (String × Json))
    (hWalk : walkMembers members = .ok ()) :
    ∀ key ∈ memberNames members, prohibited key = false := by
  cases members with
  | nil => simp [memberNames]
  | cons member members =>
      rw [walkMembers] at hWalk
      rcases bind_eq_ok.mp hWalk with ⟨_, hMember, hMembers⟩
      intro key hMem
      rw [memberNames] at hMem
      rcases List.mem_append.mp hMem with hFirst | hRest
      · exact names_of_walkMember member hMember key hFirst
      · exact names_of_walkMembers members hMembers key hRest

theorem names_of_walkMember
    (member : String × Json)
    (hWalk : walkMember member = .ok ()) :
    ∀ key ∈ nameOf member, prohibited key = false := by
  rcases member with ⟨key, nested⟩
  rw [walkMember] at hWalk
  rcases bind_eq_ok.mp hWalk with ⟨_, hName, hNested⟩
  intro key' hMem
  rw [nameOf] at hMem
  rcases List.mem_cons.mp hMem with rfl | hInner
  · exact refuseIf_eq_ok.mp hName
  · split at hInner
    · rename_i hNot
      rw [if_pos hNot] at hNested
      exact names_of_walk nested hNested key' hInner
    · cases hInner

end

theorem names_of_minimal
    {package : List (String × Json)}
    (hMinimal : assertPublicPackageMinimal package = .ok ()) :
    ∀ key ∈ names (.obj package), prohibited key = false := by
  unfold assertPublicPackageMinimal at hMinimal
  rcases bind_eq_ok.mp hMinimal with ⟨_, _, hMinimal⟩
  rcases bind_eq_ok.mp hMinimal with ⟨_, _, hMinimal⟩
  rcases bind_eq_ok.mp hMinimal with ⟨_, _, hMinimal⟩
  rcases bind_eq_ok.mp hMinimal with ⟨_, _, hWalk⟩
  exact names_of_walk _ hWalk

/-
  Claims with one projection are read alike; with one
  ciphertext too, their packages are the same.
-/
theorem readable_of_projection
    {draw : Draw}
    {claim claim' : TimedClaim}
    {r : Request}
    {package package' : List (String × Json)}
    {projection : ResultProjection}
    (hCreated :
      createPackage lib draw claim r = .ok (package, projection))
    (hCreated' :
      createPackage lib draw claim' r =
        .ok (package', projection)) :
    readablePart package = readablePart package' ∧
      (Json.lookup package "ciphertext" =
          Json.lookup package' "ciphertext" →
        package = package') := by
  rcases createPackage_eq_ok hCreated with
    ⟨hProjection, a, hPackage, _⟩
  rcases createPackage_eq_ok hCreated' with
    ⟨hProjection', a', hPackage', _⟩
  have hTime : a.createdAt = a'.createdAt :=
    Option.some.inj (a.hCreatedAt.symm.trans a'.hCreatedAt)
  have hRecipient : a.recipient = a'.recipient :=
    Except.ok.inj (a.hRecipient.symm.trans a'.hRecipient)
  have hSigning : a.signing = a'.signing :=
    Except.ok.inj (a.hSigning.symm.trans a'.hSigning)
  have hHeader : a.header = a'.header := by
    unfold Assembly.header
    rw [hTime, hRecipient, ← hProjection, ← hProjection']
  have hRead : readablePart package = a.header := by
    rw [hPackage]
    rfl
  have hRead' : readablePart package' = a'.header := by
    rw [hPackage']
    rfl
  refine ⟨by rw [hRead, hRead', hHeader], ?_⟩
  intro hCiphertext
  have hSealed : Json.str (b64 a.sealed) =
      Json.str (b64 a'.sealed) := by
    rw [hPackage, hPackage'] at hCiphertext
    exact hCiphertext
  have hUnsigned : a.unsigned = a'.unsigned := by
    unfold Assembly.unsigned
    rw [hHeader, hSealed]
  have hBody : a.body = a'.body := by
    have hBytes : canonical lib a.unsigned = .ok a.body := a.hBody
    have hBytes' : canonical lib a'.unsigned = .ok a'.body :=
      a'.hBody
    rw [hUnsigned] at hBytes
    exact Except.ok.inj (hBytes.symm.trans hBytes')
  rw [hPackage, hPackage']
  unfold Assembly.package
  rw [hUnsigned, hSigning, hBody]

--------
-- From Enclave To Enclave
--------

open Checks Texts

/-
  What was created is verified and decrypted to its claim.
  What is decrypted has the projection, digest and
  ciphertext of the claim it gives, and what is verified and
  not forged has what a created package has.  A created
  package says of its claim what the projection says.
-/
theorem transfer_exact
    (lib : Libraries)
    (hDocumented : lib.Documented)
    (hIdeal : lib.Ideal) :
    (∀ draw claim r package projection signing privateBytes
        trusted recipientPrivateKey,
      createPackage lib draw claim r = .ok (package, projection) →
      rawKey (.str r.signingPrivateKey) "signing_private_key" =
        .ok signing →
      rawKey (.str trusted) "trusted_signing_public_key" =
        .ok (lib.signingPublic signing) →
      rawKey (.str recipientPrivateKey) "recipient_private_key" =
        .ok privateBytes →
      rawKey (.str r.recipientPublicKey) "recipient_public_key" =
        .ok (lib.exchangePublic privateBytes) →
      verifyPackage lib package trusted
          (strip r.destinationEnclave) = true ∧
        decryptPackage lib package trusted recipientPrivateKey
            (strip r.destinationEnclave) =
          .ok ⟨r.pid draw, strip r.sourceEnclave,
            strip r.destinationEnclave, claim.toResultClaim⟩) ∧
    (∀ package trusted recipientPrivateKey destination result,
      decryptPackage lib package trusted recipientPrivateKey
          destination = .ok result →
        (∃ publicBytes,
          rawKey (.str trusted) "trusted_signing_public_key" =
              .ok publicBytes ∧
            Nonempty (Signed lib package publicBytes)) ∧
          Nonempty (Opened lib package result)) ∧
    (∀ package trusted destination signing,
      rawKey (.str trusted) "trusted_signing_public_key" =
        .ok (lib.signingPublic signing) →
      Unforged lib signing package →
      verifyPackage lib package trusted destination = true →
        ∃ (draw : Draw) (claim : TimedClaim) (r : Request)
          (created : List (String × Json))
          (projection : ResultProjection),
          createPackage lib draw claim r =
              .ok (created, projection) ∧
            (Json.obj (publicPart package)).sorted =
              (Json.obj (publicPart created)).sorted ∧
            ∀ recipientPrivateKey result,
              decryptPackage lib package trusted
                  recipientPrivateKey destination = .ok result →
                result = ⟨r.pid draw, strip r.sourceEnclave,
                  strip r.destinationEnclave,
                  claim.toResultClaim⟩) ∧
    (∀ draw claim r package projection,
      createPackage lib draw claim r = .ok (package, projection) →
        projection = .of claim.toResultClaim ∧
        (∀ key ∈ names (.obj package), prohibited key = false) ∧
        ∀ claim' package',
          createPackage lib draw claim' r =
              .ok (package', projection) →
            readablePart package = readablePart package' ∧
              (Json.lookup package "ciphertext" =
                  Json.lookup package' "ciphertext" →
                package = package')) := by
  refine ⟨?_, ?_, ?_, ?_⟩
  · intro draw claim r package projection signing privateBytes
      trusted recipientPrivateKey hCreated hSigning hTrusted
      hPrivate hRecipient
    rcases createPackage_eq_ok hCreated with
      ⟨_, a, rfl, hMinimal⟩
    have hKey : signing = a.signing :=
      Except.ok.inj (hSigning.symm.trans a.hSigning)
    have hPair : a.recipient = lib.exchangePublic privateBytes :=
      Except.ok.inj (a.hRecipient.symm.trans hRecipient)
    rw [hKey] at hTrusted
    exact ⟨verifyPackage_created hIdeal a hMinimal hTrusted,
      decryptPackage_created hDocumented hIdeal a hMinimal
        hTrusted hPrivate hPair⟩
  · intro package trusted recipientPrivateKey destination result
      hDecrypted
    rcases openPackage_of_decrypt hDecrypted with
      ⟨hVerified, hOpened⟩
    rcases signed_of_verifyPackage hVerified with
      ⟨publicBytes, hKey, hSigned, _⟩
    exact ⟨⟨publicBytes, hKey, hSigned⟩,
      opened_of_openPackage hOpened⟩
  · intro package trusted destination signing hTrusted hUnforged
      hVerified
    exact accepted_was_created hDocumented hIdeal hTrusted
      hUnforged hVerified
  · intro draw claim r package projection hCreated
    rcases createPackage_eq_ok hCreated with
      ⟨hProjection, a, _, hMinimal⟩
    refine ⟨hProjection, names_of_minimal hMinimal, ?_⟩
    intro claim' package' hCreated'
    exact readable_of_projection hCreated hCreated'

end ResultTransfer

end TrueNorth

--------
-- Two Enclaves
--------

namespace TrueNorth

namespace ResultTransfer

namespace TwoEnclaves

open Texts

/- Bytes that say where they end. -/
def framed (bytes : Bytes) : Bytes :=
  bytes.flatMap (fun b => [1, b]) ++ [0]

theorem framed_injective
    {bytes bytes' rest rest' : Bytes}
    (hSame : framed bytes ++ rest = framed bytes' ++ rest') :
    bytes = bytes' ∧ rest = rest' := by
  induction bytes generalizing bytes' with
  | nil =>
      cases bytes' with
      | nil =>
          exact ⟨rfl, (List.cons.inj hSame).2⟩
      | cons b' bytes' => cases hSame
  | cons b bytes ih =>
      cases bytes' with
      | nil => cases hSame
      | cons b' bytes' =>
          have hRest := List.cons.inj (List.cons.inj hSame).2
          rcases ih hRest.2 with ⟨rfl, hEnd⟩
          exact ⟨by rw [hRest.1], hEnd⟩

/- What a sealed text is opened with. -/
def lock (key nonce aad : Bytes) : Bytes :=
  framed key ++ (framed nonce ++ framed aad)

def noon : Datetime :=
  ⟨1792765800000000, some 0, by decide, by decide⟩

/- Times as numbers, but for one that is written out. -/
def timeText (t : Datetime) : String :=
  if t = noon then "2026-10-23T14:30:00Z"
  else String.ofList
    (List.replicate (Encodable.encode (t.wall, t.offset)) 'x')

def timeOf :
    Json → Option Datetime
| .str text =>
    if text = "2026-10-23T14:30:00Z" then some noon
    else
      match Encodable.decode (α := Int × Option Int)
          text.toList.length with
      | none => none
      | some (wall, offset) =>
          if hTime :
              (Calendar.first ≤ wall ∧ wall ≤ Calendar.last) ∧
                ∀ m ∈ offset, -1440 < m ∧ m < 1440 then
            some ⟨wall, offset, hTime.1, hTime.2⟩
          else none
| _ => none

/- Keys are their own public keys, and seals can be seen. -/
def lib : Libraries where
  sha256 := fun bytes => (bytes ++ List.replicate 32 0).take 32
  signingPublic := id
  sign := fun key body => framed key ++ body
  verifies := fun key value body => value = framed key ++ body
  exchangePublic := id
  exchange := fun a b => some (List.zipWith (· + ·) a b)
  hkdf := fun shared _ _ =>
    (shared ++ List.replicate 32 0).take 32
  encrypt := fun key nonce plain aad =>
    lock key nonce aad ++ plain
  decrypt := fun key nonce sealed aad =>
    if (lock key nonce aad).isPrefixOf sealed then
      some (sealed.drop (lock key nonce aad).length)
    else none
  uuidOf := fun j => (text? j).bind Uuid.parse?
  intOf := fun j =>
    match j with
    | .int n => some n
    | _ => none
  datetimeOf := timeOf
  datetimeText := timeText
  floatText := fun _ => String.ofList ['0', '.', '0']
  loadsOther := fun _ => none

theorem timeOf_timeText
    (t : Datetime) :
    timeOf (.str (timeText t)) = some t := by
  unfold timeText timeOf
  by_cases hNoon : t = noon
  · simp [hNoon]
  · have hText :
        String.ofList (List.replicate
          (Encodable.encode (t.wall, t.offset)) 'x') ≠
        "2026-10-23T14:30:00Z" := by
      intro hSame
      have hChars := congrArg String.toList hSame
      rw [String.toList_ofList] at hChars
      have hMem : 'Z' ∈ List.replicate
          (Encodable.encode (t.wall, t.offset)) 'x' := by
        rw [hChars]
        decide
      exact absurd (List.eq_of_mem_replicate hMem) (by decide)
    have hTime :
        (Calendar.first ≤ t.wall ∧ t.wall ≤ Calendar.last) ∧
          ∀ m ∈ t.offset, -1440 < m ∧ m < 1440 :=
      ⟨t.hWall, t.hOffset⟩
    simp only [hNoon, hText, if_false, String.toList_ofList,
      List.length_replicate, Encodable.encodek, hTime]
    exact dif_pos ⟨⟨trivial, trivial⟩, hTime.2⟩

theorem uuidOf_text
    (id : Uuid) :
    lib.uuidOf (uuidJson id) = Uuid.parse? (Uuid.text id) := by
  simp only [lib, uuidJson, text?, Option.bind_some]

theorem documented : lib.Documented where
  hUuid := by
    intro id hBits
    rw [uuidOf_text, Uuid.parse?_text hBits]
  hInt := fun n => rfl
  hDatetime := fun t _ => timeOf_timeText t
  hFloat := fun d =>
    ⟨'0', ['.', '0'], String.toList_ofList, by decide, by decide⟩

theorem length_padded
    (bytes : Bytes) :
    ((bytes ++ List.replicate 32 0).take 32).length = 32 := by
  rw [List.length_take, List.length_append,
    List.length_replicate]
  omega

theorem ideal : lib.Ideal where
  hSigningPublic := fun k hLength => hLength
  hExchangePublic := fun k hLength => hLength
  hVerifies := fun k body hLength => decide_eq_true rfl
  hAgree := by
    intro a b hLength hLength'
    exact congrArg some (List.zipWith_comm_of_comm UInt8.add_comm)
  hHkdf := fun shared _ _ => length_padded shared
  hOpens := by
    intro key nonce plain aad _ _
    have hPrefix :
        (lock key nonce aad).isPrefixOf
          (lock key nonce aad ++ plain) = true :=
      List.isPrefixOf_iff_prefix.mpr (List.prefix_append _ _)
    exact (if_pos hPrefix).trans
      (congrArg some (List.drop_left))
  hSealed := by
    intro key nonce aad key' nonce' plain aad' opened hOpened
    have hPrefix : (lock key nonce aad).isPrefixOf
        (lock key' nonce' aad' ++ plain) = true := by
      by_contra hNot
      have hNone : lib.decrypt key nonce
          (lock key' nonce' aad' ++ plain) aad = none :=
        if_neg hNot
      have hNone' := hNone.symm.trans hOpened
      cases hNone'
    have hSome : lib.decrypt key nonce
        (lock key' nonce' aad' ++ plain) aad =
          some ((lock key' nonce' aad' ++ plain).drop
            (lock key nonce aad).length) :=
      if_pos hPrefix
    rcases List.isPrefixOf_iff_prefix.mp hPrefix with
      ⟨rest, hRest⟩
    have hOpenedRest : opened = rest := by
      have hDrop := hSome.symm.trans hOpened
      rw [← hRest, List.drop_left] at hDrop
      exact (Option.some.inj hDrop).symm
    unfold lock at hRest
    simp only [List.append_assoc] at hRest
    have hFrames :=
      (framed_injective (framed_injective
        (framed_injective hRest).2).2).2
    rw [hOpenedRest, hFrames]

def claim : TimedClaim where
  opaqueSubjectId := 1
  tenantId := 2
  courseReleaseId := 3
  assessmentId := "exercise-final"
  attemptId := 4
  rawScore := 87
  maxScore := 100
  outcome := .pass
  scorerVersion := "scenario-v3"
  evidenceSha256 := []
  supersedesPackageId := none
  occurredAt := 1792765800000000
  hAssessment := by decide
  hScorer := by decide
  hMax := by decide
  hScore := by decide
  hCount := by decide
  hEvidence := rfl
  occurred := noon
  hOccurred := by decide
  hSubject := by decide
  hTenant := by decide
  hRelease := by decide
  hAttempt := by decide
  hSupersedes := by simp

def signingKey : Bytes := List.replicate 32 7

def recipientKey : Bytes := List.replicate 32 9

def request : Request where
  sourceEnclave := "UNCLASS"
  destinationEnclave := " SECRET"
  signingPrivateKey := b64 signingKey
  recipientPublicKey := b64 recipientKey
  packageId := none
  createdAt := none

def draw : Draw where
  uuid4 := 5
  now := noon
  ephemeral := List.replicate 32 3
  nonce := List.replicate 12 1
  hEphemeral := rfl
  hNonce := rfl

theorem created :
    ∃ package projection,
      createPackage lib draw claim request =
        .ok (package, projection) := by
  have hOk : (createPackage lib draw claim request).isOk = true := by
    decide
  cases hCreated : createPackage lib draw claim request with
  | error e =>
      rw [hCreated] at hOk
      cases hOk
  | ok p => exact ⟨p.1, p.2, rfl⟩

/- A result crosses: the claim is what it was. -/
theorem transferred :
    ∃ package,
      verifyPackage lib package (b64 signingKey) "SECRET" = true ∧
        decryptPackage lib package (b64 signingKey)
            (b64 recipientKey) "SECRET" =
          .ok ⟨5, "UNCLASS", "SECRET", claim.toResultClaim⟩ := by
  rcases created with ⟨package, projection, hCreated⟩
  have hKey (bytes : Bytes)
      (hLength : bytes.length = 32)
      (field : String) :
      rawKey (.str (b64 bytes)) field = .ok bytes :=
    rawKey_b64 hLength field
  have hExact :=
    (transfer_exact lib documented ideal).1 draw claim request
      package projection signingKey recipientKey
      (b64 signingKey) (b64 recipientKey) hCreated
      (hKey signingKey rfl _) (hKey signingKey rfl _)
      (hKey recipientKey rfl _) (hKey recipientKey rfl _)
  have hDestination :
      strip request.destinationEnclave = "SECRET" := by
    decide
  have hSource : strip request.sourceEnclave = "UNCLASS" := by
    decide
  rw [hDestination, hSource] at hExact
  exact ⟨package, hExact⟩

/- A created package says who passed, outside its cipher. -/
theorem outcome_is_readable :
    ∃ package projection,
      createPackage lib draw claim request =
          .ok (package, projection) ∧
        Json.lookup (readablePart package) "projection" =
          .obj [("opaque_subject_id", uuidJson claim.opaqueSubjectId),
            ("course_release_id", uuidJson claim.courseReleaseId),
            ("assessment_id", .str claim.assessmentId),
            ("attempt_id", uuidJson claim.attemptId),
            ("outcome", .str claim.outcome.value)] := by
  rcases created with ⟨package, projection, hCreated⟩
  refine ⟨package, projection, hCreated, ?_⟩
  rcases createPackage_eq_ok hCreated with ⟨_, a, rfl, _⟩
  rfl

end TwoEnclaves

end ResultTransfer

end TrueNorth
