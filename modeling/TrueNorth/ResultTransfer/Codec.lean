import TrueNorth.ResultTransfer.Contract

/-
  What is written into a package is read out of it: bytes as
  base64, documents as canonical JSON, claims and their
  projections as pydantic dumps and validates them.

  Key definitions include:
    * `Libraries.Documented`

  Main theorems:
    * `loads_canonical`
    * `ResultClaim.modelValidate_dump`
    * `ResultProjection.modelValidate_dump`
-/

--------
-- Bytes
--------

namespace TrueNorth

namespace ResultTransfer

open Texts

/-
  What the documentation of pydantic and Python says: a
  UUID's or a zoned time's own text and an integer are
  taken as they are, and no double is written like a text
  or an object.
-/
structure Libraries.Documented (lib : Libraries) : Prop where
  hUuid : ∀ id < 2 ^ 128, lib.uuidOf (uuidJson id) = some id
  hInt : ∀ n, lib.intOf (.int n) = some n
  hDatetime : ∀ t : Datetime, t.offset.isSome = true →
    lib.datetimeOf (.str (lib.datetimeText t)) = some t
  hFloat : JsonText.FloatsApart lib.floatText

theorem unb64_b64
    (bytes : Bytes)
    (field : String) :
    unb64 (.str (b64 bytes)) field = .ok bytes := by
  unfold unb64 b64 text?
  rw [Option.bind_some, String.toList_ofList,
    Base64.decode?_encode]

theorem rawKey_b64
    {bytes : Bytes}
    (hLength : bytes.length = 32)
    (field : String) :
    rawKey (.str (b64 bytes)) field = .ok bytes := by
  unfold rawKey
  rw [unb64_b64]
  exact if_pos hLength

theorem canonical_eq_ok
    {lib : Libraries}
    {members : List (String × Json)}
    {bytes : Bytes} :
    canonical lib members = .ok bytes ↔
      (Json.obj members).hasText = true ∧
        utf8 ((Json.obj members).sorted.write lib.floatText) =
          bytes := by
  unfold canonical
  split
  · rename_i hText
    rw [Except.ok.injEq]
    exact ⟨fun h => ⟨hText, h⟩, fun h => h.2⟩
  · rename_i hNot
    constructor
    · intro h
      cases h
    · intro h
      exact absurd h.1 hNot

/- A canonical document is loaded with its keys in order. -/
theorem loads_canonical
    {lib : Libraries}
    {members : List (String × Json)}
    {bytes : Bytes}
    (hTidy : (Json.obj members).Tidy)
    (hBytes : canonical lib members = .ok bytes) :
    loads lib bytes = some (Json.obj members).sorted := by
  have hWritten := (canonical_eq_ok.mp hBytes).2
  unfold loads
  rw [← hWritten, utf8?_utf8, Option.bind_some,
    Json.loads?_write (Json.tidy_sorted _ hTidy)]
  rfl

--------
-- Claims
--------

variable {lib : Libraries}

theorem tidyItems_str
    (texts : List String) :
    Json.TidyItems (texts.map .str) := by
  induction texts with
  | nil => rw [List.map_nil, Json.TidyItems]; trivial
  | cons text texts ih =>
      rw [List.map_cons, Json.TidyItems]
      exact ⟨by rw [Json.Tidy]; all_goals simp, ih⟩

/- A dump whose integers have a text is tidy. -/
theorem tidy_dump
    {claim : TimedClaim}
    (hText : (Json.obj (claim.modelDump lib)).hasText = true) :
    (Json.obj (claim.modelDump lib)).Tidy := by
  have hScores :
      JsonText.shortInt claim.rawScore = true ∧
        JsonText.shortInt claim.maxScore = true := by
    unfold TimedClaim.modelDump at hText
    simp only [Json.hasText, Json.membersHaveText,
      Json.memberHasText, Bool.and_eq_true] at hText
    exact ⟨hText.2.2.2.2.2.1, hText.2.2.2.2.2.2.1⟩
  have hSupersedes :
      ((claim.supersedesPackageId.map uuidJson).getD
        .null).Tidy := by
    cases claim.supersedesPackageId with
    | none => simp [Json.Tidy]
    | some id => simp [Json.Tidy, uuidJson]
  unfold TimedClaim.modelDump
  rw [Json.Tidy]
  refine ⟨by simp, ?_⟩
  rw [Json.tidyMembers_iff]
  intro m hMem
  simp only [List.mem_cons, List.not_mem_nil, or_false] at hMem
  rcases hMem with rfl | rfl | rfl | rfl | rfl | rfl | rfl | rfl |
    rfl | rfl | rfl | rfl
  case inr.inr.inr.inr.inr.inl => simpa [Json.Tidy] using hScores.1
  case inr.inr.inr.inr.inr.inr.inl =>
    simpa [Json.Tidy] using hScores.2
  case inr.inr.inr.inr.inr.inr.inr.inr.inr.inl =>
    simpa [Json.Tidy] using tidyItems_str claim.evidenceSha256
  case inr.inr.inr.inr.inr.inr.inr.inr.inr.inr.inl =>
    exact hSupersedes
  all_goals simp [Json.Tidy, uuidJson]

theorem text?_str
    (text : String) :
    text? (.str text) = some text :=
  rfl

theorem outcome?_value
    (outcome : Outcome) :
    outcome? (.str outcome.value) = some outcome := by
  cases outcome with
  | pass => rfl
  | fail => rfl

theorem evidence?_dump
    (texts : List String) :
    evidence? (some (.arr (texts.map .str))) = some texts := by
  unfold evidence?
  induction texts with
  | nil => rfl
  | cons text texts ih =>
      simp only at ih ⊢
      rw [List.map_cons, List.mapM_cons, text?_str, ih]
      rfl

theorem sortedItems_str
    (texts : List String) :
    Json.sortedItems (texts.map .str) = texts.map .str := by
  induction texts with
  | nil => rw [List.map_nil, Json.sortedItems]
  | cons text texts ih =>
      rw [List.map_cons, Json.sortedItems, ih, Json.sorted]
      all_goals simp

theorem sorted_uuidJson
    (id : Uuid) :
    (uuidJson id).sorted = uuidJson id := by
  unfold uuidJson
  rw [Json.sorted]
  all_goals simp

theorem supersedes?_dump
    (hDocumented : lib.Documented)
    {id : Option Uuid}
    (hBits : ∀ s ∈ id, s < 2 ^ 128) :
    supersedes? lib (some ((id.map uuidJson).getD .null)) =
      some id := by
  cases id with
  | none => rfl
  | some s =>
      have hUuid := hDocumented.hUuid s (hBits s rfl)
      simp only [uuidJson] at hUuid
      simp only [Option.map_some, Option.getD_some, uuidJson,
        supersedes?, hUuid]

/- Sorting a record does not bring in other members. -/
theorem noExtra_sorted
    {fields : List String}
    {members : List (String × Json)}
    (hFields : ∀ m ∈ members, m.1 ∈ fields) :
    noExtra fields
      (Json.inOrder (Json.sortedMembers members)) = true := by
  unfold noExtra
  rw [List.all_eq_true]
  intro m hMem
  rw [(Json.inOrder_perm _).mem_iff, Json.sortedMembers_eq] at hMem
  rcases List.mem_map.mp hMem with ⟨m', hIn, rfl⟩
  exact List.contains_iff_mem.mpr (hFields m' hIn)

/- A record with the fields of a claim is validated as it. -/
theorem ResultClaim.modelValidate_eq
    {claim : ResultClaim}
    {members : List (String × Json)}
    {occurred : Datetime}
    (hSubject : (Json.member? members "opaque_subject_id").bind
      lib.uuidOf = some claim.opaqueSubjectId)
    (hTenant : (Json.member? members "tenant_id").bind
      lib.uuidOf = some claim.tenantId)
    (hRelease : (Json.member? members "course_release_id").bind
      lib.uuidOf = some claim.courseReleaseId)
    (hAssessment : (Json.member? members "assessment_id").bind
      text? = some claim.assessmentId)
    (hAttempt : (Json.member? members "attempt_id").bind
      lib.uuidOf = some claim.attemptId)
    (hRaw : (Json.member? members "raw_score").bind
      lib.intOf = some (claim.rawScore : Int))
    (hMax : (Json.member? members "max_score").bind
      lib.intOf = some (claim.maxScore : Int))
    (hOutcome : (Json.member? members "outcome").bind
      outcome? = some claim.outcome)
    (hScorer : (Json.member? members "scorer_version").bind
      text? = some claim.scorerVersion)
    (hEvidence : evidence?
      (Json.member? members "evidence_sha256") =
        some claim.evidenceSha256)
    (hSupersedes : supersedes? lib
      (Json.member? members "supersedes_package_id") =
        some claim.supersedesPackageId)
    (hOccurred : (Json.member? members "occurred_at").bind
      lib.datetimeOf = some occurred)
    (hInstant : occurred.instant? = some claim.occurredAt)
    (hNoExtra : noExtra claimFields members = true) :
    ResultClaim.modelValidate lib (.obj members) = some claim := by
  have hFields :
      claimFields? lib members =
        some {
          opaqueSubjectId := claim.opaqueSubjectId
          tenantId := claim.tenantId
          courseReleaseId := claim.courseReleaseId
          assessmentId := claim.assessmentId
          attemptId := claim.attemptId
          rawScore := claim.rawScore
          maxScore := claim.maxScore
          outcome := claim.outcome
          scorerVersion := claim.scorerVersion
          evidenceSha256 := claim.evidenceSha256
          supersedesPackageId := claim.supersedesPackageId
          occurredAt := claim.occurredAt } := by
    unfold claimFields?
    simp only [Option.bind_eq_bind, Option.bind_some, hSubject,
      hTenant, hRelease, hAssessment, hAttempt, hRaw, hMax,
      hOutcome, hScorer, hEvidence, hSupersedes, hOccurred,
      hInstant]
  unfold ResultClaim.modelValidate
  simp only [hFields, Option.bind_eq_bind, Option.bind_some,
    hNoExtra, if_true]
  exact dif_pos
    ⟨Int.natCast_nonneg _, claim.hAssessment, claim.hScorer,
      claim.hMax, claim.hScore, claim.hCount, claim.hEvidence⟩

/- A claim that was dumped is validated as it was. -/
theorem ResultClaim.modelValidate_dump
    (hDocumented : lib.Documented)
    (claim : TimedClaim) :
    ResultClaim.modelValidate lib
        (Json.obj (claim.modelDump lib)).sorted =
      some claim.toResultClaim := by
  have hKeys : ((claim.modelDump lib).map Prod.fst).Nodup := by
    simp [TimedClaim.modelDump]
  have hField := Json.member?_sorted hKeys
  have hZoned : claim.occurred.offset.isSome = true := by
    have hInstant := claim.hOccurred
    unfold Datetime.instant? at hInstant
    cases hOffset : claim.occurred.offset with
    | none => rw [hOffset] at hInstant; cases hInstant
    | some m => rfl
  have hSupersedes :
      ((claim.supersedesPackageId.map uuidJson).getD .null).sorted =
        (claim.supersedesPackageId.map uuidJson).getD .null := by
    cases claim.supersedesPackageId with
    | none => simp [Json.sorted]
    | some id => exact sorted_uuidJson id
  have hArr :
      (Json.arr (claim.evidenceSha256.map .str)).sorted =
        .arr (claim.evidenceSha256.map .str) := by
    rw [Json.sorted, sortedItems_str]
  have hStr (text : String) :
      (Json.str text).sorted = .str text := by
    simp [Json.sorted]
  have hInt (n : Int) : (Json.int n).sorted = .int n := by
    simp [Json.sorted]
  have hMember (key : String)
      {value : Json}
      (hDump : Json.member? (claim.modelDump lib) key = some value)
      (hPlain : value.sorted = value) :
      Json.member?
          (Json.inOrder
            (Json.sortedMembers (claim.modelDump lib))) key =
        some value := by
    rw [hField, hDump, Option.map_some, hPlain]
  rw [Json.sorted]
  apply ResultClaim.modelValidate_eq
  case hSubject =>
    rw [hMember "opaque_subject_id" rfl (sorted_uuidJson _)]
    exact hDocumented.hUuid _ claim.hSubject
  case hTenant =>
    rw [hMember "tenant_id" rfl (sorted_uuidJson _)]
    exact hDocumented.hUuid _ claim.hTenant
  case hRelease =>
    rw [hMember "course_release_id" rfl (sorted_uuidJson _)]
    exact hDocumented.hUuid _ claim.hRelease
  case hAssessment =>
    rw [hMember "assessment_id" rfl (hStr _)]
    rfl
  case hAttempt =>
    rw [hMember "attempt_id" rfl (sorted_uuidJson _)]
    exact hDocumented.hUuid _ claim.hAttempt
  case hRaw =>
    rw [hMember "raw_score" rfl (hInt _)]
    exact hDocumented.hInt _
  case hMax =>
    rw [hMember "max_score" rfl (hInt _)]
    exact hDocumented.hInt _
  case hOutcome =>
    rw [hMember "outcome" rfl (hStr _)]
    exact outcome?_value _
  case hScorer =>
    rw [hMember "scorer_version" rfl (hStr _)]
    rfl
  case hEvidence =>
    rw [hMember "evidence_sha256" rfl hArr]
    exact evidence?_dump _
  case hSupersedes =>
    rw [hMember "supersedes_package_id" rfl hSupersedes]
    exact supersedes?_dump hDocumented claim.hSupersedes
  case hOccurred =>
    rw [hMember "occurred_at" rfl (hStr _)]
    exact hDocumented.hDatetime _ hZoned
  case hInstant => exact claim.hOccurred
  case hNoExtra =>
    apply noExtra_sorted
    simp [TimedClaim.modelDump, claimFields]

/- So is a projection, before it was written. -/
theorem ResultProjection.modelValidate_dump
    (hDocumented : lib.Documented)
    (claim : TimedClaim) :
    ResultProjection.modelValidate lib
        (.obj (ResultProjection.of claim.toResultClaim).modelDump) =
      some (ResultProjection.of claim.toResultClaim) := by
  have hSubject := hDocumented.hUuid _ claim.hSubject
  have hRelease := hDocumented.hUuid _ claim.hRelease
  have hAttempt := hDocumented.hUuid _ claim.hAttempt
  have hOutcome := outcome?_value claim.outcome
  unfold ResultProjection.modelValidate
  simp only [Json.members?, Option.bind_eq_bind,
    Option.bind_some]
  generalize hDump :
    (ResultProjection.of claim.toResultClaim).modelDump = dump
  have hFields :
      Json.member? dump "opaque_subject_id" =
          some (uuidJson claim.opaqueSubjectId) ∧
        Json.member? dump "course_release_id" =
          some (uuidJson claim.courseReleaseId) ∧
        Json.member? dump "assessment_id" =
          some (.str claim.assessmentId) ∧
        Json.member? dump "attempt_id" =
          some (uuidJson claim.attemptId) ∧
        Json.member? dump "outcome" =
          some (.str claim.outcome.value) := by
    subst hDump
    exact ⟨rfl, rfl, rfl, rfl, rfl⟩
  have hNoExtra : noExtra projectionFields dump = true := by
    subst hDump
    rfl
  simp only [hFields, Option.bind_some, hSubject, hRelease,
    hAttempt, hOutcome, text?_str, hNoExtra, if_true]
  rfl

end ResultTransfer

end TrueNorth
