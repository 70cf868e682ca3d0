import TrueNorth.Lib.Successions
import TrueNorth.ResultTransfer.Import

/-
  The imported results of an attempt are one line of
  corrections.

  The results of a ledger are a history whose every record
  may follow the ones before it; what holds of such
  histories is the library's.

  Key definitions include:
    * `reading`
    * `Ledger.Lawful`

  Main theorems:
    * `Ledger.Lawful.step`
    * `Ledger.one_linear_history`
-/

--------
-- Checks That Passed
--------

namespace TrueNorth

namespace ResultTransfer

open Checks

/- The only one of a list. -/
theorem oneOrNone_ok
    {A : Type}
    {as : List A}
    {found : Option A}
    (hOne : oneOrNone as = .ok found) :
    as = found.toList := by
  match as, found with
  | [], none => rfl
  | [], some a => cases hOne
  | [a], none => cases hOne
  | [a], some b =>
      cases hOne
      rfl
  | a :: b :: as, found => cases hOne

/-
  A series is an attempt of a source enclave's in a tenant;
  its subject, release and assessment stay.
-/
def reading :
    Successions.Reading ImportedResult Uuid
      (Uuid × String × Uuid) (Uuid × Uuid × String) where
  ident r := r.packageId
  replaces r := r.supersedesPackageId
  series r := (r.tenantId, r.sourceEnclave, r.attemptId)
  traits r :=
    (r.subjectBindingId, r.courseReleaseId, r.assessmentId)

namespace Ledger

variable {cfg : Settings}
variable {w w' : Ledger}

/- What a correction that was accepted corrects. -/
theorem checkCorrection_ok
    {result : DecryptedResult}
    {bindingId supersedes : Uuid}
    {u : Unit}
    (hCheck :
      w.checkCorrection result bindingId supersedes = .ok u) :
    ∃ prior ∈ w.results,
      prior.packageId = supersedes ∧
      prior.tenantId = result.claim.tenantId ∧
      prior.sourceEnclave = result.sourceEnclave ∧
      prior.attemptId = result.claim.attemptId ∧
      prior.subjectBindingId = bindingId ∧
      prior.courseReleaseId = result.claim.courseReleaseId ∧
      prior.assessmentId = result.claim.assessmentId ∧
      ∀ r ∈ w.results,
        r.supersedesPackageId ≠ some supersedes := by
  unfold checkCorrection at hCheck
  rcases bind_eq_ok.mp hCheck with ⟨found, hFound, hCheck⟩
  cases found with
  | none => cases hCheck
  | some prior =>
      have hMem : prior ∈ w.results.filter (fun r =>
          r.packageId = supersedes &&
            r.tenantId = result.claim.tenantId &&
            r.sourceEnclave = result.sourceEnclave) := by
        rw [oneOrNone_ok hFound]
        simp
      rcases bind_eq_ok.mp hCheck with ⟨_, hAttempt, hCheck⟩
      rcases bind_eq_ok.mp hCheck with ⟨_, hSame, hLatest⟩
      simp only [List.mem_filter, Bool.and_eq_true,
        decide_eq_true_eq] at hMem
      rw [refuseIf_eq_ok, decide_eq_false_iff_not, not_not]
        at hAttempt
      simp only [refuseIf_eq_ok, Bool.or_eq_false_iff,
        decide_eq_false_iff_not, not_not] at hSame
      rw [refuseIf_eq_ok, List.any_eq_false] at hLatest
      rcases hMem with ⟨hResult, ⟨hId, hTenant⟩, hSource⟩
      refine ⟨prior, hResult, hId, hTenant, hSource, hAttempt,
        hSame.1.1, hSame.1.2, hSame.2, ?_⟩
      intro r hr hSupersedes
      apply hLatest r hr
      rw [hSupersedes, hId]
      exact decide_eq_true rfl

theorem addResult_ok
    {row : ImportedResult}
    (hAdd : w.addResult row = .ok w') :
    w' = { w with results := w.results ++ [row] } ∧
      ∀ r ∈ w.results, r.packageId ≠ row.packageId := by
  unfold addResult at hAdd
  rcases bind_eq_ok.mp hAdd with ⟨_, hFresh, hAdd⟩
  rcases bind_eq_ok.mp hAdd with ⟨_, _, hAdd⟩
  cases hAdd
  refine ⟨rfl, ?_⟩
  rw [refuseIf_eq_ok, List.any_eq_false] at hFresh
  intro r hr hSame
  exact hFresh r hr (decide_eq_true hSame)

/- The checks before anything is looked up. -/
def Admitted
    (cfg : Settings)
    (result : DecryptedResult)
    (packageSha256 : String) : Prop :=
  requireSecret cfg = .ok () ∧
    safe cfg.enclaveId = .ok result.destinationEnclave ∧
      isSha256 packageSha256 = true

/-
  A result that was imported: recorded before, or a new
  record that may follow the others.
-/
theorem importResult_cases
    {result : DecryptedResult}
    {packageSha256 : String}
    {row : ImportedResult}
    {created : Bool}
    (hImport :
      w.importResult cfg result packageSha256 =
        .ok (row, created, w')) :
    Admitted cfg result packageSha256 ∧
    row.packageId = result.packageId ∧
    row.tenantId = result.claim.tenantId ∧
    row.packageSha256 = packageSha256 ∧
    ((row ∈ w.results ∧ w' = w) ∨
      (w' = { w with results := w.results ++ [row] } ∧
        reading.Follows w.results row ∧
        ∃ binding,
          w.bindings.get? row.subjectBindingId =
            some binding ∧
          row.userId = binding.userId)) := by
  unfold importResult at hImport
  rcases bind_eq_ok.mp hImport with ⟨⟨⟩, hSecret, hImport⟩
  rcases bind_eq_ok.mp hImport with ⟨enclave, hEnclave, hImport⟩
  rcases bind_eq_ok.mp hImport with ⟨_, hDest, hImport⟩
  rcases bind_eq_ok.mp hImport with ⟨_, hHash, hImport⟩
  rcases bind_eq_ok.mp hImport with ⟨found, hFound, hImport⟩
  rw [refuseIf_eq_ok, decide_eq_false_iff_not, not_not]
    at hDest
  rw [refuseIf_eq_ok, Bool.not_eq_false'] at hHash
  refine ⟨⟨hSecret, hDest ▸ hEnclave, hHash⟩, ?_⟩
  cases found with
  | some existing =>
      rcases bind_eq_ok.mp hImport with ⟨_, hSame, hImport⟩
      cases hImport
      have hMem : row ∈ w.results.filter (fun r =>
          r.packageId = result.packageId &&
            r.tenantId = result.claim.tenantId) := by
        rw [oneOrNone_ok hFound]
        simp
      simp only [List.mem_filter, Bool.and_eq_true,
        decide_eq_true_eq] at hMem
      rw [refuseIf_eq_ok, decide_eq_false_iff_not, not_not]
        at hSame
      exact ⟨hMem.2.1, hMem.2.2, hSame, .inl ⟨hMem.1, rfl⟩⟩
  | none =>
      rcases bind_eq_ok.mp hImport with ⟨bound, hBound, hImport⟩
      cases bound with
      | none => cases hImport
      | some bound =>
          rcases bound with ⟨bindingId, binding⟩
          rcases bind_eq_ok.mp hImport with ⟨_, _, hImport⟩
          have hBinding :
              w.bindings.get? bindingId = some binding := by
            have hMem : (bindingId, binding) ∈
                (some (bindingId, binding)).toList := by
              simp
            rw [← oneOrNone_ok hBound, List.mem_filter] at hMem
            exact Dict.get?_eq_some_iff.mpr hMem.1
          cases hSupersedes :
              result.claim.supersedesPackageId with
          | none =>
              simp only [hSupersedes] at hImport
              rcases bind_eq_ok.mp hImport with
                ⟨_, hFirst, hImport⟩
              rcases bind_eq_ok.mp hImport with
                ⟨_, hAdd, hImport⟩
              cases hImport
              rcases addResult_ok hAdd with ⟨rfl, hFresh⟩
              rw [refuseIf_eq_ok, List.any_eq_false] at hFirst
              refine ⟨rfl, rfl, rfl,
                .inr ⟨rfl, ⟨hFresh, ?_, ?_⟩, binding, hBinding,
                  rfl⟩⟩
              · intro _ r hr hSeries
                apply hFirst r hr
                simp only [reading, record, Prod.mk.injEq]
                  at hSeries
                simp [hSeries]
              · intro i hReplaces
                simp only [reading, record] at hReplaces
                rw [hSupersedes] at hReplaces
                cases hReplaces
          | some supersedes =>
              simp only [hSupersedes] at hImport
              rcases bind_eq_ok.mp hImport with
                ⟨_, hCheck, hImport⟩
              rcases bind_eq_ok.mp hImport with
                ⟨_, hAdd, hImport⟩
              cases hImport
              rcases addResult_ok hAdd with ⟨rfl, hFresh⟩
              refine ⟨rfl, rfl, rfl,
                .inr ⟨rfl, ⟨hFresh, ?_, ?_⟩, binding, hBinding,
                  rfl⟩⟩
              · intro hNone
                simp only [reading, record] at hNone
                rw [hSupersedes] at hNone
                cases hNone
              · intro i hReplaces
                simp only [reading, record] at hReplaces
                rw [hSupersedes] at hReplaces
                cases hReplaces
                rcases checkCorrection_ok hCheck with
                  ⟨prior, hMem, hId, hTenant, hSource, hAttempt,
                    hSubject, hRelease, hAssessment, hLatest⟩
                refine ⟨prior, hMem, hId, ?_, ?_, hLatest⟩
                · simp only [reading, record, hTenant, hSource,
                    hAttempt]
                · simp only [reading, record, hSubject,
                    hRelease, hAssessment]

end Ledger

end ResultTransfer

end TrueNorth

--------
-- Lawful Ledgers
--------

namespace TrueNorth

namespace ResultTransfer

open Checks

namespace Ledger

variable {cfg : Settings}
variable {w w' : Ledger}

/-
  The results are a history, and each is of the user whom
  its subject stands for.
-/
structure Lawful (w : Ledger) : Prop where
  history : Histories.Lawful reading.Follows w.results
  user : ∀ r ∈ w.results,
    ∃ binding,
      w.bindings.get? r.subjectBindingId = some binding ∧
        r.userId = binding.userId

/- Results are only added, and no subject changes its user. -/
structure Grows (w w' : Ledger) : Prop where
  results : ∀ r ∈ w.results, r ∈ w'.results
  bindings : ∀ id b,
    w.bindings.get? id = some b → w'.bindings.get? id = some b

theorem Grows.refl (w : Ledger) : Grows w w :=
  ⟨fun _ hr => hr, fun _ _ hGet => hGet⟩

theorem Lawful.importResult
    (hLawful : Lawful w)
    {result : DecryptedResult}
    {packageSha256 : String}
    {row : ImportedResult}
    {created : Bool}
    (hImport :
      w.importResult cfg result packageSha256 =
        .ok (row, created, w')) :
    Lawful w' ∧ Grows w w' ∧ row ∈ w'.results := by
  rcases importResult_cases hImport with
    ⟨_, _, _, _, hOld | hNew⟩
  · rcases hOld with ⟨hMem, rfl⟩
    exact ⟨hLawful, .refl w', hMem⟩
  · rcases hNew with ⟨rfl, hFollows, hUser⟩
    refine ⟨⟨.snoc hLawful.history hFollows, ?_⟩,
      ⟨?_, fun _ _ hGet => hGet⟩, ?_⟩
    · intro r hr
      rcases List.mem_append.mp hr with hr | hr
      · exact hLawful.user r hr
      · rw [List.mem_singleton] at hr
        rw [hr]
        exact hUser
    · exact fun r hr => List.mem_append_left _ hr
    · exact List.mem_append_right _ (List.mem_singleton_self row)

theorem bindSubject_cases
    {newId tenantId id : Uuid}
    {sourceEnclave : String}
    {opaqueSubjectId userId : Uuid}
    (hBind :
      w.bindSubject cfg newId tenantId sourceEnclave
        opaqueSubjectId userId = .ok (id, w')) :
    w' = w ∨
      ∃ binding,
        w.bindings.get? newId = none ∧
        w' = { w with
          bindings := w.bindings.set newId binding } := by
  unfold bindSubject at hBind
  rcases bind_eq_ok.mp hBind with ⟨_, _, hBind⟩
  rcases bind_eq_ok.mp hBind with ⟨_, _, hBind⟩
  rcases bind_eq_ok.mp hBind with ⟨existing, _, hBind⟩
  cases existing with
  | some found =>
      rcases bind_eq_ok.mp hBind with ⟨_, _, hBind⟩
      rcases bind_eq_ok.mp hBind with ⟨_, _, hBind⟩
      cases hBind
      exact .inl rfl
  | none =>
      rcases bind_eq_ok.mp hBind with ⟨_, hNew, hBind⟩
      cases hBind
      rw [refuseIf_eq_ok, Option.isSome_eq_false_iff,
        Option.isNone_iff_eq_none] at hNew
      exact .inr ⟨_, hNew, rfl⟩

theorem Lawful.bindSubject
    (hLawful : Lawful w)
    {newId tenantId id : Uuid}
    {sourceEnclave : String}
    {opaqueSubjectId userId : Uuid}
    (hBind :
      w.bindSubject cfg newId tenantId sourceEnclave
        opaqueSubjectId userId = .ok (id, w')) :
    Lawful w' ∧ Grows w w' := by
  rcases bindSubject_cases hBind with
    rfl | ⟨binding, hNew, rfl⟩
  · exact ⟨hLawful, .refl w'⟩
  · have hKept : ∀ id b,
        w.bindings.get? id = some b →
          (w.bindings.set newId binding).get? id = some b := by
      intro id b hGet
      rw [Dict.get?_set]
      by_cases hId : id = newId
      · rw [hId, hNew] at hGet
        cases hGet
      · rw [if_neg hId, hGet]
    refine ⟨⟨hLawful.history, ?_⟩, ⟨fun _ hr => hr, hKept⟩⟩
    intro r hr
    rcases hLawful.user r hr with ⟨b, hGet, hUser⟩
    exact ⟨b, hKept _ b hGet, hUser⟩

theorem Lawful.consumePackage
    (hLawful : Lawful w)
    {packageId : Uuid}
    {sha256 : String}
    {decrypted : Except String DecryptedResult}
    {status : ConsumptionStatus}
    (hConsume :
      w.consumePackage cfg packageId sha256 decrypted =
        .ok (status, w')) :
    Lawful w' ∧ Grows w w' := by
  unfold Ledger.consumePackage at hConsume
  cases hReceipt : w.receipts.get? packageId with
  | some recorded =>
      simp only [hReceipt] at hConsume
      rcases bind_eq_ok.mp hConsume with ⟨_, _, hConsume⟩
      cases hConsume
      exact ⟨hLawful, .refl w⟩
  | none =>
      simp only [hReceipt] at hConsume
      rcases bind_eq_ok.mp hConsume with ⟨_, _, hConsume⟩
      rcases bind_eq_ok.mp hConsume with
        ⟨⟨row, created, w₁⟩, hImport, hConsume⟩
      cases hConsume
      rcases hLawful.importResult hImport with
        ⟨hAfter, hGrows, _⟩
      exact ⟨⟨hAfter.history, hAfter.user⟩,
        ⟨hGrows.results, hGrows.bindings⟩⟩

/- What one request preserves. -/
theorem Lawful.step
    (hLawful : Lawful w)
    (a : Action) :
    Lawful (Ledger.step cfg w a) ∧
      Grows w (Ledger.step cfg w a) := by
  unfold Ledger.step
  cases hAnswer : w.answer cfg a with
  | error e => exact ⟨hLawful, .refl w⟩
  | ok w' =>
      cases a with
      | bindSubject newId tenantId sourceEnclave subject userId =>
          rcases bind_eq_ok.mp hAnswer with
            ⟨⟨id, w₁⟩, hBind, hSame⟩
          cases hSame
          exact hLawful.bindSubject hBind
      | importResult result packageSha256 =>
          rcases bind_eq_ok.mp hAnswer with
            ⟨⟨row, created, w₁⟩, hImport, hSame⟩
          cases hSame
          rcases hLawful.importResult hImport with
            ⟨hAfter, hGrows, _⟩
          exact ⟨hAfter, hGrows⟩
      | consume loaded decrypted =>
          rcases bind_eq_ok.mp hAnswer with
            ⟨⟨packageId, sha256⟩, _, hAnswer⟩
          rcases bind_eq_ok.mp hAnswer with
            ⟨⟨status, w₁⟩, hConsume, hSame⟩
          cases hSame
          exact hLawful.consumePackage hConsume

/- What a whole run preserves. -/
theorem Lawful.run
    (hLawful : Lawful w)
    (actions : List Action) :
    Lawful (Runs.run (Ledger.step cfg) w actions) ∧
      Grows w (Runs.run (Ledger.step cfg) w actions) := by
  induction actions generalizing w with
  | nil => exact ⟨hLawful, .refl w⟩
  | cons a actions ih =>
      rcases hLawful.step a with ⟨hNext, hGrows⟩
      rcases ih hNext with ⟨hEnd, hGrows'⟩
      exact ⟨hEnd,
        fun r hr => hGrows'.results r (hGrows.results r hr),
        fun id b hGet =>
          hGrows'.bindings id b (hGrows.bindings id b hGet)⟩

theorem lawful_fresh
    (users : Dict Uuid Uuid)
    (releases : Dict Uuid (Option Uuid))
    (bindings : Dict Uuid ResultSubjectBinding) :
    Lawful (fresh users releases bindings) where
  history := .nil
  user := nofun

end Ledger

end ResultTransfer

end TrueNorth

--------
-- Imports Made Again
--------

namespace TrueNorth

namespace ResultTransfer

open Checks

namespace Ledger

variable {cfg : Settings}
variable {w w' : Ledger}

/- The package is found again where its record is. -/
theorem existing_of_mem
    (hLawful : Lawful w)
    {row : ImportedResult}
    (hMem : row ∈ w.results) :
    w.results.filter (fun r =>
        r.packageId = row.packageId &&
          r.tenantId = row.tenantId) = [row] := by
  have hNodup : w.results.Nodup := by
    have hHistory := hLawful.history
    clear hLawful hMem
    generalize w.results = results at hHistory
    induction hHistory with
    | nil => exact List.nodup_nil
    | @snoc log e _ hFollows ih =>
        refine List.nodup_append.mpr
          ⟨ih, List.nodup_singleton e, ?_⟩
        intro a ha b hb hSame
        rw [List.mem_singleton] at hb
        exact hFollows.fresh a ha (by rw [hSame, hb])
  have hOnly : ∀ r ∈ w.results,
      (decide (r.packageId = row.packageId) &&
          decide (r.tenantId = row.tenantId)) =
        (r == row) := by
    intro r hr
    rw [Bool.eq_iff_iff, Bool.and_eq_true, decide_eq_true_eq,
      decide_eq_true_eq, beq_iff_eq]
    constructor
    · rintro ⟨hSame, _⟩
      exact Successions.Reading.ident_inj_of_lawful
        hLawful.history hr hMem hSame
    · rintro rfl
      exact ⟨rfl, rfl⟩
  rw [List.filter_congr hOnly, List.filter_beq,
    List.count_eq_one_of_mem hNodup hMem]
  rfl

theorem importResult_again
    (hLawful : Lawful w)
    {result : DecryptedResult}
    {packageSha256 : String}
    {row : ImportedResult}
    (hAdmitted : Admitted cfg result packageSha256)
    (hMem : row ∈ w.results)
    (hId : row.packageId = result.packageId)
    (hTenant : row.tenantId = result.claim.tenantId)
    (hHash : row.packageSha256 = packageSha256) :
    w.importResult cfg result packageSha256 =
      .ok (row, false, w) := by
  rcases hAdmitted with ⟨hSecret, hEnclave, hSha⟩
  have hFound := existing_of_mem hLawful hMem
  rw [hId, hTenant] at hFound
  unfold importResult
  refine bind_eq_ok.mpr ⟨(), hSecret, ?_⟩
  refine bind_eq_ok.mpr ⟨_, hEnclave, ?_⟩
  refine bind_eq_ok.mpr ⟨(), by simp, ?_⟩
  refine bind_eq_ok.mpr ⟨(), by simp [hSha], ?_⟩
  refine bind_eq_ok.mpr
    ⟨some row, congrArg oneOrNone hFound, ?_⟩
  exact bind_eq_ok.mpr ⟨(), by simp [hHash], rfl⟩

--------
-- One Linear History
--------

/- The results of an attempt, in the order they came. -/
def attempt
    (w : Ledger)
    (tenantId : Uuid)
    (sourceEnclave : String)
    (attemptId : Uuid) : List ImportedResult :=
  w.results.filter (fun r =>
    (r.tenantId, r.sourceEnclave, r.attemptId) =
      (tenantId, sourceEnclave, attemptId))

/-
  In every ledger that a run reaches:

  * the results of an attempt are one chain, each the
    correction of the one before it, and one of them is
    current, which no result of the ledger corrects;
  * they agree in subject, user, release and assessment;
  * a package imported at any time before gives the record
    made then, and changes nothing;
  * a request that is refused changes nothing.
-/
theorem one_linear_history
    (cfg : Settings)
    (users : Dict Uuid Uuid)
    (releases : Dict Uuid (Option Uuid))
    (bindings : Dict Uuid ResultSubjectBinding)
    (before : List Action) :
    let w := Runs.run (step cfg)
      (fresh users releases bindings) before
    (∀ tenantId sourceEnclave attemptId,
      let rs := w.attempt tenantId sourceEnclave attemptId
      ((∀ r, rs.head? = some r → r.supersedesPackageId = none) ∧
        rs.IsChain (fun r r' =>
          r'.supersedesPackageId = some r.packageId)) ∧
      (rs ≠ [] → ∃! r, r ∈ rs ∧
        ∀ r' ∈ w.results,
          r'.supersedesPackageId ≠ some r.packageId) ∧
      (∀ r ∈ rs, ∀ r' ∈ rs,
        r.subjectBindingId = r'.subjectBindingId ∧
          r.userId = r'.userId ∧
          r.courseReleaseId = r'.courseReleaseId ∧
          r.assessmentId = r'.assessmentId)) ∧
    (∀ result packageSha256 row created w₁,
      w.importResult cfg result packageSha256 =
          .ok (row, created, w₁) →
        ∀ after,
          let w₂ := Runs.run (step cfg) w₁ after
          w₂.importResult cfg result packageSha256 =
            .ok (row, false, w₂)) ∧
    (∀ a e, w.answer cfg a = .error e → step cfg w a = w) := by
  intro w
  have hLawful : Lawful w :=
    ((lawful_fresh users releases bindings).run before).1
  refine ⟨?_, ?_, ?_⟩
  · intro tenantId sourceEnclave attemptId rs
    have hGroup : rs = reading.group w.results
        (tenantId, sourceEnclave, attemptId) := rfl
    have hLinked := Successions.Reading.linked_of_lawful
      hLawful.history (tenantId, sourceEnclave, attemptId)
    rw [← hGroup] at hLinked
    refine ⟨⟨hLinked.first, hLinked.next⟩, ?_, ?_⟩
    · intro hSome
      rw [hGroup] at hSome
      exact Successions.Reading.current_of_lawful
        hLawful.history hSome
    · intro r hr r' hr'
      rw [hGroup, Successions.Reading.mem_group] at hr hr'
      have hTraits := Successions.Reading.traits_of_lawful
        hLawful.history hr.1 hr'.1 (hr.2.trans hr'.2.symm)
      simp only [reading, Prod.mk.injEq] at hTraits
      rcases hTraits with ⟨hSubject, hRelease, hAssessment⟩
      refine ⟨hSubject, ?_, hRelease, hAssessment⟩
      rcases hLawful.user r hr.1 with ⟨b, hGet, hUser⟩
      rcases hLawful.user r' hr'.1 with ⟨b', hGet', hUser'⟩
      rw [hSubject, hGet'] at hGet
      cases hGet
      rw [hUser, hUser']
  · intro result packageSha256 row created w₁ hImport after w₂
    rcases importResult_cases hImport with
      ⟨hAdmitted, hId, hTenant, hHash, _⟩
    rcases hLawful.importResult hImport with ⟨hNext, _, hMem⟩
    rcases hNext.run after with ⟨hEnd, hGrows⟩
    exact importResult_again hEnd hAdmitted
      (hGrows.results row hMem) hId hTenant hHash
  · intro a e hAnswer
    unfold step
    rw [hAnswer]

end Ledger

end ResultTransfer

end TrueNorth
