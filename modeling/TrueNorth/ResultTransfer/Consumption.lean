import TrueNorth.Lib.Runs
import TrueNorth.ResultTransfer.Receipts
import TrueNorth.ResultTransfer.Transfer

/-
  Packages that are consumed once, by any number of
  processes, any of which may stop anywhere: what is to
  hold, when a step is not disturbed, and what each change
  of the state keeps.

  A receipt that was created and not yet written is no
  package's: as long as no other run reads it, and its
  creator writes the digest, what was applied is applied
  once and answered for ever.

  Key definitions include:
    * `ConsumedOnce`
    * `World.Undisturbed`
    * `Kept`

  Main theorems:
    * `Kept.setRun`, `Kept.finish`
    * `Kept.setReceipt`
    * `Kept.applied`, `Kept.created`
-/

--------
-- What Is To Hold
--------

namespace TrueNorth

namespace ResultTransfer

namespace Media

variable {S : Type}

/- A package that opens with the keys of the site. -/
def Site.Opens
    (site : Site S)
    (m : MediaPackage site.lib) : Prop :=
  ∃ result, site.decrypt m = .ok result

/-
  Applying a result again changes nothing, whatever was
  applied in between.
-/
def Site.Idempotent (site : Site S) : Prop :=
  ∀ (s : S) (result : DecryptedResult)
    (others : List DecryptedResult),
    site.apply (others.foldl site.apply (site.apply s result))
        result =
      others.foldl site.apply (site.apply s result)

variable {site : Site S}

/- `apply` was called with the result of a package. -/
def World.Applied
    (w : World site.lib S)
    (m : MediaPackage site.lib) : Prop :=
  .applied m ∈ w.log

/-
  The packages of a run are consumed exactly once.
  `hOne`: one content of a package id is applied.
  `hAnswered`: a run on a package that opens fails only
  where another content of its id was applied.
  `hStore`: every result is in the store as if it had been
  applied one time.
-/
structure World.Consistent
    (w : World site.lib S)
    (s₀ : S) : Prop where
  hOne : ∀ m m', w.Applied m → w.Applied m' →
    m.packageId = m'.packageId → m.content = m'.content
  hAnswered : ∀ p m failure,
    .ended p m (.error failure) ∈ w.log → site.Opens m →
      ∃ m', w.Applied m' ∧ m'.packageId = m.packageId ∧
        m'.content ≠ m.content
  hStore : ∃ results : List DecryptedResult,
    (results.map DecryptedResult.packageId).Nodup ∧
      w.store = results.foldl site.apply s₀ ∧
      ∀ result, result ∈ results ↔
        ∃ m, w.Applied m ∧ site.decrypt m = .ok result

/- The state that steps lead to, from nothing consumed. -/
def World.after
    (site : Site S)
    (s₀ : S)
    (actions : List Action) : World site.lib S :=
  Runs.run World.step (.start site.lib s₀) actions

def Action.isAdvance
    (p : Nat) : Action → Bool
| .advance q => q = p
| _ => false

def Action.isCrash
    (p : Nat) : Action → Bool
| .crash q _ => q = p
| _ => false

/-
  The state stays consistent; a run of `consume_package`
  returns by its fifth step unless it is stopped; and one
  that begins after `applied` was returned for its bytes
  returns `duplicate`.
-/
def ConsumedOnce
    (site : Site S)
    (s₀ : S)
    (actions : List Action) : Prop :=
  ∀ before after, actions = before ++ after →
    (World.after site s₀ before).Consistent s₀ ∧
    (∀ p m stage,
      (World.after site s₀ before).runs p = some ⟨m, stage⟩ →
      5 ≤ after.countP (Action.isAdvance p) →
      after.all (fun a => !a.isCrash p) = true →
        ∃ answer,
          .ended p m answer ∈
            (World.after site s₀ actions).log) ∧
    ∀ q p m m' answer,
      .ended q m (.ok .applied) ∈
          (World.after site s₀ before).log →
      (World.after site s₀ before).next ≤ p →
      .ended p m' answer ∈ (World.after site s₀ actions).log →
      m'.content = m.content →
        answer = .ok .duplicate

--------
-- Runs That Are Not Disturbed
--------

variable {S : Type}
variable {site : Site S}

namespace World

/-
  A package that was applied, or may be: its run is past the
  check of its receipt.
-/
def Engaged
    (w : World site.lib S)
    (m : MediaPackage site.lib) : Prop :=
  w.Applied m ∨
    site.Opens m ∧
      ∃ p stage, w.runs p = some ⟨m, stage⟩ ∧ stage ≠ .loaded

/- No other content of the id was applied, or may be. -/
def Alone
    (w : World site.lib S)
    (m : MediaPackage site.lib) : Prop :=
  ∀ m', w.Engaged m' → m'.packageId = m.packageId → m' = m

/- No run created the receipt and is yet to write it. -/
def Unheld
    (w : World site.lib S)
    (m : MediaPackage site.lib) : Prop :=
  ∀ p, w.runs p ≠ some ⟨m, .created⟩

/-
  A run reads its receipt when no run on the same bytes is
  between creating and writing it, and finds none when no
  other content of its id was applied or may be; and a run
  that created a receipt stops after all of its digest is
  there.
-/
def Undisturbed
    (w : World site.lib S) : Action → Prop
| .begin _ => True
| .advance p =>
    match w.runs p with
    | some ⟨m, .loaded⟩ =>
        w.Unheld m ∧
          (w.receipt m = none → site.Opens m → w.Alone m)
    | some ⟨m, .found⟩ => w.Unheld m
    | _ => True
| .crash p kept =>
    match w.runs p with
    | some ⟨_, .created⟩ => False
    | some ⟨_, .written⟩ => 64 ≤ kept
    | _ => True

/- The package was applied, and its receipt has its digest. -/
def Recorded
    (w : World site.lib S)
    (m : MediaPackage site.lib) : Prop :=
  w.Applied m ∧
    ∃ entry, w.receipt m = some entry ∧ Holds m.sha256 entry

/- What the stage of a run tells. -/
def Backs
    (w : World site.lib S)
    (m : MediaPackage site.lib) : Stage → Prop
| .loaded => True
| .checked => True
| .applied => w.Applied m
| .found => w.Applied m ∧ w.receipt m ≠ none
| .created =>
    w.Applied m ∧
      (w.receipt m = some (.regular []) ∨ w.Recorded m)
| .written => w.Recorded m

end World

/-
  What a run keeps that is not disturbed: `hReceipt`, that
  every receipt is a package's or about to be, is what the
  other facts rest on.
-/
structure Kept
    (site : Site S)
    (s₀ : S)
    (w : World site.lib S) : Prop where
  hOne : ∀ m m', w.Engaged m → w.Engaged m' →
    m.packageId = m'.packageId → m = m'
  hRun : ∀ p m stage, w.runs p = some ⟨m, stage⟩ →
    w.Backs m stage
  hReceipt : ∀ id entry, w.receipts.get? id = some entry →
    ∃ m : MediaPackage site.lib,
      m.packageId = id ∧ w.Applied m ∧
        (Holds m.sha256 entry ∨
          entry = .regular [] ∧
            ∃ p, w.runs p = some ⟨m, .created⟩)
  hRefused : ∀ p m failure,
    .ended p m (.error failure) ∈ w.log → site.Opens m →
      ∃ m', w.Applied m' ∧ m'.packageId = m.packageId ∧ m' ≠ m
  hApplied : ∀ p m, .ended p m (.ok .applied) ∈ w.log →
    w.Recorded m
  hOpens : ∀ m, w.Applied m → site.Opens m
  hStore : ∃ results : List DecryptedResult,
    (results.map DecryptedResult.packageId).Nodup ∧
      w.store = results.foldl site.apply s₀ ∧
      ∀ result, result ∈ results ↔
        ∃ m, w.Applied m ∧ site.decrypt m = .ok result

--------
-- What Each Change Keeps
--------

variable {S : Type}
variable {site : Site S}
variable {s₀ : S}
variable {w : World site.lib S}
variable {p : Nat}
variable {m : MediaPackage site.lib}
variable {stage : Stage}

/- The package of a receipt, read as that of another. -/
theorem receipt_eq
    {m m' : MediaPackage site.lib}
    (hSame : m.packageId = m'.packageId) :
    w.receipt m = w.receipt m' := by
  unfold World.receipt
  rw [hSame]

namespace World

theorem runs_setRun_ne
    {q : Nat}
    {run : Option (Run site.lib)}
    (hNe : q ≠ p) :
    (w.setRun p run).runs q = w.runs q :=
  if_neg hNe

theorem runs_setRun_self
    {run : Option (Run site.lib)} :
    (w.setRun p run).runs p = run :=
  if_pos rfl

/- What a stage tells is kept where more was applied. -/
theorem Backs.mono
    {w' : World site.lib S}
    (hBacks : w.Backs m stage)
    (hApplied : w.Applied m → w'.Applied m)
    (hReceipt : w'.receipt m = w.receipt m) :
    w'.Backs m stage := by
  have hRecorded (h : w.Recorded m) : w'.Recorded m := by
    refine ⟨hApplied h.1, ?_⟩
    rw [hReceipt]
    exact h.2
  cases stage with
  | loaded => trivial
  | checked => trivial
  | applied => exact hApplied hBacks
  | found =>
      refine ⟨hApplied hBacks.1, ?_⟩
      rw [hReceipt]
      exact hBacks.2
  | created =>
      refine ⟨hApplied hBacks.1, ?_⟩
      rw [hReceipt]
      exact hBacks.2.imp id hRecorded
  | written => exact hRecorded hBacks

theorem engaged_run
    (hOpens : site.Opens m)
    (hRun : w.runs p = some ⟨m, stage⟩)
    (hStage : stage ≠ .loaded) :
    w.Engaged m :=
  .inr ⟨hOpens, p, stage, hRun, hStage⟩

/- Only the package of the run may be engaged by its step. -/
theorem engaged_setRun
    {m' : MediaPackage site.lib}
    {run : Option (Run site.lib)}
    (hPackage : ∀ r, run = some r → r.package = m)
    (hEngaged : (w.setRun p run).Engaged m') :
    w.Engaged m' ∨
      m' = m ∧ site.Opens m ∧
        ∃ r, run = some r ∧ r.stage ≠ .loaded := by
  rcases hEngaged with
    hApplied | ⟨hOpens, q, stage', hRun, hStage⟩
  · exact .inl (.inl hApplied)
  by_cases hq : q = p
  · rw [hq, runs_setRun_self] at hRun
    have hSame : m' = m := hPackage _ hRun
    exact .inr ⟨hSame, hSame ▸ hOpens, _, hRun, hStage⟩
  · rw [runs_setRun_ne hq] at hRun
    exact .inl (engaged_run hOpens hRun hStage)

end World

namespace Kept

open World

/- A past check means that no other content is engaged. -/
theorem alone
    (hKept : Kept site s₀ w)
    (hRun : w.runs p = some ⟨m, stage⟩)
    (hStage : stage ≠ .loaded)
    (hOpens : site.Opens m) :
    w.Alone m := by
  intro m' hEngaged hSame
  exact hKept.hOne m' m hEngaged
    (engaged_run hOpens hRun hStage) hSame

/-
  A run goes on, or is over: it left no receipt that it is
  to write.
-/
theorem setRun
    (hKept : Kept site s₀ w)
    {run : Option (Run site.lib)}
    (hLeft : ∀ m', w.runs p = some ⟨m', .created⟩ →
      w.Recorded m')
    (hNext : ∀ r, run = some r →
      r.package = m ∧ w.Backs m r.stage)
    (hAlone : (∃ r, run = some r ∧ r.stage ≠ .loaded) →
      site.Opens m → w.Alone m) :
    Kept site s₀ (w.setRun p run) := by
  have hEngaged {m' : MediaPackage site.lib}
      (h : (w.setRun p run).Engaged m') :=
    engaged_setRun (fun r hr => (hNext r hr).1) h
  refine {
    hOne := ?_
    hRun := ?_
    hReceipt := ?_
    hRefused := hKept.hRefused
    hApplied := hKept.hApplied
    hOpens := hKept.hOpens
    hStore := hKept.hStore }
  · intro m₁ m₂ h₁ h₂ hSame
    rcases hEngaged h₁ with hOld₁ | ⟨rfl, hOpens, hSome⟩
    · rcases hEngaged h₂ with hOld₂ | ⟨rfl, hOpens, hSome⟩
      · exact hKept.hOne m₁ m₂ hOld₁ hOld₂ hSame
      · exact hAlone hSome hOpens m₁ hOld₁ hSame
    · rcases hEngaged h₂ with hOld₂ | ⟨rfl, _, _⟩
      · exact (hAlone hSome hOpens m₂ hOld₂ hSame.symm).symm
      · rfl
  · intro q m' stage' hRun'
    by_cases hq : q = p
    · rw [hq, runs_setRun_self] at hRun'
      rcases hNext _ hRun' with ⟨rfl, hBacks⟩
      exact hBacks
    · rw [runs_setRun_ne hq] at hRun'
      exact hKept.hRun q m' stage' hRun'
  · intro id entry hEntry
    rcases hKept.hReceipt id entry hEntry with
      ⟨m', hId, hApplied, hHolds | ⟨hEmpty, q, hCreated⟩⟩
    · exact ⟨m', hId, hApplied, .inl hHolds⟩
    by_cases hq : q = p
    · rw [hq] at hCreated
      rcases (hLeft m' hCreated).2 with ⟨entry', hGet, hHolds⟩
      unfold World.receipt at hGet
      rw [hId] at hGet
      have hSame : entry' = entry :=
        Option.some.inj (hGet.symm.trans hEntry)
      exact ⟨m', hId, hApplied, .inl (hSame ▸ hHolds)⟩
    · refine ⟨m', hId, hApplied, .inr ⟨hEmpty, q, ?_⟩⟩
      rw [runs_setRun_ne hq]
      exact hCreated

/- What is seen of a run, when nothing is applied. -/
theorem note
    (hKept : Kept site s₀ w)
    {event : Event site.lib}
    (hNot : ∀ m, event ≠ .applied m)
    (hError : ∀ p m failure,
      event = .ended p m (.error failure) → site.Opens m →
        ∃ m', w.Applied m' ∧ m'.packageId = m.packageId ∧
          m' ≠ m)
    (hOk : ∀ p m, event = .ended p m (.ok .applied) →
      w.Recorded m) :
    Kept site s₀ (w.note event) := by
  have hLog {event' : Event site.lib} :
      event' ∈ (w.note event).log ↔
        event' ∈ w.log ∨ event' = event := by
    unfold World.note
    rw [List.mem_append, List.mem_singleton]
  have hApplied {m' : MediaPackage site.lib} :
      (w.note event).Applied m' ↔ w.Applied m' :=
    hLog.trans (or_iff_left (fun h => hNot m' h.symm))
  have hEngaged {m' : MediaPackage site.lib} :
      (w.note event).Engaged m' ↔ w.Engaged m' :=
    or_congr hApplied Iff.rfl
  have hRecorded {m' : MediaPackage site.lib} :
      (w.note event).Recorded m' ↔ w.Recorded m' :=
    and_congr hApplied Iff.rfl
  refine {
    hOne := ?_
    hRun := ?_
    hReceipt := ?_
    hRefused := ?_
    hApplied := ?_
    hOpens := ?_
    hStore := ?_ }
  · intro m₁ m₂ h₁ h₂
    exact hKept.hOne m₁ m₂ (hEngaged.mp h₁) (hEngaged.mp h₂)
  · intro q m' stage' hRun
    exact (hKept.hRun q m' stage' hRun).mono hApplied.mpr rfl
  · intro id entry hEntry
    rcases hKept.hReceipt id entry hEntry with
      ⟨m', hId, hOld, hRest⟩
    exact ⟨m', hId, hApplied.mpr hOld, hRest⟩
  · intro q m' failure hEnded hOpens
    have hFound : ∃ m₁, w.Applied m₁ ∧
        m₁.packageId = m'.packageId ∧ m₁ ≠ m' := by
      rcases hLog.mp hEnded with hOld | hNew
      · exact hKept.hRefused q m' failure hOld hOpens
      · exact hError q m' failure hNew.symm hOpens
    rcases hFound with ⟨m₁, hOld, hRest⟩
    exact ⟨m₁, hApplied.mpr hOld, hRest⟩
  · intro q m' hEnded
    rw [hRecorded]
    rcases hLog.mp hEnded with hOld | hNew
    · exact hKept.hApplied q m' hOld
    · exact hOk q m' hNew.symm
  · intro m' h
    exact hKept.hOpens m' (hApplied.mp h)
  · simp only [hApplied]
    exact hKept.hStore

/- `consume_package` returns, or raises. -/
theorem finish
    (hKept : Kept site s₀ w)
    {answer : Except Failure ConsumptionStatus}
    (hRun : w.runs p = some ⟨m, stage⟩)
    (hStage : stage ≠ .created)
    (hError : ∀ failure, answer = .error failure →
      site.Opens m →
        ∃ m', w.Applied m' ∧ m'.packageId = m.packageId ∧
          m' ≠ m)
    (hOk : answer = .ok .applied → w.Recorded m) :
    Kept site s₀ (w.finish p m answer) := by
  have hOver : Kept site s₀ (w.setRun p none) := by
    apply hKept.setRun (m := m)
    · intro m' hCreated
      rw [hRun] at hCreated
      cases hCreated
      exact absurd rfl hStage
    · intro r hr
      cases hr
    · rintro ⟨r, hr, _⟩
      cases hr
  apply hOver.note
  · intro m' hEvent
    cases hEvent
  · intro q m' failure hEvent
    cases hEvent
    exact hError failure rfl
  · intro q m' hEvent
    cases hEvent
    exact hOk rfl

/- A receipt is given a digest that is its package's. -/
theorem setReceipt
    (hKept : Kept site s₀ w)
    {content : Bytes}
    (hApplied : w.Applied m)
    (hHolds : Holds m.sha256 (.regular content)) :
    Kept site s₀ (w.setReceipt m content) ∧
      (w.setReceipt m content).Recorded m ∧
      ∀ m', w.Recorded m' →
        (w.setReceipt m content).Recorded m' := by
  have hEngaged {m' : MediaPackage site.lib}
      (h : w.Applied m') : w.Engaged m' :=
    .inl h
  have hSelf : (w.setReceipt m content).Recorded m :=
    ⟨hApplied, _, Dict.get?_set_self _ _ _, hHolds⟩
  have hOther {m' : MediaPackage site.lib}
      (hId : m'.packageId ≠ m.packageId) :
      (w.setReceipt m content).receipt m' = w.receipt m' :=
    Dict.get?_set_ne hId _
  have hSame {m' : MediaPackage site.lib}
      (h : w.Applied m')
      (hId : m'.packageId = m.packageId) : m' = m :=
    hKept.hOne m' m (hEngaged h) (hEngaged hApplied) hId
  have hRecorded (m' : MediaPackage site.lib)
      (h : w.Recorded m') :
      (w.setReceipt m content).Recorded m' := by
    by_cases hId : m'.packageId = m.packageId
    · rw [hSame h.1 hId]
      exact hSelf
    · refine ⟨h.1, ?_⟩
      rw [hOther hId]
      exact h.2
  refine ⟨?_, hSelf, hRecorded⟩
  refine {
    hOne := hKept.hOne
    hRun := ?_
    hReceipt := ?_
    hRefused := hKept.hRefused
    hApplied := fun q m' h => hRecorded m' (hKept.hApplied q m' h)
    hOpens := hKept.hOpens
    hStore := hKept.hStore }
  · intro q m' stage' hRun
    have hBacks := hKept.hRun q m' stage' hRun
    by_cases hId : m'.packageId = m.packageId
    · cases stage' with
      | loaded => trivial
      | checked => trivial
      | applied => exact hBacks
      | found =>
          refine ⟨hBacks.1, ?_⟩
          rw [hSame hBacks.1 hId]
          rcases hSelf.2 with ⟨entry, hGet, _⟩
          rw [hGet]
          simp
      | created =>
          refine ⟨hBacks.1, .inr ?_⟩
          rw [hSame hBacks.1 hId]
          exact hSelf
      | written => exact hRecorded m' hBacks
    · exact hBacks.mono id (hOther hId)
  · intro id entry hEntry
    by_cases hId : id = m.packageId
    · rw [hId] at hEntry
      have hGet := Dict.get?_set_self w.receipts m.packageId
        (.regular content)
      have hNew : Entry.regular content = entry :=
        Option.some.inj (hGet.symm.trans hEntry)
      exact ⟨m, hId.symm, hApplied, .inl (hNew ▸ hHolds)⟩
    · exact hKept.hReceipt id entry
        ((Dict.get?_set_ne hId _).symm.trans hEntry)

/- A result has the id of the package it was in. -/
theorem packageId_decrypt
    {result : DecryptedResult}
    (hOk : site.decrypt m = .ok result) :
    result.packageId = m.packageId := by
  rcases opened_of_openPackage (openPackage_of_decrypt hOk).2 with
    ⟨opened⟩
  have hId := m.hPackageId
  unfold packageIdOf at hId
  rw [opened.hPackageId] at hId
  exact Except.ok.inj hId

/- The store with a result more, or one that is there. -/
theorem store_apply
    (hIdempotent : site.Idempotent)
    (hKept : Kept site s₀ w)
    (hRun : w.runs p = some ⟨m, .checked⟩)
    {result : DecryptedResult}
    (hOk : site.decrypt m = .ok result) :
    ∃ results : List DecryptedResult,
      (results.map DecryptedResult.packageId).Nodup ∧
        site.apply w.store result =
          results.foldl site.apply s₀ ∧
        ∀ result', result' ∈ results ↔
          ∃ m', (w.Applied m' ∨ m' = m) ∧
            site.decrypt m' = .ok result' := by
  rcases hKept.hStore with ⟨results, hNodup, hStore, hMem⟩
  have hEngaged : w.Engaged m :=
    engaged_run ⟨result, hOk⟩ hRun (by simp)
  by_cases hOld : result ∈ results
  · refine ⟨results, hNodup, ?_, ?_⟩
    · rcases List.append_of_mem hOld with ⟨first, rest, hSplit⟩
      rw [hStore, hSplit, List.foldl_append, List.foldl_cons]
      exact hIdempotent _ result rest
    · intro result'
      rw [hMem]
      constructor
      · rintro ⟨m', hApplied, hOk'⟩
        exact ⟨m', .inl hApplied, hOk'⟩
      · rintro ⟨m', hApplied | rfl, hOk'⟩
        · exact ⟨m', hApplied, hOk'⟩
        · cases Except.ok.inj (hOk.symm.trans hOk')
          exact (hMem result).mp hOld
  · refine ⟨results ++ [result], ?_, ?_, ?_⟩
    · rw [List.map_append, List.nodup_append]
      refine ⟨hNodup, List.nodup_singleton _, ?_⟩
      intro id hId id' hId' hSame
      rw [List.map_singleton, List.mem_singleton] at hId'
      rcases List.mem_map.mp hId with ⟨result', hResult', rfl⟩
      rcases (hMem result').mp hResult' with
        ⟨m', hApplied, hOk'⟩
      -- the same id would be the same package
      have hPackage : m' = m := by
        apply hKept.hOne m' m (.inl hApplied) hEngaged
        rw [← packageId_decrypt hOk', ← packageId_decrypt hOk,
          hSame, hId']
      rw [hPackage] at hOk'
      cases Except.ok.inj (hOk.symm.trans hOk')
      exact hOld hResult'
    · rw [hStore, List.foldl_append]
      rfl
    · intro result'
      rw [List.mem_append, hMem, List.mem_singleton]
      constructor
      · rintro (⟨m', hApplied, hOk'⟩ | rfl)
        · exact ⟨m', .inl hApplied, hOk'⟩
        · exact ⟨m, .inr rfl, hOk⟩
      · rintro ⟨m', hApplied | rfl, hOk'⟩
        · exact .inl ⟨m', hApplied, hOk'⟩
        · exact .inr (Except.ok.inj (hOk'.symm.trans hOk))

/- The result of a run past its check is applied. -/
theorem applied
    (hIdempotent : site.Idempotent)
    (hKept : Kept site s₀ w)
    (hRun : w.runs p = some ⟨m, .checked⟩)
    {result : DecryptedResult}
    (hOk : site.decrypt m = .ok result) :
    Kept site s₀
      ({ w with store := site.apply w.store result }.note
        (.applied m)) := by
  generalize hNext :
    ({ w with store := site.apply w.store result } :
      World site.lib S).note (.applied m) = w'
  have hLog {event : Event site.lib} :
      event ∈ w'.log ↔ event ∈ w.log ∨ event = .applied m := by
    rw [← hNext]
    unfold World.note
    rw [List.mem_append, List.mem_singleton]
  have hApplied {m' : MediaPackage site.lib} :
      w'.Applied m' ↔ w.Applied m' ∨ m' = m :=
    hLog.trans (or_congr Iff.rfl (by simp))
  have hRuns : w'.runs = w.runs := by
    rw [← hNext]
    rfl
  have hReceipts : w'.receipts = w.receipts := by
    rw [← hNext]
    rfl
  have hReceipt (m' : MediaPackage site.lib) :
      w'.receipt m' = w.receipt m' :=
    congrArg (Dict.get? · m'.packageId) hReceipts
  have hOpens : site.Opens m := ⟨result, hOk⟩
  have hEngaged {m' : MediaPackage site.lib}
      (h : w'.Engaged m') : w.Engaged m' := by
    rcases h with hNew | ⟨hOpens', q, stage', hRun', hStage⟩
    · rcases hApplied.mp hNew with hOld | rfl
      · exact .inl hOld
      · exact engaged_run hOpens hRun (by simp)
    · rw [hRuns] at hRun'
      exact engaged_run hOpens' hRun' hStage
  have hRecorded {m' : MediaPackage site.lib}
      (h : w.Recorded m') : w'.Recorded m' := by
    refine ⟨hApplied.mpr (.inl h.1), ?_⟩
    rw [hReceipt]
    exact h.2
  refine {
    hOne := ?_
    hRun := ?_
    hReceipt := ?_
    hRefused := ?_
    hApplied := ?_
    hOpens := ?_
    hStore := ?_ }
  · intro m₁ m₂ h₁ h₂
    exact hKept.hOne m₁ m₂ (hEngaged h₁) (hEngaged h₂)
  · intro q m' stage' hRun'
    rw [hRuns] at hRun'
    exact (hKept.hRun q m' stage' hRun').mono
      (fun h => hApplied.mpr (.inl h)) (hReceipt m')
  · intro id entry hEntry
    rw [hReceipts] at hEntry
    rcases hKept.hReceipt id entry hEntry with
      ⟨m', hId, hOld, hRest⟩
    rw [hRuns]
    exact ⟨m', hId, hApplied.mpr (.inl hOld), hRest⟩
  · intro q m' failure hEnded hOpens'
    have hOld := (hLog.mp hEnded).resolve_right (by simp)
    rcases hKept.hRefused q m' failure hOld hOpens' with
      ⟨m₁, hFirst, hRest⟩
    exact ⟨m₁, hApplied.mpr (.inl hFirst), hRest⟩
  · intro q m' hEnded
    have hOld := (hLog.mp hEnded).resolve_right (by simp)
    exact hRecorded (hKept.hApplied q m' hOld)
  · intro m' h
    rcases hApplied.mp h with hOld | rfl
    · exact hKept.hOpens m' hOld
    · exact hOpens
  · simp only [hApplied]
    rw [← hNext]
    exact hKept.store_apply hIdempotent hRun hOk

/- A receipt is created, and its run is to write it. -/
theorem created
    (hKept : Kept site s₀ w)
    (hRun : w.runs p = some ⟨m, .applied⟩)
    (hNone : w.receipt m = none) :
    Kept site s₀
      ((w.setReceipt m []).setRun p (some ⟨m, .created⟩)) := by
  generalize hNext : (w.setReceipt m []).setRun p
    (some ⟨m, .created⟩) = w'
  have hApplied : w.Applied m := hKept.hRun p m .applied hRun
  have hLog : w'.log = w.log := by
    rw [← hNext]
    rfl
  have hSelf : w'.runs p = some ⟨m, .created⟩ := by
    rw [← hNext]
    exact runs_setRun_self
  have hOther {q : Nat} (hq : q ≠ p) : w'.runs q = w.runs q := by
    rw [← hNext]
    exact runs_setRun_ne hq
  have hEmpty : w'.receipt m = some (.regular []) := by
    rw [← hNext]
    exact Dict.get?_set_self _ _ _
  have hGet {id : Uuid}
      (hId : id ≠ m.packageId) :
      w'.receipts.get? id = w.receipts.get? id := by
    rw [← hNext]
    exact Dict.get?_set_ne hId _
  have hEq {m' : MediaPackage site.lib} :
      w'.Applied m' ↔ w.Applied m' := by
    unfold World.Applied
    rw [hLog]
  -- a package that has a receipt has another id
  have hApart {m' : MediaPackage site.lib}
      (hSome : w.receipt m' ≠ none) :
      m'.packageId ≠ m.packageId := by
    intro hId
    exact hSome ((receipt_eq hId).trans hNone)
  have hRecorded {m' : MediaPackage site.lib}
      (h : w.Recorded m') : w'.Recorded m' := by
    refine ⟨hEq.mpr h.1, ?_⟩
    rcases h.2 with ⟨entry, hEntry, hHolds⟩
    exact ⟨entry, (hGet (hApart (by simp [hEntry]))).trans hEntry,
      hHolds⟩
  refine {
    hOne := ?_
    hRun := ?_
    hReceipt := ?_
    hRefused := ?_
    hApplied := ?_
    hOpens := ?_
    hStore := ?_ }
  · have hEngaged {m' : MediaPackage site.lib}
        (h : w'.Engaged m') : w.Engaged m' := by
      rcases h with hNew | ⟨hOpens, q, stage', hRun', hStage⟩
      · exact .inl (hEq.mp hNew)
      by_cases hq : q = p
      · rw [hq, hSelf] at hRun'
        cases hRun'
        exact .inl hApplied
      · rw [hOther hq] at hRun'
        exact engaged_run hOpens hRun' hStage
    intro m₁ m₂ h₁ h₂
    exact hKept.hOne m₁ m₂ (hEngaged h₁) (hEngaged h₂)
  · intro q m' stage' hRun'
    by_cases hq : q = p
    · rw [hq, hSelf] at hRun'
      cases hRun'
      exact ⟨hEq.mpr hApplied, .inl hEmpty⟩
    rw [hOther hq] at hRun'
    have hBacks := hKept.hRun q m' stage' hRun'
    have hSame
        (hSome : w.receipt m' ≠ none) : w'.Backs m' stage' :=
      hBacks.mono hEq.mpr (hGet (hApart hSome))
    cases stage' with
    | loaded => trivial
    | checked => trivial
    | applied => exact hEq.mpr hBacks
    | found => exact hSame hBacks.2
    | created =>
        apply hSame
        rcases hBacks.2 with hFirst | ⟨_, entry, hEntry, _⟩
        · simp [hFirst]
        · simp [hEntry]
    | written => exact hRecorded hBacks
  · intro id entry hEntry
    by_cases hId : id = m.packageId
    · have hNew : Entry.regular [] = entry := by
        apply Option.some.inj
        rw [← hEmpty, ← hEntry, hId]
        rfl
      exact ⟨m, hId.symm, hEq.mpr hApplied,
        .inr ⟨hNew.symm, p, hSelf⟩⟩
    · rw [hGet hId] at hEntry
      rcases hKept.hReceipt id entry hEntry with
        ⟨m', hId', hOld, hHolds | ⟨hFirst, q, hCreated⟩⟩
      · exact ⟨m', hId', hEq.mpr hOld, .inl hHolds⟩
      · have hq : q ≠ p := by
          rintro rfl
          rw [hRun] at hCreated
          cases hCreated
        refine ⟨m', hId', hEq.mpr hOld, .inr ⟨hFirst, q, ?_⟩⟩
        rw [hOther hq]
        exact hCreated
  · intro q m' failure hEnded hOpens
    rw [hLog] at hEnded
    rcases hKept.hRefused q m' failure hEnded hOpens with
      ⟨m₁, hFirst, hRest⟩
    exact ⟨m₁, hEq.mpr hFirst, hRest⟩
  · intro q m' hEnded
    rw [hLog] at hEnded
    exact hRecorded (hKept.hApplied q m' hEnded)
  · intro m' h
    exact hKept.hOpens m' (hEq.mp h)
  · simp only [hEq]
    rw [← hNext]
    exact hKept.hStore

end Kept

end Media

end ResultTransfer

end TrueNorth
