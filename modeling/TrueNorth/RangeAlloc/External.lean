import TrueNorth.RangeAlloc.Effects

/-
  External reservations while they are seen: what the
  newest read of a source found foreign has a row, as long
  as no step deletes a row that another source's newest
  read still counts on.

  Key definitions include:
    * `Reports`
    * `World.Spares`, `World.SparesRun`
    * `World.Survives`, `World.Stamped`

  Main theorems:
    * `World.call_survives`, `World.call_stamped`
    * `World.external_survives`
    * `World.twoSources_lost`
-/

--------
-- Reports
--------

namespace TrueNorth

namespace RangeAlloc

/- No read of the same source started later. -/
def Read.Newest
    (reads : List Read)
    (read : Read) : Prop :=
  read ∈ reads ∧
    ∀ other ∈ reads,
      other.domain = read.domain →
      other.kind = read.kind →
      other.source = read.source →
        other.seenAt ≤ read.seenAt

/-
  A source's newest read found the value foreign, no longer
  than `EXTERNAL_TTL` ago.
-/
def Reports
    (reads : List Read)
    (now : Int)
    (read : Read)
    (domain kind v : String) : Prop :=
  read.Newest reads ∧
    read.domain = domain ∧
    read.kind = kind ∧
    v ∈ read.foreign ∧
    now ≤ read.seenAt + externalTtl

instance
    (reads : List Read)
    (read : Read) :
    Decidable (read.Newest reads) :=
  inferInstanceAs (Decidable (_ ∧ ∀ _ ∈ _, _))

instance
    (reads : List Read)
    (now : Int)
    (read : Read)
    (domain kind v : String) :
    Decidable (Reports reads now read domain kind v) :=
  inferInstanceAs (Decidable (_ ∧ _))

/- A read that is still the newest was so before. -/
theorem Read.Newest.of_append
    {reads later : List Read}
    {read : Read}
    (hNewest : read.Newest (reads ++ later))
    (hMem : read ∈ reads) :
    read.Newest reads := by
  refine ⟨hMem, ?_⟩
  intro other hOther
  exact hNewest.2 other (List.mem_append_left _ hOther)

theorem Reports.of_append
    {reads later : List Read}
    {now : Int}
    {read : Read}
    {domain kind v : String}
    (hReports :
      Reports (reads ++ later) now read domain kind v)
    (hMem : read ∈ reads) :
    Reports reads now read domain kind v :=
  ⟨hReports.1.of_append hMem, hReports.2⟩

--------
-- Steps That Spare What Is Reported
--------

/- The source a live read is of. -/
def Call.source :
    Call → Option String
| .recordExternal usage => some usage.source
| _ => none

namespace World

/- The reads committed once the call is. -/
def history
    (w : World)
    (c : Call) : List Read :=
  w.reads ++ c.reads w.now

/- The call records the value anew, no earlier than `read`. -/
def Renews
    (w : World)
    (c : Call)
    (read : Read)
    (r : Row) : Prop :=
  c.sees r.domain r.kind r.value = true ∧
    read.seenAt ≤ c.stamp w.now

/-
  What the call deletes, no newest read counts on: a freed
  or expired value is recorded anew, an expired row may be
  of the read's own source, and a row of the call's source
  is dropped only on what that source last reported.
-/
def Spares
    (w : World)
    (c : Call) : Prop :=
  ∀ r ∈ w.table.rows, ∀ read ∈ w.history c,
    Reports (w.history c) w.now read r.domain r.kind r.value →
      (w.frees r c = true → w.Renews c read r) ∧
      (w.expires r c = true →
        r.startsWith (sourcePrefix read.source) = true ∨
          w.Renews c read r) ∧
      (drops r c = true → c.source = some read.source)

/- Every call of the transaction spares what is reported. -/
def SparesAll
    (w : World) :
    List Call → Prop
| [] => True
| c :: cs =>
    match w.call c with
    | .error _ => True
    | .ok w' => w.Spares c ∧ w'.SparesAll cs

/- The condition on one step, asked of what commits. -/
def SparesRun
    (w : World) :
    Action → Prop
| .transaction calls =>
    match w.transaction calls with
    | .error _ => True
    | .ok _ => w.SparesAll calls
| .ranges _ => True
| .tick _ => True

instance
    (w : World)
    (c : Call)
    (read : Read)
    (r : Row) :
    Decidable (w.Renews c read r) :=
  inferInstanceAs (Decidable (_ ∧ _))

instance
    (w : World)
    (c : Call) :
    Decidable (w.Spares c) :=
  inferInstanceAs (Decidable (∀ _ ∈ _, ∀ _ ∈ _, _ → _))

instance decidableSparesAll :
    ∀ (w : World) (calls : List Call),
      Decidable (w.SparesAll calls)
| _, [] => .isTrue trivial
| w, c :: cs =>
    match h : w.call c with
    | .error _ => .isTrue (by simp [SparesAll, h])
    | .ok w' =>
        have : Decidable (w'.SparesAll cs) :=
          decidableSparesAll w' cs
        decidable_of_iff (w.Spares c ∧ w'.SparesAll cs)
          (by simp [SparesAll, h])

instance
    (w : World)
    (a : Action) :
    Decidable (w.SparesRun a) :=
  match a with
  | .transaction calls =>
      match h : w.transaction calls with
      | .error _ => .isTrue (by simp [SparesRun, h])
      | .ok _ =>
          decidable_of_iff (w.SparesAll calls)
            (by simp [SparesRun, h])
  | .ranges _ => .isTrue trivial
  | .tick _ => .isTrue trivial

--------
-- One Call
--------

/- What a newest read reports has a row. -/
def Survives (w : World) : Prop :=
  ∀ read domain kind v,
    Reports w.reads w.now read domain kind v →
      ∃ r ∈ w.table.rows,
        r.isIn domain kind = true ∧ r.value = v

/-
  A source's own row of what its newest read reports was
  last seen no earlier than that read.
-/
def Stamped (w : World) : Prop :=
  ∀ read, ∀ r ∈ w.table.rows,
    r.isExternal = true →
    r.startsWith (sourcePrefix read.source) = true →
    Reports w.reads w.now read r.domain r.kind r.value →
      read.seenAt ≤ r.updatedAt

theorem isIn_iff
    {domain kind : String}
    {r : Row} :
    r.isIn domain kind = true ↔
      r.domain = domain ∧ r.kind = kind := by
  unfold Row.isIn
  rw [decide_eq_true_eq]

/- A row of what a read still reports does not expire. -/
theorem not_expires
    {w : World}
    {c : Call}
    {read : Read}
    {r : Row}
    (hStamp : read.seenAt ≤ r.updatedAt)
    (hFresh : w.now ≤ read.seenAt + externalTtl) :
    w.expires r c = false := by
  cases c with
  | recordExternal usage =>
      rw [Bool.eq_false_iff]
      intro hExpires
      simp only [expires, Bool.and_eq_true, decide_eq_true_eq]
        at hExpires
      have hOld := hExpires.1.2
      omega
  | _ => rfl

/- A row the source saw later is not dropped by its read. -/
theorem not_drops
    {w : World}
    {c : Call}
    {read : Read}
    {r : Row}
    (hNewest : read.Newest (w.history c))
    (hDomain : read.domain = r.domain)
    (hKind : read.kind = r.kind)
    (hSource : c.source = some read.source)
    (hStamp : read.seenAt ≤ r.updatedAt) :
    drops r c = false := by
  cases c with
  | recordExternal usage =>
      rw [Bool.eq_false_iff]
      intro hDrops
      simp only [drops, Bool.and_eq_true, isIn_iff] at hDrops
      rcases hDrops with ⟨⟨⟨⟨hIn, _⟩, _⟩, _⟩, hBefore⟩
      cases hStarted : usage.readAt with
      | none =>
          rw [hStarted] at hBefore
          cases hBefore
      | some started =>
          rw [hStarted, Option.any_some, decide_eq_true_eq]
            at hBefore
          have hThis : usage.read w.now ∈
              w.history (.recordExternal usage) :=
            List.mem_append_right _ List.mem_cons_self
          have hLast := hNewest.2 _ hThis
            (hIn.1.symm.trans hDomain.symm)
            (hIn.2.symm.trans hKind.symm)
            (Option.some.inj hSource)
          simp only [Usage.read, Usage.seenAt, hStarted,
            Option.getD_some] at hLast
          omega
  | _ => rfl

/- One call keeps a row for all that is reported. -/
theorem call_survives
    {w : World}
    {c : Call}
    {t : Reservations}
    (hEffect : Effect w c t)
    (hSpares : w.Spares c)
    (hSurvives : w.Survives)
    (hStamped : w.Stamped)
    {read : Read}
    {domain kind v : String}
    (hReports :
      Reports (w.history c) w.now read domain kind v) :
    ∃ r ∈ t.rows, r.isIn domain kind = true ∧ r.value = v := by
  have hRead := hReports
  rcases hReports with
    ⟨hNewest, hDomain, hKind, hFound, hFresh⟩
  rcases List.mem_append.mp hNewest.1 with hOld | hThis
  case inr =>
    -- the read of this very call
    apply hEffect.recorded
    rw [← hDomain, ← hKind]
    exact (hEffect.found read hThis).2 v hFound
  case inl =>
    -- an earlier read, which had a row
    have hBefore := hRead.of_append hOld
    rcases hSurvives read domain kind v hBefore with
      ⟨r, hr, hIn, hValue⟩
    rcases isIn_iff.mp hIn with ⟨rfl, rfl⟩
    subst hValue
    have hSpared := hSpares r hr read hNewest.1 hRead
    have hRenewed : w.Renews c read r →
        ∃ r' ∈ t.rows, r'.isIn r.domain r.kind = true ∧
          r'.value = r.value :=
      fun hRenews => hEffect.recorded _ _ _ hRenews.1
    cases hExternal : r.isExternal with
    | false =>
        rcases hEffect.range r hr hExternal with
          hStays | hFreed
        · exact ⟨r, hStays, hIn, rfl⟩
        · exact hRenewed (hSpared.1 hFreed)
    | true =>
        rcases hEffect.external r hr hExternal with
          ⟨r', hr', hRow⟩ | hExpires | hDrops
        · refine ⟨r', hr', ?_, ?_⟩
          · rw [hRow.1]
            exact hIn
          · rw [hRow.1]
            rfl
        · rcases hSpared.2.1 hExpires with hOwn | hRenews
          · rw [not_expires (hStamped read r hr hExternal hOwn
              hBefore) hFresh] at hExpires
            cases hExpires
          · exact hRenewed hRenews
        · have hSource := hSpared.2.2 hDrops
          have hOwn :
              r.startsWith (sourcePrefix read.source) =
                true := by
            cases c with
            | recordExternal usage =>
                simp only [drops, Bool.and_eq_true] at hDrops
                rw [← Option.some.inj hSource]
                exact hDrops.1.1.2
            | _ => cases hSource
          rw [not_drops hNewest hDomain hKind hSource
            (hStamped read r hr hExternal hOwn hBefore)]
            at hDrops
          cases hDrops

/- One call keeps the stamps of all that is reported. -/
theorem call_stamped
    {w : World}
    {c : Call}
    {t : Reservations}
    (hEffect : Effect w c t)
    (hSpares : w.Spares c)
    (hSurvives : w.Survives)
    (hStamped : w.Stamped)
    {read : Read}
    {r' : Row}
    (hr' : r' ∈ t.rows)
    (hExternal : r'.isExternal = true)
    (hOwn :
      r'.startsWith (sourcePrefix read.source) = true)
    (hReports :
      Reports (w.history c) w.now read r'.domain r'.kind
        r'.value) :
    read.seenAt ≤ r'.updatedAt := by
  have hRead := hReports
  rcases hReports with
    ⟨hNewest, hDomain, hKind, hFound, hFresh⟩
  rcases List.mem_append.mp hNewest.1 with hOld | hThis
  case inr =>
    exact hEffect.touched read hThis r' hr' hExternal
      (isIn_iff.mpr ⟨hDomain.symm, hKind.symm⟩) hOwn hFound
  case inl =>
    have hBefore := hRead.of_append hOld
    rcases hEffect.origin r' hr' hExternal with
      ⟨r, hr, hRow⟩ | ⟨hStamp, hGone⟩
    · -- refreshed: no earlier than it was
      have hEarlier : read.seenAt ≤ r.updatedAt := by
        rw [hRow.1] at hExternal hOwn hBefore
        exact hStamped read r hr hExternal hOwn hBefore
      exact Int.le_trans hEarlier hRow.2
    · -- new: the row before it was freed or expired
      rcases hSurvives read _ _ _ hBefore with
        ⟨r, hr, hIn, hValue⟩
      rcases isIn_iff.mp hIn with ⟨hSameDomain, hSameKind⟩
      rw [hStamp]
      rw [← hSameDomain, ← hSameKind, ← hValue] at hRead
      have hSpared := hSpares r hr read hNewest.1 hRead
      rcases hGone r hr ⟨hSameDomain, hSameKind, hValue⟩ with
        hFreed | hExpires
      · exact (hSpared.1 hFreed).2
      · rcases hSpared.2.1 hExpires with hOwned | hRenews
        · rw [← hSameDomain, ← hSameKind, ← hValue] at hBefore
          have hWasExternal : r.isExternal = true := by
            cases c with
            | recordExternal usage =>
                simp only [expires, Bool.and_eq_true]
                  at hExpires
                exact hExpires.1.1.2
            | _ => cases hExpires
          rw [not_expires (hStamped read r hr hWasExternal
            hOwned hBefore) hFresh] at hExpires
          cases hExpires
        · exact hRenews.2

--------
-- Runs
--------

def Inv (w : World) : Prop :=
  w.Survives ∧ w.Stamped

theorem call_inv
    {w w' : World}
    {c : Call}
    (hCall : w.call c = .ok w')
    (hSpares : w.Spares c)
    (hInv : w.Inv) :
    w'.Inv := by
  unfold call at hCall
  cases hResult : w.result c with
  | error refusal =>
      rw [hResult] at hCall
      cases hCall
  | ok answer =>
      rw [hResult] at hCall
      cases hCall
      have hEffect := result_effect hResult
      constructor
      · intro read domain kind v hReports
        exact call_survives hEffect hSpares hInv.1 hInv.2
          hReports
      · intro read r hr hExternal hOwn hReports
        exact call_stamped hEffect hSpares hInv.1 hInv.2 hr
          hExternal hOwn hReports

theorem transaction_inv
    {w w' : World}
    {calls : List Call}
    (hCommit : w.transaction calls = .ok w')
    (hSpares : w.SparesAll calls)
    (hInv : w.Inv) :
    w'.Inv := by
  induction calls generalizing w with
  | nil =>
      cases hCommit
      exact hInv
  | cons c calls ih =>
      unfold transaction at hCommit
      unfold SparesAll at hSpares
      cases hCall : w.call c with
      | error refusal =>
          rw [hCall] at hCommit
          cases hCommit
      | ok next =>
          rw [hCall] at hCommit hSpares
          exact ih hCommit hSpares.2
            (call_inv hCall hSpares.1 hInv)

theorem step_inv
    (w : World)
    (a : Action)
    (hSpares : w.SparesRun a)
    (hInv : w.Inv) :
    (w.step a).Inv := by
  cases a with
  | transaction calls =>
      simp only [SparesRun] at hSpares
      simp only [step]
      cases hCommit : w.transaction calls with
      | error refusal => exact hInv
      | ok w' =>
          rw [hCommit] at hSpares
          exact transaction_inv hCommit hSpares hInv
  | ranges destroyed => exact hInv
  | tick elapsed =>
      -- what is reported later was reported before
      have hEarlier : ∀ read domain kind v,
          Reports w.reads (w.now + elapsed) read domain kind
              v →
            Reports w.reads w.now read domain kind v := by
        intro read domain kind v hReports
        rcases hReports with
          ⟨hNewest, hDomain, hKind, hFound, hFresh⟩
        exact ⟨hNewest, hDomain, hKind, hFound, by omega⟩
      constructor
      · intro read domain kind v hReports
        exact hInv.1 read domain kind v
          (hEarlier _ _ _ _ hReports)
      · intro read r hr hExternal hOwn hReports
        exact hInv.2 read r hr hExternal hOwn
          (hEarlier _ _ _ _ hReports)

theorem fresh_inv : fresh.Inv := by
  constructor
  · intro read domain kind v hReports
    cases hReports.1.1
  · intro read r hr
    cases hr

/- A free value is not one a newest read reports. -/
theorem not_reported_of_free
    {w : World}
    {request : Request}
    {prune : Bool}
    {excluded : List String}
    (hSpares :
      w.Spares (.reserveValues request prune excluded))
    (hInv : w.Inv)
    {read : Read}
    {v : String}
    (hReports : Reports w.reads w.now read request.domain
      request.kind v)
    (hNeeds : newHolders
      (Worker.released w.table request prune) request ≠ []) :
    isFree w.destroyed
        (Worker.released w.table request prune) request.domain
        request.kind v =
      false := by
  rcases hInv.1 read _ _ _ hReports with
    ⟨r, hr, hIn, hValue⟩
  have hKept : w.frees r
      (.reserveValues request prune excluded) = false := by
    rw [Bool.eq_false_iff]
    intro hFreed
    rcases isIn_iff.mp hIn with ⟨hDomain, hKind⟩
    have hRenews := (hSpares r hr read
      (List.mem_append_left _ hReports.1.1) (by
        simp only [history, Call.reads, List.append_nil]
        rw [hDomain, hKind, hValue]
        exact hReports)).1 hFreed
    cases hRenews.1
  simp only [frees, Bool.or_eq_false_iff, hNeeds, hIn,
    ne_eq, not_false_eq_true, decide_true, Bool.true_and]
    at hKept
  rw [Bool.eq_false_iff]
  intro hFree
  unfold isFree at hFree
  have hGone := List.all_eq_true.mp hFree r
    (Table.mem_delete.mpr ⟨hr, hKept.1⟩)
  simp [hIn, hValue, hKept.2] at hGone

/-
  In a run whose steps spare what is reported, a value the
  newest read of a source found foreign, that no range
  holds, has an external row while the sighting lasts, and
  `reserve_values` does not hand it out.
-/
theorem external_survives
    (actions : List Action)
    (hMeets : Runs.Meets step SparesRun fresh actions) :
    let w := Runs.run step fresh actions
    (∀ read domain kind v,
      Reports w.reads w.now read domain kind v →
      (∀ r ∈ w.table.rows, r.isIn domain kind = true →
        r.value = v → r.isExternal = true) →
        ∃ r ∈ w.table.rows, r.isIn domain kind = true ∧
          r.isExternal = true ∧ r.value = v) ∧
    ∀ request prune excluded t got,
      w.Spares (.reserveValues request prune excluded) →
      Worker.reserveValues w.destroyed w.now w.table request
          prune excluded = .ok (t, got) →
      ∀ read v,
        Reports w.reads w.now read request.domain
          request.kind v →
        ∀ h ∈ newHolders
            (Worker.released w.table request prune) request,
          got.get? h ≠ some v := by
  intro w
  have hInv : w.Inv :=
    Runs.Meets.invariant Inv step_inv fresh_inv hMeets
  constructor
  · intro read domain kind v hReports hNoRange
    rcases hInv.1 read domain kind v hReports with
      ⟨r, hr, hIn, hValue⟩
    exact ⟨r, hr, hIn, hNoRange r hr hIn hValue, hValue⟩
  · intro request prune excluded t got hSpares hReserve read v
      hReports h hNew hGot
    have hFree := (Worker.reserveValues_serves
      hReserve).assigned_free hNew hGot
    rw [not_reported_of_free hSpares hInv hReports
      (List.ne_nil_of_mem hNew)] at hFree
    cases hFree

--------
-- Two Sources of One Value
--------

/- A live read of a source, started when it is recorded. -/
def readOf
    (source : String)
    (values : List String)
    (readAt : Int) : Usage where
  domain := "vsphere:switch"
  kind := "vlan"
  source := source
  foreign := Dict.collect values (fun _ => some "pg")
  managed := .empty
  readAt := some readAt

/-
  A slow read of one source no longer sees a value that
  another source's newer read, committed before it, saw.
-/
def twoSources : List Action :=
  [.transaction [.recordExternal (readOf "a" ["100"] 0)],
   .tick 30,
   .transaction [.recordExternal (readOf "b" ["100"] 30)],
   .transaction [.recordExternal (readOf "a" [] 20)]]

/-
  The newer read left the row as it was, under the other
  source, so the slow read drops it; the value the newer
  read counts on is then handed out.
-/
theorem twoSources_lost :
    let w := Runs.run step fresh twoSources
    Reports w.reads w.now
        ((readOf "b" ["100"] 30).read 30)
        "vsphere:switch" "vlan" "100" ∧
    w.table.rows = [] ∧
    (w.result (.reserveValues
        (edgeOn "100") true [])).toOption.bind
          (fun answer => answer.2.get? "edge") =
      some "100" := by
  decide

/- A source that keeps seeing its own value. -/
def oneSource : List Action :=
  [.transaction [.recordExternal (readOf "a" ["100"] 0)],
   .transaction [.recordExternal (readOf "b" ["200"] 0)],
   .tick 10,
   .transaction
     [.recordExternal (readOf "a" ["100", "300"] 10),
      .reserveValues (edgeOn "400") true []]]

/- There the value has its external row. -/
theorem oneSource_survives :
    ∃ r ∈ (Runs.run step fresh oneSource).table.rows,
      r.isIn "vsphere:switch" "vlan" = true ∧
      r.isExternal = true ∧ r.value = "100" :=
  (external_survives oneSource (by decide)).1
    ((readOf "a" ["100", "300"] 10).read 10)
    "vsphere:switch" "vlan" "100" (by decide) (by decide)

end World

end RangeAlloc

end TrueNorth
