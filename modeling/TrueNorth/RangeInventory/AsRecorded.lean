import TrueNorth.RangeInventory.Record

/-
  What a passing comparison says: a finding, or a gap, for
  every recorded item that was read and is not as recorded.

  Key definitions include:
    * `VmAsRecorded`
    * `PgAsRecorded`
    * `About`

  Main theorems:
    * `vmFindings_eq_nil_iff`
    * `pgFindings_quiet_iff`
    * `compare_pass_iff`
    * `vm_reported`
    * `pg_reported`
-/

--------
-- As Recorded
--------

namespace TrueNorth

namespace RangeInventory

/- A NIC is on the recorded network, with the recorded MAC. -/
structure NicAsRecorded
    (lower : String → String)
    (w h : Nic) : Prop where
  net : h.net = w.net
  mac : mac lower h.mac = mac lower w.mac

/- CPU, memory, NICs in order and snapshots are the record's. -/
structure HardwareAsRecorded
    (lower : String → String)
    (known : Known)
    (ignored : List String)
    (vm : RecordVm)
    (seen : VmReading) : Prop where
  cpu : ∀ n, vm.numCpu = some n → seen.numCpu = some n
  memory : ∀ n, vm.memoryMb = some n → seen.memoryMb = some n
  nics : List.Forall₂ (NicAsRecorded lower) vm.nics seen.nics
  snapshots : ∀ s ∈ seen.snapshots,
    snapshotKnown known ignored s = true
  kept : ∀ id, (vm.moid, id) ∈ known.expected →
    ∃ s ∈ seen.snapshots, text s.moid = id

/-
  The VM exists where it was recorded, has the recorded
  instance UUID and equals the record.
-/
structure VmAsRecorded
    (lower : String → String)
    (known : Known)
    (ignored : List String)
    (vm : RecordVm)
    (seen : VmReading) : Prop where
  present : seen.exists' = true
  inPlace : truthy seen.movedTo = none
  uuid : ∃ uuid live, truthy vm.instanceUuid = some uuid ∧
    truthy seen.instanceUuid = some live ∧
    lower live = lower uuid
  hardware : HardwareAsRecorded lower known ignored vm seen

/- The port group exists, with the recorded VLAN. -/
structure PgAsRecorded
    (pg : RecordPg)
    (seen : PgReading) : Prop where
  present : seen.exists' = true
  readable : seen.vlanUnreadable = false
  vlan : ∀ vlan, pg.vlan = some vlan →
    seen.vlan = some (.one vlan)

--------
-- What No Finding Means
--------

variable {lower : String → String}

theorem numFindings_eq_nil_iff
    {kind label : String}
    {want have' : Option Int} :
    numFindings kind label want have' = [] ↔
      ∀ n, want = some n → have' = some n := by
  cases want with
  | none => simp [numFindings]
  | some n =>
      by_cases hSame : have' = some n
      · simp [numFindings, hSame]
      · simp [numFindings, hSame]

theorem nicPairFindings_eq_nil_iff
    {nic : String}
    {w h : Nic} :
    nicPairFindings lower nic w h = [] ↔
      NicAsRecorded lower w h := by
  unfold nicPairFindings
  rw [List.append_eq_nil_iff]
  constructor
  · rintro ⟨hNet, hMac⟩
    constructor
    · by_contra hNe
      rw [if_pos (fun hSame => hNe hSame.symm)] at hNet
      cases hNet
    · by_contra hNe
      rw [if_pos (fun hSame => hNe hSame.symm)] at hMac
      cases hMac
  · intro hSame
    constructor
    · rw [if_neg (not_not.mpr hSame.net.symm)]
    · rw [if_neg (not_not.mpr hSame.mac.symm)]

/- No finding at any position: the lists match throughout. -/
theorem nicFindings_eq_nil_iff
    {label : String}
    {want have' : List Nic} :
    (List.range (max want.length have'.length)).flatMap
        (nicFindings lower label want have') = [] ↔
      List.Forall₂ (NicAsRecorded lower) want have' := by
  rw [List.flatMap_eq_nil_iff, List.forall₂_iff_get]
  constructor
  · intro hNone
    have hLength : want.length = have'.length := by
      by_contra hNe
      have hAt := hNone
        (min want.length have'.length)
        (List.mem_range.mpr (by omega))
      rcases Nat.lt_or_gt_of_ne hNe with hLt | hGt
      · have hMin : min want.length have'.length =
            want.length := by omega
        rw [hMin, nicFindings,
          List.getElem?_eq_none (Nat.le_refl _),
          List.getElem?_eq_getElem hLt] at hAt
        cases hAt
      · have hMin : min want.length have'.length =
            have'.length := by omega
        rw [hMin, nicFindings,
          List.getElem?_eq_getElem hGt,
          List.getElem?_eq_none (Nat.le_refl _)] at hAt
        cases hAt
    refine ⟨hLength, ?_⟩
    intro i hWant hHave
    have hAt := hNone i (List.mem_range.mpr (by omega))
    rw [nicFindings, List.getElem?_eq_getElem hWant,
      List.getElem?_eq_getElem hHave] at hAt
    exact nicPairFindings_eq_nil_iff.mp hAt
  · rintro ⟨hLength, hSame⟩ i hRange
    rw [List.mem_range] at hRange
    have hWant : i < want.length := by omega
    have hHave : i < have'.length := by omega
    rw [nicFindings, List.getElem?_eq_getElem hWant,
      List.getElem?_eq_getElem hHave]
    exact nicPairFindings_eq_nil_iff.mpr
      (hSame i hWant hHave)

theorem snapshotFindings_eq_nil_iff
    {known : Known}
    {ignored : List String}
    {vm : RecordVm}
    {snaps : List Snapshot} :
    snapshotFindings known ignored vm snaps = [] ↔
      (∀ s ∈ snaps, snapshotKnown known ignored s = true) ∧
      (∀ id, (vm.moid, id) ∈ known.expected →
        ∃ s ∈ snaps, text s.moid = id) := by
  unfold snapshotFindings
  rw [List.append_eq_nil_iff, List.map_eq_nil_iff,
    List.map_eq_nil_iff, List.filter_eq_nil_iff]
  apply and_congr
  · apply forall₂_congr
    intro s _
    simp
  · constructor
    · intro hNone id hExpected
      by_contra hMissing
      have hMem :
          id ∈ ((Dict.fromkeys ((known.expected.filter
              (fun pair => pair.1 = vm.moid)).map
                Prod.snd)).filter
            (fun id => id ∉ snaps.map
              (fun s => text s.moid))).insertionSort
                (· ≤ ·) := by
        rw [List.mem_insertionSort, List.mem_filter,
          Dict.mem_fromkeys, decide_eq_true_eq]
        constructor
        · refine List.mem_map.mpr ⟨(vm.moid, id), ?_, rfl⟩
          exact List.mem_filter.mpr
            ⟨hExpected, decide_eq_true rfl⟩
        · intro hThere
          exact hMissing (List.mem_map.mp hThere)
      rw [hNone] at hMem
      cases hMem
    · intro hAll
      apply List.eq_nil_iff_forall_not_mem.mpr
      intro id hMem
      rw [List.mem_insertionSort, List.mem_filter,
        Dict.mem_fromkeys, decide_eq_true_eq] at hMem
      rcases List.mem_map.mp hMem.1 with
        ⟨⟨moid, id'⟩, hPair, rfl⟩
      rw [List.mem_filter, decide_eq_true_eq] at hPair
      rcases hPair with ⟨hExpected, rfl⟩
      exact hMem.2 (List.mem_map.mpr (hAll _ hExpected))

theorem hardwareFindings_eq_nil_iff
    {known : Known}
    {ignored : List String}
    {vm : RecordVm}
    {seen : VmReading} :
    hardwareFindings lower known ignored vm seen = [] ↔
      HardwareAsRecorded lower known ignored vm seen := by
  unfold hardwareFindings
  rw [List.append_eq_nil_iff, List.append_eq_nil_iff,
    List.append_eq_nil_iff, numFindings_eq_nil_iff,
    numFindings_eq_nil_iff, nicFindings_eq_nil_iff,
    snapshotFindings_eq_nil_iff]
  constructor
  · rintro ⟨⟨⟨hCpu, hMemory⟩, hNics⟩, hKnown, hKept⟩
    exact ⟨hCpu, hMemory, hNics, hKnown, hKept⟩
  · intro h
    exact ⟨⟨⟨h.cpu, h.memory⟩, h.nics⟩, h.snapshots, h.kept⟩

theorem vmOwned_eq_true_iff
    {vm : RecordVm}
    {liveUuid : Option String} :
    vmOwned lower vm liveUuid = some true ↔
      ∃ uuid live, truthy vm.instanceUuid = some uuid ∧
        truthy liveUuid = some live ∧
        lower live = lower uuid := by
  unfold vmOwned
  cases hUuid : truthy vm.instanceUuid with
  | none => simp
  | some uuid =>
      cases hLive : truthy liveUuid with
      | none => simp
      | some live => simp

/- Of an identified VM; of another there is a gap. -/
theorem vmFindings_eq_nil_iff
    {known : Known}
    {ignored : List String}
    {vm : RecordVm}
    {seen : VmReading}
    (hUuid : (truthy vm.instanceUuid).isSome = true)
    (hIdentified : vm.identified = true) :
    vmFindings lower known ignored vm seen = [] ↔
      VmAsRecorded lower known ignored vm seen := by
  have hOwned :
      vmOwned lower vm seen.instanceUuid ≠ none := by
    unfold vmOwned
    rcases Option.isSome_iff_exists.mp hUuid with
      ⟨uuid, hSome⟩
    rw [hSome]
    exact Option.some_ne_none _
  unfold vmFindings
  by_cases hExists : seen.exists' = true
  · rw [hExists, Bool.not_true, if_neg Bool.false_ne_true,
      List.append_eq_nil_iff, hIdentified, Bool.not_true,
      if_neg Bool.false_ne_true]
    constructor
    · rintro ⟨hMoved, hRest⟩
      have hInPlace : truthy seen.movedTo = none := by
        cases hTo : truthy seen.movedTo with
        | none => rfl
        | some moved =>
            rw [hTo] at hMoved
            cases hMoved
      by_cases hOther :
          vmOwned lower vm seen.instanceUuid = some false
      · rw [if_pos hOther] at hRest
        cases hRest
      · rw [if_neg hOther,
          hardwareFindings_eq_nil_iff] at hRest
        refine ⟨hExists, hInPlace, ?_, hRest⟩
        apply vmOwned_eq_true_iff.mp
        cases hVerdict :
            vmOwned lower vm seen.instanceUuid with
        | none => exact absurd hVerdict hOwned
        | some verdict =>
            cases verdict with
            | true => rfl
            | false => exact absurd hVerdict hOther
    · intro h
      have hVerdict := vmOwned_eq_true_iff.mpr h.uuid
      rw [h.inPlace, hVerdict]
      refine ⟨rfl, ?_⟩
      rw [if_neg (by simp)]
      exact hardwareFindings_eq_nil_iff.mpr h.hardware
  · rw [Bool.not_eq_true] at hExists
    rw [hExists, Bool.not_false, if_pos rfl]
    constructor
    · intro hNone
      cases hNone
    · intro h
      rw [h.present] at hExists
      cases hExists

theorem pgFindings_quiet_iff
    {pg : RecordPg}
    {seen : PgReading} :
    ((pgFindings pg seen).1 = [] ∧
        (pgFindings pg seen).2 = []) ↔
      PgAsRecorded pg seen := by
  unfold pgFindings
  by_cases hExists : seen.exists' = true
  · rw [hExists, Bool.not_true, if_neg Bool.false_ne_true]
    by_cases hReadable : seen.vlanUnreadable = true
    · rw [if_pos hReadable]
      constructor
      · rintro ⟨_, hNone⟩
        cases hNone
      · intro h
        rw [h.readable] at hReadable
        cases hReadable
    · rw [if_neg hReadable]
      rw [Bool.not_eq_true] at hReadable
      cases hVlan : pg.vlan with
      | none =>
          constructor
          · intro _
            refine ⟨hExists, hReadable, ?_⟩
            intro vlan hSome
            rw [hVlan] at hSome
            cases hSome
          · intro _
            exact ⟨rfl, rfl⟩
      | some vlan =>
          by_cases hSame : seen.vlan = some (.one vlan)
          · simp only [hSame, ne_eq, not_true_eq_false,
              if_false, and_self, true_iff]
            refine ⟨hExists, hReadable, ?_⟩
            intro vlan' hSome
            rw [hVlan] at hSome
            cases hSome
            exact hSame
          · simp only [ne_eq, hSame, not_false_eq_true,
              if_true]
            constructor
            · rintro ⟨hNone, _⟩
              cases hNone
            · intro h
              exact absurd (h.vlan vlan hVlan) hSame
  · rw [Bool.not_eq_true] at hExists
    rw [hExists, Bool.not_false, if_pos rfl]
    constructor
    · rintro ⟨hNone, _⟩
      cases hNone
    · intro h
      rw [h.present] at hExists
      cases hExists

--------
-- What a Complete Record Means
--------

theorem recorded_vm_uuid
    {output : Output}
    {vm : RecordVm}
    (hMem : vm ∈ (recorded output).vms) :
    truthy vm.instanceUuid = vm.instanceUuid ∧
      vm.identified = vm.instanceUuid.isSome := by
  rcases List.mem_filterMap.mp hMem with ⟨entry, _, hVm⟩
  rcases Option.map_eq_some_iff.mp hVm with ⟨id, _, rfl⟩
  simp [truthy, Option.filter_filter]

/- No gap: every VM has an instance UUID, every port group an
   id, and the folder is recorded where there are VMs. -/
theorem recorded_gaps_eq_nil_iff
    {output : Output} :
    (recorded output).gaps = [] ↔
      (∀ vm ∈ (recorded output).vms,
        vm.instanceUuid.isSome = true) ∧
      (∀ pg ∈ (recorded output).portgroups,
        pg.moid.isSome = true) ∧
      ((recorded output).vms ≠ [] →
        output.folder.isSome = true) := by
  unfold recorded
  simp only [List.append_eq_nil_iff,
    List.flatMap_eq_nil_iff]
  rw [and_assoc]
  refine and_congr ?_ (and_congr ?_ ?_)
  · apply forall₂_congr
    intro vm _
    unfold RecordVm.gaps
    cases vm.instanceUuid <;> simp
  · apply forall₂_congr
    intro pg _
    unfold RecordPg.gaps
    cases pg.moid <;> simp
  · cases output.folder <;> simp

theorem driftStatus_pass_iff
    {findings : List Finding}
    {gaps : List String} :
    (driftStatus findings gaps).1 = pass ↔
      findings = [] ∧ gaps = [] := by
  unfold driftStatus
  by_cases hFail :
      (((Dict.fromkeys (findings.map Finding.kind)).insertionSort
        (· ≤ ·)).any (· ∈ failKinds)) = true
  · simp only [hFail, if_true]
    constructor
    · intro hPass
      exact absurd hPass (by decide)
    · rintro ⟨rfl, _⟩
      simp [Dict.fromkeys] at hFail
  · simp only [hFail]
    by_cases hNone : findings = []
    · cases gaps with
      | nil => simp [hNone]
      | cons gap gaps => simp [hNone, pass, incomplete]
    · simp [hNone, pass, incomplete]

--------
-- What a Pass Means
--------

variable {lower : String → String}

theorem mem_vmsRead
    {inv : Record}
    {live : Live}
    {vm : RecordVm}
    {seen : VmReading} :
    (vm, seen) ∈ vmsRead inv live ↔
      vm ∈ inv.vms ∧ live.vms.get? vm.moid = some seen := by
  unfold vmsRead
  simp only [List.mem_filterMap, Option.map_eq_some_iff,
    Prod.mk.injEq]
  constructor
  · rintro ⟨vm', hMem, seen', hGet, rfl, rfl⟩
    exact ⟨hMem, hGet⟩
  · rintro ⟨hMem, hGet⟩
    exact ⟨vm, hMem, seen, hGet, rfl, rfl⟩

theorem mem_pgsRead
    {inv : Record}
    {live : Live}
    {pg : RecordPg}
    {seen : PgReading} :
    (pg, seen) ∈ pgsRead inv live ↔
      pg ∈ inv.portgroups ∧ ∃ moid, pg.moid = some moid ∧
        live.portgroups.get? moid = some seen := by
  unfold pgsRead
  simp only [List.mem_filterMap, Option.map_eq_some_iff,
    Prod.mk.injEq, Option.bind_eq_some_iff]
  constructor
  · rintro ⟨pg', hMem, seen', hGet, rfl, rfl⟩
    exact ⟨hMem, hGet⟩
  · rintro ⟨hMem, hGet⟩
    exact ⟨pg, hMem, seen, hGet, rfl, rfl⟩

/- The findings before they are put in order. -/
def found
    (lower : String → String)
    (output : Output)
    (live : Live)
    (known : Known)
    (ignored : List String) : List Finding :=
  (vmsRead (recorded output) live).flatMap (fun read =>
    vmFindings lower known ignored read.1 read.2) ++
  (pgsRead (recorded output) live).flatMap (fun read =>
    (pgFindings read.1 read.2).1) ++
  live.unidentified.flatMap markedFindings

theorem mem_compare_findings
    {output : Output}
    {live : Live}
    {rows : List SnapshotRow}
    {prefixes : List String}
    {f : Finding} :
    f ∈ (compare lower output live rows prefixes).findings ↔
      f ∈ found lower output live (knownSnapshots rows)
        (prefixes.filter (· ≠ "")) :=
  List.mem_insertionSort _

theorem compare_gaps
    (output : Output)
    (live : Live)
    (rows : List SnapshotRow)
    (prefixes : List String) :
    (compare lower output live rows prefixes).gaps =
      (recorded output).gaps ++
        (pgsRead (recorded output) live).flatMap (fun read =>
          (pgFindings read.1 read.2).2) :=
  rfl

/- A pass is no finding and no gap. -/
theorem compare_quiet_iff
    {output : Output}
    {live : Live}
    {rows : List SnapshotRow}
    {prefixes : List String} :
    (compare lower output live rows prefixes).status = pass ↔
      (compare lower output live rows prefixes).findings = [] ∧
      (compare lower output live rows prefixes).gaps = [] :=
  driftStatus_pass_iff

/-
  A pass: the record has no gap, nothing else carries the
  range's mark, and all that was read is as recorded.
-/
theorem compare_pass_iff
    {output : Output}
    {live : Live}
    {rows : List SnapshotRow}
    {prefixes : List String} :
    (compare lower output live rows prefixes).status = pass ↔
      (recorded output).gaps = [] ∧
      (∀ item ∈ live.unidentified,
        item.kind ≠ "vm" ∧ item.kind ≠ "portgroup") ∧
      (∀ vm ∈ (recorded output).vms, ∀ seen,
        live.vms.get? vm.moid = some seen →
          VmAsRecorded lower (knownSnapshots rows)
            (prefixes.filter (· ≠ "")) vm seen) ∧
      (∀ pg ∈ (recorded output).portgroups, ∀ moid seen,
        pg.moid = some moid →
        live.portgroups.get? moid = some seen →
          PgAsRecorded pg seen) := by
  rw [compare_quiet_iff, compare_gaps,
    List.append_eq_nil_iff]
  have hFindings :
      (compare lower output live rows prefixes).findings =
          [] ↔
        found lower output live (knownSnapshots rows)
          (prefixes.filter (· ≠ "")) = [] := by
    simp only [List.eq_nil_iff_forall_not_mem,
      mem_compare_findings]
  rw [hFindings, found, List.append_eq_nil_iff,
    List.append_eq_nil_iff, List.flatMap_eq_nil_iff,
    List.flatMap_eq_nil_iff, List.flatMap_eq_nil_iff,
    List.flatMap_eq_nil_iff]
  have hMarked :
      ∀ item, markedFindings item = [] ↔
        item.kind ≠ "vm" ∧ item.kind ≠ "portgroup" := by
    intro item
    unfold markedFindings
    by_cases hKind :
        item.kind = "vm" ∨ item.kind = "portgroup"
    · rw [if_pos hKind]
      simp only [List.cons_ne_nil, false_iff]
      tauto
    · rw [if_neg hKind]
      tauto
  constructor
  · rintro ⟨⟨⟨hVms, hPgs⟩, hItems⟩, hGaps, hPgGaps⟩
    refine ⟨hGaps, ?_, ?_, ?_⟩
    · intro item hMem
      exact (hMarked item).mp (hItems item hMem)
    · intro vm hMem seen hGet
      have hUuid :=
        (recorded_gaps_eq_nil_iff.mp hGaps).1 vm hMem
      have hVm := recorded_vm_uuid hMem
      apply (vmFindings_eq_nil_iff _ _).mp
      · exact hVms (vm, seen) (mem_vmsRead.mpr ⟨hMem, hGet⟩)
      · rw [hVm.1]
        exact hUuid
      · rw [hVm.2]
        exact hUuid
    · intro pg hMem moid seen hMoid hGet
      have hRead :
          (pg, seen) ∈ pgsRead (recorded output) live :=
        mem_pgsRead.mpr ⟨hMem, moid, hMoid, hGet⟩
      exact pgFindings_quiet_iff.mp
        ⟨hPgs _ hRead, hPgGaps _ hRead⟩
  · rintro ⟨hGaps, hItems, hVms, hPgs⟩
    have hPgQuiet :
        ∀ read ∈ pgsRead (recorded output) live,
          (pgFindings read.1 read.2).1 = [] ∧
            (pgFindings read.1 read.2).2 = [] := by
      rintro ⟨pg, seen⟩ hRead
      rcases mem_pgsRead.mp hRead with
        ⟨hMem, moid, hMoid, hGet⟩
      exact pgFindings_quiet_iff.mpr
        (hPgs pg hMem moid seen hMoid hGet)
    refine ⟨⟨⟨?_, ?_⟩, ?_⟩, hGaps, ?_⟩
    · rintro ⟨vm, seen⟩ hRead
      rcases mem_vmsRead.mp hRead with ⟨hMem, hGet⟩
      have hUuid :=
        (recorded_gaps_eq_nil_iff.mp hGaps).1 vm hMem
      have hVm := recorded_vm_uuid hMem
      apply (vmFindings_eq_nil_iff _ _).mpr
      · exact hVms vm hMem seen hGet
      · rw [hVm.1]
        exact hUuid
      · rw [hVm.2]
        exact hUuid
    · intro read hRead
      exact (hPgQuiet read hRead).1
    · intro item hMem
      exact (hMarked item).mpr (hItems item hMem)
    · intro read hRead
      exact (hPgQuiet read hRead).2

--------
-- What Is Reported
--------

variable {lower : String → String}

/- The finding names the item, or one of its NICs. -/
def About
    (label : String)
    (f : Finding) : Prop :=
  f.object = label ∨
    ∃ i : Nat, f.object = label ++ " NIC " ++ toString i

theorem nicFindings_about
    {label : String}
    {want have' : List Nic}
    {i : Nat}
    {f : Finding}
    (hMem : f ∈ nicFindings lower label want have' i) :
    About label f := by
  refine .inr ⟨i, ?_⟩
  unfold nicFindings at hMem
  cases hWant : want[i]? with
  | none =>
      cases hHave : have'[i]? with
      | none =>
          rw [hWant, hHave] at hMem
          cases hMem
      | some h =>
          rw [hWant, hHave] at hMem
          rw [List.mem_singleton.mp hMem]
  | some w =>
      cases hHave : have'[i]? with
      | none =>
          rw [hWant, hHave] at hMem
          rw [List.mem_singleton.mp hMem]
      | some h =>
          rw [hWant, hHave] at hMem
          rcases List.mem_append.mp hMem with hNet | hMac
          · by_cases hSame : w.net = h.net
            · rw [if_neg (not_not.mpr hSame)] at hNet
              cases hNet
            · rw [if_pos hSame] at hNet
              rw [List.mem_singleton.mp hNet]
          · by_cases hSame : mac lower w.mac = mac lower h.mac
            · rw [if_neg (not_not.mpr hSame)] at hMac
              cases hMac
            · rw [if_pos hSame] at hMac
              rw [List.mem_singleton.mp hMac]

theorem numFindings_about
    {kind label : String}
    {want have' : Option Int}
    {f : Finding}
    (hMem : f ∈ numFindings kind label want have') :
    About label f := by
  unfold numFindings at hMem
  cases want with
  | none => cases hMem
  | some n =>
      by_cases hSame : have' = some n
      · simp [hSame] at hMem
      · simp only [ne_eq, hSame, not_false_eq_true, if_true,
          List.mem_singleton] at hMem
        rw [hMem]
        exact .inl rfl

theorem vmFindings_about
    {known : Known}
    {ignored : List String}
    {vm : RecordVm}
    {seen : VmReading}
    {f : Finding}
    (hMem : f ∈ vmFindings lower known ignored vm seen) :
    About vm.label f := by
  unfold vmFindings at hMem
  by_cases hExists : seen.exists' = true
  · rw [hExists, Bool.not_true,
      if_neg Bool.false_ne_true] at hMem
    rcases List.mem_append.mp hMem with hMoved | hRest
    · cases hTo : truthy seen.movedTo with
      | none =>
          rw [hTo] at hMoved
          cases hMoved
      | some moved =>
          rw [hTo] at hMoved
          rw [List.mem_singleton.mp hMoved]
          exact .inl rfl
    · by_cases hOther :
          vmOwned lower vm seen.instanceUuid = some false
      · rw [if_pos hOther] at hRest
        rw [List.mem_singleton.mp hRest]
        exact .inl rfl
      · rw [if_neg hOther] at hRest
        by_cases hIdentified : vm.identified = true
        · rw [hIdentified, Bool.not_true,
            if_neg Bool.false_ne_true] at hRest
          unfold hardwareFindings snapshotFindings at hRest
          rw [List.mem_append, List.mem_append,
            List.mem_append, List.mem_append] at hRest
          rcases hRest with
            ((hCpu | hMemory) | hNic) | hNew | hGone
          · exact numFindings_about hCpu
          · exact numFindings_about hMemory
          · rcases List.mem_flatMap.mp hNic with ⟨i, _, hAt⟩
            exact nicFindings_about hAt
          · rcases List.mem_map.mp hNew with ⟨s, _, rfl⟩
            exact .inl rfl
          · rcases List.mem_map.mp hGone with ⟨id, _, rfl⟩
            exact .inl rfl
        · rw [Bool.not_eq_true] at hIdentified
          rw [hIdentified, Bool.not_false, if_pos rfl] at hRest
          cases hRest
  · rw [Bool.not_eq_true] at hExists
    rw [hExists, Bool.not_false, if_pos rfl] at hMem
    rw [List.mem_singleton.mp hMem]
    exact .inl rfl

/- A VM that was read and is not as recorded is reported. -/
theorem vm_reported
    {output : Output}
    {live : Live}
    {vm : RecordVm}
    {seen : VmReading}
    (hMem : vm ∈ (recorded output).vms)
    (hGet : live.vms.get? vm.moid = some seen)
    (rows : List SnapshotRow)
    (prefixes : List String)
    (hChanged : ¬ VmAsRecorded lower (knownSnapshots rows)
      (prefixes.filter (· ≠ "")) vm seen) :
    (∃ f ∈ (compare lower output live rows prefixes).findings,
      About vm.label f) ∨
    (∃ gap ∈ (compare lower output live rows prefixes).gaps,
      gap ∈ vm.gaps) := by
  have hVm := recorded_vm_uuid hMem
  by_cases hUuid : vm.instanceUuid.isSome = true
  · refine .inl ?_
    have hFindings :
        vmFindings lower (knownSnapshots rows)
          (prefixes.filter (· ≠ "")) vm seen ≠ [] := by
      intro hNone
      apply hChanged
      apply (vmFindings_eq_nil_iff _ _).mp hNone
      · rw [hVm.1]
        exact hUuid
      · rw [hVm.2]
        exact hUuid
    rcases List.exists_mem_of_ne_nil _ hFindings with
      ⟨f, hFinding⟩
    refine ⟨f, mem_compare_findings.mpr ?_,
      vmFindings_about hFinding⟩
    unfold found
    rw [List.mem_append, List.mem_append]
    exact .inl (.inl (List.mem_flatMap.mpr
      ⟨(vm, seen), mem_vmsRead.mpr ⟨hMem, hGet⟩, hFinding⟩))
  · refine .inr ?_
    have hGap :
        vm.gaps = ["VM " ++ vm.label ++
          ": no instance UUID recorded at clone"] := by
      unfold RecordVm.gaps
      rw [Option.not_isSome_iff_eq_none] at hUuid
      rw [hUuid]
      rfl
    refine ⟨_, ?_, List.mem_of_mem_head? (by rw [hGap]; rfl)⟩
    rw [compare_gaps, recorded, List.mem_append,
      List.mem_append, List.mem_append]
    refine .inl (.inl (.inl ?_))
    refine List.mem_flatMap.mpr ⟨vm, hMem, ?_⟩
    rw [hGap]
    exact List.mem_cons_self

theorem pgFindings_about
    {pg : RecordPg}
    {seen : PgReading} :
    (∀ f ∈ (pgFindings pg seen).1, f.object = pg.name) ∧
    (∀ gap ∈ (pgFindings pg seen).2,
      gap = "port group " ++ pg.name ++
        ": its live VLAN could not be read on every host") := by
  unfold pgFindings
  by_cases hExists : seen.exists' = true
  · rw [hExists, Bool.not_true, if_neg Bool.false_ne_true]
    by_cases hReadable : seen.vlanUnreadable = true
    · rw [if_pos hReadable]
      simp
    · rw [if_neg hReadable]
      cases pg.vlan with
      | none => simp
      | some vlan =>
          by_cases hSame : seen.vlan = some (.one vlan)
          · simp [hSame]
          · simp [hSame]
  · rw [Bool.not_eq_true] at hExists
    rw [hExists, Bool.not_false, if_pos rfl]
    simp

/- So is a port group; one without an id always is. -/
theorem pg_reported
    {output : Output}
    {live : Live}
    {pg : RecordPg}
    (hMem : pg ∈ (recorded output).portgroups)
    (hChanged : ∀ moid, pg.moid = some moid →
      ∃ seen, live.portgroups.get? moid = some seen ∧
        ¬ PgAsRecorded pg seen)
    (rows : List SnapshotRow)
    (prefixes : List String) :
    (∃ f ∈ (compare lower output live rows prefixes).findings,
      f.object = pg.name) ∨
    (∃ gap ∈ (compare lower output live rows prefixes).gaps,
      gap ∈ pg.gaps ∨ gap = "port group " ++ pg.name ++
        ": its live VLAN could not be read on every host") := by
  cases hMoid : pg.moid with
  | none =>
      refine .inr ⟨"port group " ++ pg.name ++
        ": no managed-object id recorded", ?_, .inl ?_⟩
      · rw [compare_gaps, recorded, List.mem_append,
          List.mem_append, List.mem_append]
        refine .inl (.inl (.inr ?_))
        refine List.mem_flatMap.mpr ⟨pg, hMem, ?_⟩
        simp [RecordPg.gaps, hMoid]
      · simp [RecordPg.gaps, hMoid]
  | some moid =>
      rcases hChanged moid hMoid with ⟨seen, hGet, hNot⟩
      have hRead : (pg, seen) ∈ pgsRead (recorded output) live :=
        mem_pgsRead.mpr ⟨hMem, moid, hMoid, hGet⟩
      by_cases hFindings : (pgFindings pg seen).1 = []
      · have hGaps : (pgFindings pg seen).2 ≠ [] := by
          intro hNone
          exact hNot (pgFindings_quiet_iff.mp
            ⟨hFindings, hNone⟩)
        rcases List.exists_mem_of_ne_nil _ hGaps with
          ⟨gap, hGap⟩
        refine .inr ⟨gap, ?_,
          .inr (pgFindings_about.2 gap hGap)⟩
        rw [compare_gaps, List.mem_append]
        exact .inr (List.mem_flatMap.mpr ⟨_, hRead, hGap⟩)
      · rcases List.exists_mem_of_ne_nil _ hFindings with
          ⟨f, hFinding⟩
        refine .inl ⟨f, mem_compare_findings.mpr ?_,
          pgFindings_about.1 f hFinding⟩
        unfold found
        rw [List.mem_append, List.mem_append]
        exact .inl (.inr (List.mem_flatMap.mpr
          ⟨_, hRead, hFinding⟩))

end RangeInventory

end TrueNorth
