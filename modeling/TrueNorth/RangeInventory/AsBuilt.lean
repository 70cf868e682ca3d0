import TrueNorth.Lib.Checks
import TrueNorth.RangeInventory.AsRecorded
import TrueNorth.RangeInventory.Vsphere

/-
  The vSphere reading and the comparison together: every
  recorded item is read, and a pass means that vCenter holds
  the range as it was built.

  Key definitions include:
    * `VmAsBuilt`
    * `PgAsBuilt`

  Main theorems:
    * `live_vms`
    * `live_portgroups`
    * `pass_means_as_built`
-/

--------
-- The Answers Behind a Reading
--------

namespace TrueNorth

namespace RangeInventory

open Checks

variable {P : Type}

/- Every id asked for is missing, or has properties that
   vCenter answered. -/
theorem readLoop_spec
    {c : Collector P}
    {turns : Nat}
    {remaining missing out : List Moid}
    {props : Dict Moid P}
    (hTurns : remaining.length ≤ turns)
    (hRead : readLoop c turns remaining missing =
      .ok (props, out)) :
    (∀ id ∈ missing, id ∈ out) ∧
      (∀ id ∈ remaining, id ∉ out →
        ∃ p, props.get? id = some p) ∧
      (∀ id p, props.get? id = some p → c.Reports id p) := by
  induction turns generalizing remaining missing with
  | zero =>
      have hEmpty : remaining = [] :=
        List.length_eq_zero_iff.mp (Nat.le_zero.mp hTurns)
      cases hRead
      refine ⟨fun id hMem => hMem, ?_, ?_⟩
      · intro id hMem
        rw [hEmpty] at hMem
        cases hMem
      · intro id p hGet
        cases hGet
  | succ turns ih =>
      rw [readLoop] at hRead
      by_cases hEmpty : remaining = []
      · rw [if_pos hEmpty] at hRead
        cases hRead
        refine ⟨fun id hMem => hMem, ?_, ?_⟩
        · intro id hMem
          rw [hEmpty] at hMem
          cases hMem
        · intro id p hGet
          cases hGet
      · rw [if_neg hEmpty] at hRead
        cases hAnswer : c.retrieve remaining with
        | error fault =>
            rw [hAnswer] at hRead
            cases fault with
            | none => cases hRead
            | some gone =>
                by_cases hGone : gone ∈ remaining
                · simp only [hGone, not_true_eq_false,
                    if_false] at hRead
                  have hShorter :
                      (remaining.erase gone).length ≤ turns := by
                    rw [List.length_erase_of_mem hGone]
                    omega
                  rcases ih hShorter hRead with
                    ⟨hMissing, hThere, hReports⟩
                  refine ⟨?_, ?_, hReports⟩
                  · intro id hMem
                    exact hMissing id
                      (List.mem_append_left _ hMem)
                  · intro id hMem hNot
                    apply hThere id _ hNot
                    apply (List.mem_erase_of_ne _).mpr hMem
                    rintro rfl
                    exact hNot (hMissing id
                      (List.mem_append_right _
                        List.mem_cons_self))
                · simp only [hGone, not_false_eq_true,
                    if_true] at hRead
                  cases hRead
        | ok answer =>
            rw [hAnswer] at hRead
            cases hRead
            refine ⟨?_, ?_, ?_⟩
            · intro id hMem
              exact List.mem_append_left _ hMem
            · intro id hMem hNot
              rw [List.mem_append, List.mem_filter,
                decide_eq_true_eq, not_or] at hNot
              apply Dict.mem_keys.mp
              by_contra hKeys
              exact hNot.2 ⟨hMem, hKeys⟩
            · intro id p hGet
              exact ⟨remaining, _, hAnswer, hGet⟩

theorem readProps_spec
    {c : Collector P}
    {ids missing : List Moid}
    {props : Dict Moid P}
    (hRead : readProps c ids = .ok (props, missing)) :
    (∀ id ∈ ids, id ∉ missing →
        ∃ p, props.get? id = some p) ∧
      (∀ id p, props.get? id = some p → c.Reports id p) := by
  rcases readLoop_spec (Nat.le_refl _) hRead with
    ⟨_, hThere, hReports⟩
  refine ⟨?_, hReports⟩
  intro id hMem
  exact hThere id (Dict.mem_fromkeys.mpr hMem)

/- A dictionary built from one result for each id. -/
theorem get?_ofPairs_mapM
    {R : Type}
    {f : Moid → Except String (Moid × R)}
    {ids : List Moid}
    {readings : List (Moid × R)}
    (hKey : ∀ id reading, f id = .ok reading →
      reading.1 = id)
    (hReadings : ids.mapM f = .ok readings)
    {id : Moid}
    (hMem : id ∈ ids) :
    ∃ r, (Dict.ofPairs readings).get? id = some r ∧
      f id = .ok (id, r) := by
  have hEach := mapM_eq_ok hReadings
  have hIn : id ∈ (Dict.ofPairs readings).keys := by
    rcases hEach.1 id hMem with ⟨reading, hReading, hOk⟩
    refine Dict.mem_keys_ofPairs.mpr (List.mem_map.mpr
      ⟨reading, hReading, hKey id reading hOk⟩)
  rcases Dict.mem_keys.mp hIn with ⟨r, hGet⟩
  refine ⟨r, hGet, ?_⟩
  rcases hEach.2 _ (Dict.mem_of_get?_ofPairs hGet) with
    ⟨id', _, hOk⟩
  have hSame : id = id' := hKey id' _ hOk
  rw [hSame] at hOk ⊢
  exact hOk

--------
-- The Reading of the VMs
--------

open Checks

variable {lower : String → String}

/- Where a VM moved to has an id. -/
theorem search_named
    {vc : VCenter}
    {missing : List Moid}
    (vms : List RecordVm)
    {s : Dict Moid Moid × List String}
    (hNamed : ∀ moid there, s.1.get? moid = some there →
      there ≠ "") :
    ∀ moid there,
      (vms.foldl (search vc missing) s).1.get? moid =
        some there → there ≠ "" := by
  induction vms generalizing s with
  | nil => exact hNamed
  | cons v vms ih =>
      apply ih
      unfold search
      cases truthy v.instanceUuid with
      | none => exact hNamed
      | some uuid =>
          by_cases hMissing : v.moid ∈ missing
          · simp only [hMissing, not_true_eq_false, if_false]
            cases vc.findByUuid uuid with
            | error exc => exact hNamed
            | ok found =>
                cases found with
                | none => exact hNamed
                | some ref =>
                    intro moid there hGet
                    rw [Dict.get?_set] at hGet
                    by_cases hSame : moid = v.moid
                    · rw [if_pos hSame] at hGet
                      cases hGet
                      exact ref.named
                    · rw [if_neg hSame] at hGet
                      exact hNamed moid there hGet
          · simp only [hMissing, not_false_eq_true, if_true]
            exact hNamed

theorem readVm_key
    {props more : Dict Moid VmProps}
    {missing : List Moid}
    {moved : Dict Moid Moid}
    {moid : Moid}
    {reading : Moid × VmReading}
    (hRead : readVm lower props more missing moved moid =
      .ok reading) :
    reading.1 = moid := by
  unfold readVm at hRead
  split at hRead
  · cases hRead
    rfl
  · by_cases hMissing : moid ∈ missing
    · rw [if_pos hMissing] at hRead
      cases hRead
      rfl
    · rw [if_neg hMissing] at hRead
      cases hGet : props.get? moid with
      | none =>
          rw [hGet] at hRead
          cases hRead
      | some p =>
          rw [hGet] at hRead
          cases hRead
          rfl

/- Every VM is read, and one found where it was recorded is
   what vCenter answered for it. -/
theorem live_vms
    {vc : VCenter}
    {vms : List RecordVm}
    {readings : Dict Moid VmReading}
    {errors : List String}
    (hLive : liveVms lower vc vms = .ok (readings, errors))
    {v : RecordVm}
    (hMem : v ∈ vms) :
    ∃ seen, readings.get? v.moid = some seen ∧
      (seen.exists' = true → truthy seen.movedTo = none →
        ∃ p, vc.vms.Reports v.moid p ∧
          seen = vmReading lower p) := by
  unfold liveVms at hLive
  rcases bind_eq_ok.mp hLive with
    ⟨⟨props, missing⟩, hProps, hLive⟩
  rcases bind_eq_ok.mp hLive with ⟨more, _, hLive⟩
  rcases bind_eq_ok.mp hLive with ⟨pairs, hPairs, hLive⟩
  cases hLive
  rcases get?_ofPairs_mapM (fun _ _ => readVm_key) hPairs
      (List.mem_map.mpr ⟨v, hMem, rfl⟩) with
    ⟨seen, hGet, hRead⟩
  refine ⟨seen, hGet, ?_⟩
  intro hExists hInPlace
  unfold readVm at hRead
  split at hRead
  · rename_i there p hMoved
    cases hRead
    rcases Option.bind_eq_some_iff.mp hMoved with
      ⟨there', hThere, hMap⟩
    rcases Option.map_eq_some_iff.mp hMap with ⟨p', _, hEq⟩
    cases hEq
    have hNamed := search_named vms
      (by intro moid there hEmpty; cases hEmpty)
      v.moid there hThere
    simp [truthy, hNamed] at hInPlace
  · by_cases hMissing : v.moid ∈ missing
    · rw [if_pos hMissing] at hRead
      cases hRead
      cases hExists
    · rw [if_neg hMissing] at hRead
      cases hThere : props.get? v.moid with
      | none =>
          rw [hThere] at hRead
          cases hRead
      | some p =>
          rw [hThere] at hRead
          cases hRead
          exact ⟨p, (readProps_spec hProps).2 _ _ hThere, rfl⟩

--------
-- The Reading of the Port Groups
--------

open Checks

theorem readPg_key
    {P : Type}
    {reading : P → PgReading}
    {props : Dict Moid P}
    {missing : List Moid}
    {moid : Moid}
    {read : Moid × PgReading}
    (hRead : readPg reading props missing moid = .ok read) :
    read.1 = moid := by
  unfold readPg at hRead
  by_cases hMissing : moid ∈ missing
  · rw [if_pos hMissing] at hRead
    cases hRead
    rfl
  · rw [if_neg hMissing] at hRead
    cases hGet : props.get? moid with
    | none =>
        rw [hGet] at hRead
        cases hRead
    | some p =>
        rw [hGet] at hRead
        cases hRead
        rfl

/- A port group that exists is what vCenter answered. -/
theorem readPg_reports
    {P : Type}
    {c : Collector P}
    {reading : P → PgReading}
    {ids missing : List Moid}
    {props : Dict Moid P}
    (hProps : readProps c ids = .ok (props, missing))
    {moid : Moid}
    {seen : PgReading}
    (hRead : readPg reading props missing moid =
      .ok (moid, seen))
    (hExists : seen.exists' = true) :
    ∃ p, c.Reports moid p ∧ seen = reading p := by
  unfold readPg at hRead
  by_cases hMissing : moid ∈ missing
  · rw [if_pos hMissing] at hRead
    cases hRead
    cases hExists
  · rw [if_neg hMissing] at hRead
    cases hThere : props.get? moid with
    | none =>
        rw [hThere] at hRead
        cases hRead
    | some p =>
        rw [hThere] at hRead
        cases hRead
        exact ⟨p, (readProps_spec hProps).2 _ _ hThere, rfl⟩

theorem liveDvs_spec
    {vc : VCenter}
    {ids : List Moid}
    {readings : Dict Moid PgReading}
    (hLive : liveDvs vc ids = .ok readings)
    {moid : Moid} :
    (moid ∈ ids → ∃ seen, readings.get? moid = some seen) ∧
      ∀ seen, readings.get? moid = some seen →
        seen.exists' = true →
          ∃ p, vc.dvs.Reports moid p ∧ seen = dvsReading p := by
  unfold liveDvs at hLive
  rcases bind_eq_ok.mp hLive with
    ⟨⟨props, missing⟩, hProps, hLive⟩
  rcases bind_eq_ok.mp hLive with ⟨pairs, hPairs, hLive⟩
  cases hLive
  refine ⟨?_, ?_⟩
  · intro hMem
    rcases get?_ofPairs_mapM (fun _ _ => readPg_key) hPairs
      hMem with ⟨seen, hGet, _⟩
    exact ⟨seen, hGet⟩
  · intro seen hGet hExists
    rcases (mapM_eq_ok hPairs).2 _
        (Dict.mem_of_get?_ofPairs hGet) with ⟨id, _, hRead⟩
    have hSame : moid = id := readPg_key hRead
    rw [← hSame] at hRead
    exact readPg_reports hProps hRead hExists

theorem readHosts_reports
    {vc : VCenter}
    {networks : Dict Moid NetProps}
    {hosts : Dict Moid HostProps}
    (hRead : readHosts vc networks = .ok hosts)
    {host : Moid}
    {p : HostProps}
    (hGet : hosts.get? host = some p) :
    vc.hosts.Reports host p := by
  unfold readHosts at hRead
  by_cases hNone : hostIds networks = []
  · rw [if_pos hNone] at hRead
    cases hRead
    cases hGet
  · rw [if_neg hNone] at hRead
    cases hProps : readProps vc.hosts (hostIds networks) with
    | error e =>
        rw [hProps] at hRead
        cases hRead
    | ok read =>
        rw [hProps] at hRead
        cases hRead
        exact (readProps_spec hProps).2 _ _ hGet

theorem vssLive_spec
    {vc : VCenter}
    {ids : List Moid}
    {readings : Dict Moid PgReading}
    (hLive : vssLive vc ids = .ok readings)
    {moid : Moid} :
    (moid ∈ ids → ∃ seen, readings.get? moid = some seen) ∧
      ∀ seen, readings.get? moid = some seen →
        seen.exists' = true →
          ∃ p hosts, vc.networks.Reports moid p ∧
            (∀ host props, hosts.get? host = some props →
              vc.hosts.Reports host props) ∧
            seen = vssReading hosts p := by
  unfold vssLive at hLive
  rcases bind_eq_ok.mp hLive with
    ⟨⟨props, missing⟩, hProps, hLive⟩
  rcases bind_eq_ok.mp hLive with ⟨hosts, hHosts, hLive⟩
  rcases bind_eq_ok.mp hLive with ⟨pairs, hPairs, hLive⟩
  cases hLive
  refine ⟨?_, ?_⟩
  · intro hMem
    rcases get?_ofPairs_mapM (fun _ _ => readPg_key) hPairs
      hMem with ⟨seen, hGet, _⟩
    exact ⟨seen, hGet⟩
  · intro seen hGet hExists
    rcases (mapM_eq_ok hPairs).2 _
        (Dict.mem_of_get?_ofPairs hGet) with ⟨id, _, hRead⟩
    have hSame : moid = id := readPg_key hRead
    rw [← hSame] at hRead
    rcases readPg_reports hProps hRead hExists with
      ⟨p, hReports, hSeen⟩
    exact ⟨p, hosts, hReports,
      fun host props => readHosts_reports hHosts, hSeen⟩

--------
-- The Reading of a Range
--------

open Checks

variable {lower : String → String}

/- What vCenter answered, on either kind of switch. -/
def PgAnswered
    (vc : VCenter)
    (moid : Moid)
    (seen : PgReading) : Prop :=
  (∃ p, vc.dvs.Reports moid p ∧ seen = dvsReading p) ∨
  ∃ p hosts, vc.networks.Reports moid p ∧
    (∀ host props, hosts.get? host = some props →
      vc.hosts.Reports host props) ∧
    seen = vssReading hosts p

theorem mem_pgIds
    {pg : RecordPg}
    {portgroups : List RecordPg}
    (hMem : pg ∈ portgroups)
    {moid : Moid}
    (hMoid : truthy pg.moid = some moid) :
    moid ∈ pgIds false portgroups ∨
      moid ∈ pgIds true portgroups := by
  by_cases hMode : pg.switchMode = some "vss"
  · refine .inr (List.mem_filterMap.mpr ⟨pg, ?_, hMoid⟩)
    exact List.mem_filter.mpr ⟨hMem, by simp [hMode]⟩
  · refine .inl (List.mem_filterMap.mpr ⟨pg, ?_, hMoid⟩)
    exact List.mem_filter.mpr ⟨hMem, by simp [hMode]⟩

/- Every port group with an id is read. -/
theorem live_portgroups
    {vc : VCenter}
    {vms : List RecordVm}
    {portgroups : List RecordPg}
    {reading : Live}
    (hLive : live lower vc vms portgroups = .ok reading)
    {pg : RecordPg}
    (hMem : pg ∈ portgroups)
    {moid : Moid}
    (hMoid : truthy pg.moid = some moid) :
    ∃ seen, reading.portgroups.get? moid = some seen ∧
      (seen.exists' = true → PgAnswered vc moid seen) := by
  unfold live at hLive
  rcases bind_eq_ok.mp hLive with ⟨read, _, hLive⟩
  rcases bind_eq_ok.mp hLive with ⟨dvs, hDvs, hLive⟩
  rcases bind_eq_ok.mp hLive with ⟨vss, hVss, hLive⟩
  cases hLive
  have hOnDvs := @liveDvs_spec _ _ _ hDvs moid
  have hOnVss := @vssLive_spec _ _ _ hVss moid
  simp only [Dict.get?_update]
  cases hGet : vss.get? moid with
  | some seen =>
      refine ⟨seen, rfl, ?_⟩
      intro hExists
      exact .inr (hOnVss.2 seen hGet hExists)
  | none =>
      rcases mem_pgIds hMem hMoid with hIn | hIn
      · rcases hOnDvs.1 hIn with ⟨seen, hSeen⟩
        refine ⟨seen, hSeen, ?_⟩
        intro hExists
        exact .inl (hOnDvs.2 seen hSeen hExists)
      · rcases hOnVss.1 hIn with ⟨seen, hSeen⟩
        rw [hGet] at hSeen
        cases hSeen

theorem live_vms_get?
    {vc : VCenter}
    {vms : List RecordVm}
    {portgroups : List RecordPg}
    {reading : Live}
    (hLive : live lower vc vms portgroups = .ok reading)
    {vm : RecordVm}
    (hMem : vm ∈ vms) :
    ∃ seen, reading.vms.get? vm.moid = some seen ∧
      (seen.exists' = true → truthy seen.movedTo = none →
        ∃ p, vc.vms.Reports vm.moid p ∧
          seen = vmReading lower p) := by
  unfold live at hLive
  rcases bind_eq_ok.mp hLive with ⟨⟨read, errors⟩, hVms, hLive⟩
  rcases bind_eq_ok.mp hLive with ⟨dvs, _, hLive⟩
  rcases bind_eq_ok.mp hLive with ⟨vss, _, hLive⟩
  cases hLive
  exact live_vms hVms hMem

theorem rangeReading_vms
    {reading : Live}
    {inv : Record}
    {vm : RecordVm}
    {seen : VmReading}
    (marked : List Marked)
    (hMem : vm ∈ inv.vms)
    (hGet : reading.vms.get? vm.moid = some seen) :
    (rangeReading reading inv marked).vms.get? vm.moid =
      some seen :=
  Dict.get?_collect.mpr
    ⟨List.mem_map.mpr ⟨vm, hMem, rfl⟩, hGet⟩

theorem rangeReading_portgroups
    {reading : Live}
    {inv : Record}
    {pg : RecordPg}
    {moid : Moid}
    {seen : PgReading}
    (marked : List Marked)
    (hMem : pg ∈ inv.portgroups)
    (hMoid : pg.moid = some moid)
    (hGet : reading.portgroups.get? moid = some seen) :
    (rangeReading reading inv marked).portgroups.get? moid =
      some seen :=
  Dict.get?_collect.mpr
    ⟨List.mem_filterMap.mpr ⟨pg, hMem, hMoid⟩, hGet⟩

--------
-- As Built
--------

variable {lower : String → String}

/- vCenter answered, for the recorded id, what is recorded. -/
def VmAsBuilt
    (lower : String → String)
    (vc : VCenter)
    (known : Known)
    (ignored : List String)
    (vm : RecordVm) : Prop :=
  ∃ p, vc.vms.Reports vm.moid p ∧
    VmAsRecorded lower known ignored vm (vmReading lower p)

/- A host has the port group, with that VLAN. -/
def HostHas
    (p : HostProps)
    (name : Option String)
    (vlan : Int) : Prop :=
  ∃ pgs pg, p.portgroups = some pgs ∧
    pgs.find? (fun pg => pg.name = name) = some pg ∧
    pg.vlanId.getD 0 = vlan

/-
  vCenter answered for the recorded id, and the recorded VLAN
  is the port group's: on a standard switch, on every host.
-/
def PgAsBuilt
    (vc : VCenter)
    (pg : RecordPg) : Prop :=
  ∃ moid, pg.moid = some moid ∧
    ((∃ p, vc.dvs.Reports moid p ∧
      ∀ vlan, pg.vlan = some vlan →
        vlanOf p.vlan = some vlan) ∨
    ∃ p, vc.networks.Reports moid p ∧ p.hosts ≠ [] ∧
      ∀ vlan, pg.vlan = some vlan →
        ∀ host ∈ p.hosts, ∃ props,
          vc.hosts.Reports host props ∧
            HostHas props p.name vlan)

theorem hostVlan_eq_some
    {hosts : Dict Moid HostProps}
    {name : Option String}
    {host : Moid}
    {vlan : Int}
    (hVlan : hostVlan hosts name host = some vlan) :
    ∃ props, hosts.get? host = some props ∧
      HostHas props name vlan := by
  unfold hostVlan at hVlan
  rcases Option.map_eq_some_iff.mp hVlan with
    ⟨pg, hFind, hId⟩
  cases hGet : hosts.get? host with
  | none =>
      rw [hGet] at hFind
      cases hFind
  | some props =>
      rw [hGet, Option.bind_some] at hFind
      cases hPgs : props.portgroups with
      | none =>
          rw [hPgs] at hFind
          cases hFind
      | some pgs =>
          rw [hPgs] at hFind
          exact ⟨props, rfl, pgs, pg, hPgs, hFind, hId⟩

/- A standard port group that could be read was read on
   every host, and one VLAN is the one they all report. -/
theorem vssReading_readable
    {hosts : Dict Moid HostProps}
    {p : NetProps}
    (hReadable : (vssReading hosts p).vlanUnreadable = false) :
    p.hosts ≠ [] ∧
      ∀ vlan, (vssReading hosts p).vlan = some (.one vlan) →
        ∀ host ∈ p.hosts,
          hostVlan hosts p.name host = some vlan := by
  unfold vssReading at hReadable ⊢
  by_cases hBad :
      (p.hosts.any (fun host =>
          (hostVlan hosts p.name host).isNone)) = true ∨
        Dict.fromkeys
          (p.hosts.filterMap (hostVlan hosts p.name)) = []
  · rw [if_pos hBad] at hReadable
    cases hReadable
  · rw [if_neg hBad]
    rw [not_or] at hBad
    refine ⟨?_, ?_⟩
    · intro hNone
      apply hBad.2
      rw [hNone]
      rfl
    · intro vlan hVlan host hMem
      have hSome :
          (hostVlan hosts p.name host).isNone ≠ true := by
        intro hNone
        exact hBad.1 (List.any_eq_true.mpr ⟨host, hMem, hNone⟩)
      cases hHost : hostVlan hosts p.name host with
      | none =>
          rw [hHost] at hSome
          exact absurd rfl hSome
      | some reported =>
          have hIn :
              reported ∈ Dict.fromkeys
                (p.hosts.filterMap (hostVlan hosts p.name)) :=
            Dict.mem_fromkeys.mpr
              (List.mem_filterMap.mpr ⟨host, hMem, hHost⟩)
          split at hVlan
          · rename_i only hOnly
            rw [hOnly, List.mem_singleton] at hIn
            cases hVlan
            rw [hIn]
          · cases hVlan

theorem pgAsBuilt_of_answered
    {vc : VCenter}
    {pg : RecordPg}
    {moid : Moid}
    {seen : PgReading}
    (hMoid : pg.moid = some moid)
    (hAnswered : PgAnswered vc moid seen)
    (hRecorded : PgAsRecorded pg seen) :
    PgAsBuilt vc pg := by
  refine ⟨moid, hMoid, ?_⟩
  rcases hAnswered with
    ⟨p, hReports, rfl⟩ | ⟨p, hosts, hReports, hHosts, rfl⟩
  · refine .inl ⟨p, hReports, ?_⟩
    intro vlan hVlan
    rcases Option.map_eq_some_iff.mp
      (hRecorded.vlan vlan hVlan) with ⟨id, hId, hSame⟩
    cases hSame
    exact hId
  · rcases vssReading_readable hRecorded.readable with
      ⟨hSome, hAll⟩
    refine .inr ⟨p, hReports, hSome, ?_⟩
    intro vlan hVlan host hMem
    rcases hostVlan_eq_some
        (hAll vlan (hRecorded.vlan vlan hVlan) host hMem) with
      ⟨props, hGet, hHas⟩
    exact ⟨props, hHosts host props hGet, hHas⟩

theorem recorded_pg_moid
    {output : Output}
    {pg : RecordPg}
    (hMem : pg ∈ (recorded output).portgroups) :
    truthy pg.moid = pg.moid := by
  rcases List.mem_filterMap.mp hMem with ⟨entry, _, hPg⟩
  rcases Option.map_eq_some_iff.mp hPg with ⟨name, _, rfl⟩
  simp [truthy, Option.filter_filter]

/-
  A passing check of what vCenter answered means that the
  range is as built: nothing that is recorded goes unread.
-/
theorem pass_as_built
    {vc : VCenter}
    {vms : List RecordVm}
    {portgroups : List RecordPg}
    {reading : Live}
    (hLive : live lower vc vms portgroups = .ok reading)
    {output : Output}
    (hVms : ∀ vm ∈ (recorded output).vms, vm ∈ vms)
    (hPgs : ∀ pg ∈ (recorded output).portgroups,
      pg ∈ portgroups)
    {marked : List Marked}
    {rows : List SnapshotRow}
    {prefixes : List String}
    (hPass : (compare lower output
      (rangeReading reading (recorded output) marked)
      rows prefixes).status = pass) :
    (∀ vm ∈ (recorded output).vms,
      VmAsBuilt lower vc (knownSnapshots rows)
        (prefixes.filter (· ≠ "")) vm) ∧
    (∀ pg ∈ (recorded output).portgroups,
      PgAsBuilt vc pg) := by
  rcases compare_pass_iff.mp hPass with
    ⟨hGaps, _, hAllVms, hAllPgs⟩
  refine ⟨?_, ?_⟩
  · intro vm hMem
    rcases live_vms_get? hLive (hVms vm hMem) with
      ⟨seen, hGet, hAnswered⟩
    have hRecorded := hAllVms vm hMem seen
      (rangeReading_vms marked hMem hGet)
    rcases hAnswered hRecorded.present hRecorded.inPlace with
      ⟨p, hReports, hSeen⟩
    rw [hSeen] at hRecorded
    exact ⟨p, hReports, hRecorded⟩
  · intro pg hMem
    have hMoid := (recorded_gaps_eq_nil_iff.mp hGaps).2.1
      pg hMem
    rcases Option.isSome_iff_exists.mp hMoid with
      ⟨moid, hSome⟩
    have hTruthy : truthy pg.moid = some moid := by
      rw [recorded_pg_moid hMem]
      exact hSome
    rcases live_portgroups hLive (hPgs pg hMem) hTruthy with
      ⟨seen, hGet, hAnswered⟩
    have hRecorded := hAllPgs pg hMem moid seen hSome
      (rangeReading_portgroups marked hMem hSome hGet)
    exact pgAsBuilt_of_answered hSome
      (hAnswered hRecorded.present) hRecorded

/-
  The check of every output and reading: a pass is exactly
  no gap, no mark elsewhere and everything read as recorded;
  what was read and is not, or could not be compared, is
  reported; and vCenter's reading leaves nothing out.
-/
theorem pass_means_as_built
    (lower : String → String)
    (output : Output)
    (rows : List SnapshotRow)
    (prefixes : List String) :
    (∀ live,
      (compare lower output live rows prefixes).status = pass ↔
        (recorded output).gaps = [] ∧
        (∀ item ∈ live.unidentified,
          item.kind ≠ "vm" ∧ item.kind ≠ "portgroup") ∧
        (∀ vm ∈ (recorded output).vms, ∀ seen,
          live.vms.get? vm.moid = some seen →
            VmAsRecorded lower (knownSnapshots rows)
              (prefixes.filter (· ≠ "")) vm seen) ∧
        (∀ pg ∈ (recorded output).portgroups, ∀ moid seen,
          pg.moid = some moid →
          live.portgroups.get? moid = some seen →
            PgAsRecorded pg seen)) ∧
    (∀ live, ∀ vm ∈ (recorded output).vms, ∀ seen,
      live.vms.get? vm.moid = some seen →
      ¬ VmAsRecorded lower (knownSnapshots rows)
        (prefixes.filter (· ≠ "")) vm seen →
      (∃ f ∈ (compare lower output live rows
          prefixes).findings, About vm.label f) ∨
        ∃ gap ∈ (compare lower output live rows prefixes).gaps,
          gap ∈ vm.gaps) ∧
    (∀ live, ∀ pg ∈ (recorded output).portgroups,
      (∀ moid, pg.moid = some moid →
        ∃ seen, live.portgroups.get? moid = some seen ∧
          ¬ PgAsRecorded pg seen) →
      (∃ f ∈ (compare lower output live rows
          prefixes).findings, f.object = pg.name) ∨
        ∃ gap ∈ (compare lower output live rows prefixes).gaps,
          gap ∈ pg.gaps ∨ gap = "port group " ++ pg.name ++
            ": its live VLAN could not be read on every host") ∧
    (∀ vc vms portgroups reading marked,
      RangeInventory.live lower vc vms portgroups =
        .ok reading →
      (∀ vm ∈ (recorded output).vms, vm ∈ vms) →
      (∀ pg ∈ (recorded output).portgroups,
        pg ∈ portgroups) →
      (compare lower output
        (rangeReading reading (recorded output) marked)
        rows prefixes).status = pass →
      (∀ vm ∈ (recorded output).vms,
        VmAsBuilt lower vc (knownSnapshots rows)
          (prefixes.filter (· ≠ "")) vm) ∧
      (∀ pg ∈ (recorded output).portgroups,
        PgAsBuilt vc pg)) := by
  refine ⟨?_, ?_, ?_, ?_⟩
  · intro live
    exact compare_pass_iff
  · intro live vm hMem seen hGet hChanged
    exact vm_reported hMem hGet rows prefixes hChanged
  · intro live pg hMem hChanged
    exact pg_reported hMem hChanged rows prefixes
  · intro vc vms portgroups reading marked hLive hVms hPgs
      hPass
    exact pass_as_built hLive hVms hPgs hPass

end RangeInventory

end TrueNorth

--------
-- What a Pass Leaves Out
--------

namespace TrueNorth

namespace RangeInventory

namespace Web

def web : VmEntry where
  vmId := some "vm-1"
  name := some "r-web"
  identity := some
    { instanceUuid := some "4211aaaa"
      disks := []
      datastores := []
      folder := none
      numCpu := some 2
      memoryMb := some 4096
      nics :=
        [{ portgroupKey := some "dvportgroup-1"
           network := none
           mac := some "00:50:56:3c:00:00" }] }

def output : Output where
  vms := [web]
  networks :=
    [{ portgroup := some "tn-r-v100"
       moid := some "dvportgroup-1"
       key := some "dvportgroup-1"
       physicalVlan := some 100
       switchMode := some "vds" }]
  folder := some { moid := some "group-v9", name := some "r" }

/- A VM that was planned and has no id. -/
def unbuilt : Output :=
  { output with
    vms := [{ web with vmId := none }], networks := [] }

def nothingRead : Live where
  vms := Dict.empty
  portgroups := Dict.empty
  unidentified := []
  errors := ["not read"]

/- vCenter, which has the VM and its port group. -/
def vcenter : VCenter where
  vms :=
    { retrieve := fun ids =>
        .ok (Dict.collect ids (fun id =>
          if id = "vm-1" then
            some
              { name := some "r-web"
                instanceUuid := some "4211AAAA"
                numCpu := some 2
                memoryMb := some 4096
                devices :=
                  [.ethernet (some 7) 4000
                    (some "dvportgroup-1") none
                    (some "00:50:56:3C:00:00")]
                snapshots := [] }
          else none)) }
  dvs :=
    { retrieve := fun ids =>
        .ok (Dict.collect ids (fun id =>
          if id = "dvportgroup-1" then
            some { name := some "tn-r-v100", vlan := .id 100 }
          else none)) }
  networks := { retrieve := fun _ => .ok Dict.empty }
  hosts := { retrieve := fun _ => .ok Dict.empty }
  findByUuid := fun _ => .ok none

/- What it answers for the range. -/
def reading : Live where
  vms := Dict.ofPairs
    [("vm-1",
      { exists' := true
        movedTo := none
        name := some "r-web"
        instanceUuid := some "4211AAAA"
        numCpu := some 2
        memoryMb := some 4096
        nics :=
          [{ portgroupKey := some "dvportgroup-1"
             network := none
             mac := some "00:50:56:3c:00:00" }]
        snapshots := [] })]
  portgroups := Dict.ofPairs
    [("dvportgroup-1",
      { exists' := true
        name := some "tn-r-v100"
        vlan := some (.one 100)
        vlanUnreadable := false })]
  unidentified := []
  errors := []

theorem lower_uuid :
    String.toLower "4211AAAA" = String.toLower "4211aaaa" := by
  apply String.toList_inj.mp
  change ("4211AAAA".map Char.toLower).toList =
    ("4211aaaa".map Char.toLower).toList
  rw [String.toList_map, String.toList_map]
  decide

/- What vCenter answers is as recorded. -/
theorem reading_passes :
    (compare String.toLower output
      (rangeReading reading (recorded output) []) [] []
      ).status = pass := by
  rw [compare_pass_iff]
  refine ⟨by decide, ?_, ?_, ?_⟩
  · intro item hMem
    cases hMem
  · intro vm hMem seen hGet
    have hVms : (recorded output).vms =
        (web.recorded).toList := by
      decide
    have hSeen : (rangeReading reading (recorded output) []
        ).vms.get? "vm-1" = reading.vms.get? "vm-1" := by
      decide
    rw [hVms] at hMem
    cases List.mem_singleton.mp hMem
    cases hSeen.symm.trans hGet
    refine ⟨rfl, rfl, ⟨"4211aaaa", "4211AAAA", rfl, rfl,
      lower_uuid⟩, ?_⟩
    refine ⟨?_, ?_, ?_, ?_, ?_⟩
    · rintro n ⟨⟩
      rfl
    · rintro n ⟨⟩
      rfl
    · exact .cons ⟨rfl, rfl⟩ .nil
    · intro s hMem
      cases hMem
    · intro id hMem
      cases hMem
  · intro pg hMem moid seen hMoid hGet
    have hSeen : (rangeReading reading (recorded output) []
        ).portgroups.get? "dvportgroup-1" =
          reading.portgroups.get? "dvportgroup-1" := by
      decide
    cases List.mem_singleton.mp hMem
    cases hMoid
    cases hSeen.symm.trans hGet
    exact ⟨rfl, rfl, fun vlan hVlan => by cases hVlan; rfl⟩

theorem pass_means_as_built_web :
    (∀ vm ∈ (recorded output).vms,
      VmAsBuilt String.toLower vcenter (knownSnapshots [])
        [] vm) ∧
    (∀ pg ∈ (recorded output).portgroups,
      PgAsBuilt vcenter pg) := by
  apply (pass_means_as_built String.toLower output [] []
    ).2.2.2 vcenter (recorded output).vms
      (recorded output).portgroups reading []
  · decide +kernel
  · intro vm hMem
    exact hMem
  · intro pg hMem
    exact hMem
  · exact reading_passes

/- What was not read, or has no id, does not fail the check. -/
theorem passes_unread :
    ¬ (∀ output live rows prefixes,
        (compare String.toLower output live rows
          prefixes).status = pass →
        ∀ vm ∈ output.vms, vm.identity.isSome = true →
          ∃ id seen, truthy vm.vmId = some id ∧
            live.vms.get? id = some seen ∧
            seen.exists' = true) ∧
    (compare String.toLower unbuilt nothingRead [] []).status =
      pass := by
  refine ⟨?_, by decide⟩
  intro hAll
  have hPass :
      (compare String.toLower output nothingRead [] []).status =
        pass := by
    decide
  rcases hAll output nothingRead [] [] hPass web
      List.mem_cons_self rfl with ⟨id, seen, _, hGet, _⟩
  cases hGet

end Web

end RangeInventory

end TrueNorth
