import TrueNorth.Firewalls.Decimal
import TrueNorth.Firewalls.Traffic

/-
  When a built configuration means what its template says, on
  every zone and over the uplink.

  Key definitions include:
    * `Input.NamesPlain`

  Main theorems:
    * `namesPlain_of_distinct`
    * `Built.inbound_eq`
    * `Built.outbound_depot`
    * `means_template_iff`
-/

--------
-- Whole Configurations
--------

namespace TrueNorth

namespace Firewalls

variable {Addr : Type}

namespace Input

/-
  It makes no difference for any traffic whether a name stands
  for all that has the name or for the last, nor whether a
  CIDR text is taken for the name of an alias.
-/
def NamesPlain
    (R : Reading Addr)
    (inp : Input) : Prop :=
  ∀ z ∈ inp.zones, ∀ p : Packet Addr,
    inp.isService R z p = false →
      inp.wanted R (inp.named R) z p =
        inp.wanted R (inp.lookedUp R) z p

end Input

section Distinct

variable {inp : Input}

/- One network, one NIC: either way a name stands for it. -/
theorem named_zones_eq
    (R : Reading Addr)
    (hZones : (inp.zones.map Interface.network).Nodup)
    (name : String) :
    (inp.named R).zones name = (inp.lookedUp R).zones name := by
  have hPairs :
      ((inp.zones.map (fun z => (z.network, z))).map
        Prod.fst).Nodup := by
    rw [List.map_map]
    exact hZones
  have hGet (z : Interface) :
      inp.scope.byZone.get? name = some z ↔
        z ∈ inp.zones ∧ z.network = name := by
    refine (Dict.get?_ofPairs hPairs).trans ?_
    constructor
    · intro hMem
      rcases List.mem_map.mp hMem with ⟨y, hy, hSame⟩
      cases hSame
      exact ⟨hy, rfl⟩
    · rintro ⟨hz, rfl⟩
      exact List.mem_map_of_mem hz
  have hOnly (y z : Interface)
      (hy : y ∈ inp.zones) (hz : z ∈ inp.zones)
      (hName : y.network = z.network) : y = z :=
    List.inj_on_of_nodup_map hZones hy hz hName
  have hNodup :
      (inp.zones.filter (fun z => z.network = name)).Nodup :=
    (List.Nodup.of_map _ hZones).filter _
  unfold Input.named Input.lookedUp
  simp only
  cases hFound : inp.scope.byZone.get? name with
  | none =>
      rw [Option.toList_none, List.filter_eq_nil_iff]
      intro z hz hName
      have hSome := (hGet z).mpr ⟨hz, of_decide_eq_true hName⟩
      rw [hFound] at hSome
      cases hSome
  | some z =>
      rcases (hGet z).mp hFound with ⟨hz, hName⟩
      rw [Option.toList_some]
      apply List.perm_singleton.mp
      apply (List.perm_ext_iff_of_nodup hNodup
        (List.nodup_singleton z)).mpr
      intro y
      rw [List.mem_filter, List.mem_singleton, decide_eq_true_eq]
      constructor
      · rintro ⟨hy, hSame⟩
        exact hOnly y z hy hz (hSame.trans hName.symm)
      · rintro rfl
        exact ⟨hz, hName⟩

/- One definition of a name, and CIDR texts of their own. -/
theorem named_elsewhere_eq
    (R : Reading Addr)
    (hNames :
      ((inp.networks.filter (·.name ≠ "")).map
        NetworkDef.name).Nodup)
    (hCidrs : ∀ n ∈ inp.networks,
      n.cidr ≠ "TN_ZONES" ∧ n.cidr ≠ "TN_DEPOT")
    {name : String}
    (hName : name ≠ "")
    (a : Addr) :
    (inp.named R).elsewhere name a =
      (inp.lookedUp R).elsewhere name a := by
  have hPairs :
      (((inp.networks.filter (·.name ≠ "")).map
        (fun n => (n.name, n.cidr))).map Prod.fst).Nodup := by
    rw [List.map_map]
    exact hNames
  have hGet (cidr : String) :
      inp.scope.cidrByName.get? name = some cidr ↔
        ∃ n ∈ inp.networks, n.name = name ∧ n.cidr = cidr := by
    refine (Dict.get?_ofPairs hPairs).trans ?_
    constructor
    · intro hMem
      rcases List.mem_map.mp hMem with ⟨n, hn, hSame⟩
      cases hSame
      exact ⟨n, (List.mem_filter.mp hn).1, rfl, rfl⟩
    · rintro ⟨n, hn, rfl, rfl⟩
      refine List.mem_map_of_mem (List.mem_filter.mpr ⟨hn, ?_⟩)
      simpa using hName
  unfold Input.named Input.lookedUp
  simp only
  rw [Bool.eq_iff_iff, List.any_eq_true]
  cases hFound : inp.scope.cidrByName.get? name with
  | none =>
      simp only [Bool.false_eq_true, iff_false]
      rintro ⟨n, hn, hCovers⟩
      simp only [Bool.and_eq_true, decide_eq_true_eq] at hCovers
      have hSome := (hGet n.cidr).mpr ⟨n, hn, hCovers.1.1, rfl⟩
      rw [hFound] at hSome
      cases hSome
  | some cidr =>
      rcases (hGet cidr).mp hFound with ⟨m, hm, hmName, hmCidr⟩
      rcases hCidrs m hm with ⟨hZones, hDepot⟩
      rw [hmCidr] at hZones hDepot
      have hUnique (n : NetworkDef) (hn : n ∈ inp.networks)
          (hSame : n.name = name) : n.cidr = cidr := by
        have hSome := (hGet n.cidr).mpr ⟨n, hn, hSame, rfl⟩
        rw [hFound] at hSome
        exact (Option.some.inj hSome).symm
      by_cases hEmpty : cidr = ""
      · simp only [hEmpty, if_true, Bool.false_eq_true, iff_false]
        rintro ⟨n, hn, hCovers⟩
        simp only [Bool.and_eq_true, decide_eq_true_eq] at hCovers
        exact hCovers.1.2
          ((hUnique n hn hCovers.1.1).trans hEmpty)
      · simp only [if_neg hEmpty, if_neg hZones, hDepot,
          decide_false, Bool.false_and, Bool.false_eq_true, if_false]
        constructor
        · rintro ⟨n, hn, hCovers⟩
          simp only [Bool.and_eq_true, decide_eq_true_eq] at hCovers
          rw [← hUnique n hn hCovers.1.1]
          exact hCovers.2
        · intro hCovers
          refine ⟨m, hm, ?_⟩
          simp [hmName, hmCidr, hEmpty, hCovers]

/-
  Names are plain where no two zones and no two networks have
  one name, and no CIDR text is an alias's name.
-/
theorem namesPlain_of_distinct
    (R : Reading Addr)
    (hZones : (inp.zones.map Interface.network).Nodup)
    (hNames :
      ((inp.networks.filter (·.name ≠ "")).map
        NetworkDef.name).Nodup)
    (hCidrs : ∀ n ∈ inp.networks,
      n.cidr ≠ "TN_ZONES" ∧ n.cidr ≠ "TN_DEPOT") :
    inp.NamesPlain R := by
  have hAsks (z : Interface) (t : TemplateRule) (p : Packet Addr) :
      asks R inp (inp.named R) z t p =
        asks R inp (inp.lookedUp R) z t p := by
    have hDst : t.dstOr ≠ "" := by
      unfold TemplateRule.dstOr orElse
      split
      · decide
      · assumption
    have hTarget :
        targetCovers R inp (inp.named R) t.dstOr p.target =
          targetCovers R inp (inp.lookedUp R) t.dstOr p.target := by
      unfold targetCovers
      rw [named_zones_eq R hZones,
        named_elsewhere_eq R hNames hCidrs hDst]
    unfold asks
    rw [hTarget, named_zones_eq R hZones]
  intro z _ p _
  unfold Input.wanted
  have hSame :
      asks R inp (inp.named R) z = asks R inp (inp.lookedUp R) z := by
    funext t p
    exact hAsks z t p
  rw [hSame]

end Distinct

/- Rules of the uplink are floating, the others are not. -/
theorem floating_of_mem
    {inp : Input}
    {b : RuleBody}
    (hMem : b ∈ inp.allBodies inp.scope) :
    (b ∈ inp.uplinkBodies ∧ b.floating = some "out") ∨
      b.floating = none := by
  have hZone (z : Interface) (hb : b ∈ inp.zoneBodies z) :
      b.floating = none := by
    unfold Input.zoneBodies at hb
    rcases List.mem_cons.mp hb with rfl | hDepot
    · rfl
    · split at hDepot
      · rw [List.mem_singleton.mp hDepot]
        rfl
      · cases hDepot
  unfold Input.allBodies Input.ownBodies at hMem
  rcases List.mem_append.mp hMem with hOwn | hRest
  · rcases List.mem_append.mp hOwn with hUplink | hZones
    · refine .inl ⟨hUplink, ?_⟩
      unfold Input.uplinkBodies at hUplink
      split at hUplink
      · rcases List.mem_append.mp hUplink with hFirst | hLast
        · split at hFirst
          · rw [List.mem_singleton.mp hFirst]
            rfl
          · cases hFirst
        · rw [List.mem_singleton.mp hLast]
          rfl
      · cases hUplink
    · rcases List.mem_flatMap.mp hZones with ⟨z, _, hb⟩
      exact .inr (hZone z hb)
  · refine .inr ?_
    split at hRest
    · rcases List.mem_map.mp hRest with ⟨z, _, rfl⟩
      rfl
    · rcases List.mem_flatMap.mp hRest with ⟨turn, _, hb⟩
      unfold Scope.rulesFor at hb
      split at hb
      · cases hb
      · rcases List.mem_map.mp hb with ⟨z, _, rfl⟩
        rfl

namespace Built

variable {inp : Input}
variable {cfg : PfsenseConfig}

/- A zone's traffic: the services, then the template's rules. -/
theorem inbound_eq
    (hBuilt : Built inp cfg)
    (hApart : inp.AliasesApart)
    (hPlain : inp.PortsPlain)
    (R : Reading Addr)
    {z : Interface}
    (hZone : z ∈ inp.zones)
    (p : Packet Addr) :
    cfg.inbound R z.key p =
      if inp.isService R z p then .pass
      else inp.wanted R (inp.lookedUp R) z p := by
  have hBodies : cfg.bodies = inp.allBodies inp.scope :=
    hBuilt.bodies
  have hFloating : cfg.floatingRules z.key "in" = [] := by
    unfold PfsenseConfig.floatingRules
    rw [List.filter_eq_nil_iff, hBodies]
    intro b hMem
    rcases floating_of_mem hMem with ⟨_, hOut⟩ | hNone
    · simp [hOut]
    · simp [hNone]
  have hRules :
      cfg.interfaceRules z.key =
        inp.zoneBodies z ++
          (if inp.rules = [] then
            inp.zones.map (fun y => (Input.everyZoneBody y).clipped)
          else inp.rules.zipIdx.flatMap inp.scope.rulesFor).filter
            (onInterface z.key) := by
    unfold PfsenseConfig.interfaceRules
    rw [hBodies, ← hBuilt.own_onInterface hZone]
    exact List.filter_append ..
  unfold PfsenseConfig.inbound
  rw [hFloating, List.nil_append, hRules, FirstWins.verdict_append,
    hBuilt.verdict_own R hZone]
  unfold Input.wanted
  by_cases hNone : inp.rules = []
  · rw [if_pos hNone, if_pos hNone, hBuilt.verdict_everyZone R hZone]
  · rw [if_neg hNone, if_neg hNone,
      hBuilt.verdict_template hApart hPlain R hZone]

/- Over the uplink nothing but the depot is reached. -/
theorem outbound_depot
    (hBuilt : Built inp cfg)
    (hUplink : inp.hasUplink = true)
    (R : Reading Addr)
    (p : Packet Addr)
    (hPass : cfg.outbound R "wan" p = .pass) :
    inp.isDepot R p = true := by
  have hBodies : cfg.bodies = inp.allBodies inp.scope :=
    hBuilt.bodies
  unfold PfsenseConfig.outbound at hPass
  rcases FirstWins.verdict_cases hPass with
    ⟨b, hMem, hJudge⟩ | hSilent
  · unfold PfsenseConfig.floatingRules at hMem
    rw [hBodies, List.mem_filter] at hMem
    rcases floating_of_mem hMem.1 with ⟨hOwn, _⟩ | hNone
    · have hType : b.type = .pass := by
        unfold PfsenseConfig.judge at hJudge
        split at hJudge
        · exact Option.some.inj hJudge
        · cases hJudge
      unfold Input.uplinkBodies at hOwn
      rw [hUplink, if_pos rfl] at hOwn
      rcases List.mem_append.mp hOwn with hFirst | hLast
      · split at hFirst
        · next hHost =>
            have hDepot : inp.hasDepot = true := by
              simp [Input.hasDepot, hUplink, hHost]
            have hTarget :
                cfg.endpointCovers R (.address "TN_DEPOT") p.target =
                  R.address inp.depotHost p.target :=
              hBuilt.addressCovers_depot hDepot R p.target
            rw [List.mem_singleton.mp hFirst] at hJudge
            unfold PfsenseConfig.judge at hJudge
            split at hJudge
            · next hAll =>
                simp only [Input.depotOut, hTarget,
                  hBuilt.portCovers_depot hDepot R, protocolCovers,
                  Bool.and_eq_true, Bool.or_eq_true,
                  decide_eq_true_eq] at hAll
                unfold Input.isDepot
                simp only [hDepot, Bool.true_and, Bool.and_eq_true,
                  decide_eq_true_eq]
                rcases hAll with ⟨⟨⟨hTcp, _⟩, hHostCovers⟩, hPorts⟩
                refine ⟨⟨?_, hHostCovers⟩, hPorts⟩
                simpa using hTcp
            · cases hJudge
        · cases hFirst
      · rw [List.mem_singleton.mp hLast] at hType
        cases hType
    · simp [hNone] at hMem
  · have hBlock :
        Input.uplinkRules.nothingElse ∈
          cfg.floatingRules "wan" "out" := by
      unfold PfsenseConfig.floatingRules
      rw [hBodies, List.mem_filter]
      constructor
      · unfold Input.allBodies Input.ownBodies Input.uplinkBodies
        simp [hUplink]
      · decide
    have hNone := hSilent _ hBlock
    cases hNone

end Built

/-
  What is built means what the template says exactly when
  rules that share the name of a port alias share its ports,
  no rule's one port is such a name, and the names of networks
  do not mix anything up.
-/
theorem means_template_iff
    (R : Reading Addr)
    (inp : Input)
    (cfg : PfsenseConfig)
    (hBuild : buildConfig inp = .ok cfg) :
    MeansTemplate R inp cfg ↔
      inp.AliasesApart ∧ inp.PortsPlain ∧ inp.NamesPlain R := by
  have hBuilt := buildConfig_eq_ok hBuild
  constructor
  · intro hMeans
    have hRight : PortsRight inp cfg := hMeans.ports
    rcases hBuilt.ports_iff.mp hRight with ⟨hApart, hPlain⟩
    refine ⟨hApart, hPlain, ?_⟩
    intro z hZone p hNot
    have hTraffic := hMeans.traffic z hZone p
    rw [hBuilt.inbound_eq hApart hPlain R hZone, hNot,
      if_neg Bool.false_ne_true, if_neg Bool.false_ne_true]
      at hTraffic
    exact hTraffic.symm
  · rintro ⟨hApart, hPlain, hNames⟩
    refine ⟨hBuilt.ports_iff.mpr ⟨hApart, hPlain⟩, ?_,
      fun hUplink p => hBuilt.outbound_depot hUplink R p⟩
    intro z hZone p
    rw [hBuilt.inbound_eq hApart hPlain R hZone]
    cases hService : inp.isService R z p with
    | true => rfl
    | false =>
        rw [if_neg Bool.false_ne_true, if_neg Bool.false_ne_true,
          hNames z hZone p hService]

/- Two zones behind an uplink, with these rules. -/
def sample (rules : List TemplateRule) : Input where
  vm :=
    { name := "range-fw01"
      nodeId := "fw01"
      nics :=
        [{ uplink := true, network := "uplink",
           ip := "10.30.32.101", prefixLen := some 24,
           gateway := "10.30.32.1" },
         { uplink := false, network := "corporate",
           ip := "10.60.200.1", prefixLen := some 24,
           gateway := "" },
         { uplink := false, network := "servers",
           ip := "10.60.201.1", prefixLen := some 24,
           gateway := "" }] }
  networks :=
    [{ name := "corporate", cidr := "10.60.200.0/24" },
     { name := "servers", cidr := "10.60.201.0/24" }]
  rules := rules
  depotHost := "10.30.32.10"
  depotPorts := [8081, 3142]
  domain := "range.local"
  hostname := "fw01"
  product := "pfsense"

def allowPorts
    (name : String)
    (ports : List PortValue) : TemplateRule where
  name := name
  action := "allow"
  src := "corporate"
  dst := "servers"
  ports := .many ports
  note := ""
  description := ""

/- Web traffic has an alias, and remote shells need none. -/
def plainRules : List TemplateRule :=
  [allowPorts "web" [.number 80, .number 443],
   allowPorts "ssh" [.number 22]]

/- "web 1" has the name of an alias of "web-1". -/
def clashRules : List TemplateRule :=
  [allowPorts "web-1" [.number 80, .number 443],
   allowPorts "web 1" [.number 22, .number 3389]]

theorem exists_build
    {inp : Input}
    (hOk : (buildConfig inp).isOk = true) :
    ∃ cfg, buildConfig inp = .ok cfg := by
  cases hBuild : buildConfig inp with
  | error e =>
      rw [hBuild] at hOk
      cases hOk
  | ok cfg => exact ⟨cfg, rfl⟩

theorem means_template_iff_web :
    ∃ cfg, buildConfig (sample plainRules) = .ok cfg ∧
      MeansTemplate decimal (sample plainRules) cfg := by
  rcases exists_build
    (show (buildConfig (sample plainRules)).isOk = true by
      decide) with ⟨cfg, hBuild⟩
  refine ⟨cfg, hBuild, ?_⟩
  apply (means_template_iff decimal _ cfg hBuild).mpr
  have hRules (i : Nat) (t : TemplateRule)
      (hAt : (sample plainRules).rules[i]? = some t) :
      t = allowPorts "web" [.number 80, .number 443] ∨
        t = allowPorts "ssh" [.number 22] := by
    simpa [sample, plainRules] using List.mem_of_getElem? hAt
  have hMulti (i : Nat) (t : TemplateRule)
      (hAt : (sample plainRules).rules[i]? = some t)
      (hMany : t.isMulti = true) :
      t = allowPorts "web" [.number 80, .number 443] := by
    rcases hRules i t hAt with hWeb | rfl
    · exact hWeb
    · exact absurd hMany (by decide)
  refine ⟨?_, ?_, ?_⟩
  · intro i j s t hs ht _ _ hMany hMulti' _
    rw [hMulti i s hs hMany, hMulti j t ht hMulti']
  · intro j t p ht _ hTexts
    have hPort : p = "22" := by
      rcases hRules j t ht with rfl | rfl
      · have hTwo :
            (allowPorts "web"
              [.number 80, .number 443]).portTexts =
              ["80", "443"] := by
          decide
        rw [hTwo] at hTexts
        cases hTexts
      · have hOne :
            (allowPorts "ssh" [.number 22]).portTexts = ["22"] := by
          decide
        rw [hOne] at hTexts
        cases hTexts
        rfl
    rw [hPort]
    exact ⟨fun _ => by decide, fun i s _ _ _ =>
      (portAliasName_ne s i "22" (by decide)).symm⟩
  · apply namesPlain_of_distinct
    · decide
    · decide
    · intro n hMem
      have hCidr :
          n.cidr = "10.60.200.0/24" ∨ n.cidr = "10.60.201.0/24" := by
        have hn :
            n = ⟨"corporate", "10.60.200.0/24"⟩ ∨
              n = ⟨"servers", "10.60.201.0/24"⟩ := by
          simpa [sample] using hMem
        rcases hn with rfl | rfl
        · exact .inl rfl
        · exact .inr rfl
      rcases hCidr with hCidr | hCidr <;> rw [hCidr] <;> decide

/- The rule "web 1" lets in what "web-1" is for, and only that. -/
theorem means_template_clash :
    ∃ cfg, buildConfig (sample clashRules) = .ok cfg ∧
      ¬MeansTemplate decimal (sample clashRules) cfg := by
  rcases exists_build
    (show (buildConfig (sample clashRules)).isOk = true by
      decide) with ⟨cfg, hBuild⟩
  refine ⟨cfg, hBuild, ?_⟩
  intro hMeans
  have hApart :=
    ((buildConfig_eq_ok hBuild).ports_iff.mp hMeans.ports).1
  have hSame :=
    hApart 0 1 _ _ rfl rfl
      (by decide) (by decide)
      (by decide +kernel) (by decide +kernel) (by decide +kernel)
  exact absurd hSame (by decide)

end Firewalls

end TrueNorth
