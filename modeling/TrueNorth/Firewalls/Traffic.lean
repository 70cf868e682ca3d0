import TrueNorth.Firewalls.Aliases

/-
  What the rules of a built configuration say of a zone's
  traffic: rule by rule what the template asks for, as far as
  its port aliases are not mixed up.

  Main theorems:
    * `Built.judge_body`
    * `Built.verdict_own`
    * `Built.verdict_template`
-/

--------
-- Texts Of A Built Configuration
--------

namespace TrueNorth

namespace Firewalls

variable {Addr : Type}

/- The subnets of the range, one after the other. -/
theorem any_rangeCidrs
    (R : Reading Addr)
    (inp : Input)
    (a : Addr) :
    inp.scope.rangeCidrs.any (R.address · a) =
      inp.rangeCovers R a := by
  have hMem (cidr : String) :
      cidr ∈ inp.scope.rangeCidrs ↔
        (cidr ≠ "" ∧ ∃ n ∈ inp.networks, n.cidr = cidr) ∨
          ∃ z ∈ inp.zones, z.cidr = cidr := by
    unfold Scope.rangeCidrs
    rw [← List.map_id (FirstWins.addAll id _ _),
      FirstWins.mem_keys_addAll, FirstWins.mem_keys_addAll]
    simp only [List.map_id, List.not_mem_nil, false_or,
      List.mem_filter, List.mem_map, decide_eq_true_eq]
    exact or_congr_left and_comm
  rw [Bool.eq_iff_iff, List.any_eq_true]
  unfold Input.rangeCovers
  rw [Bool.or_eq_true, List.any_eq_true, List.any_eq_true]
  constructor
  · rintro ⟨cidr, hCidr, hCovers⟩
    rcases (hMem cidr).mp hCidr with
      ⟨hSome, n, hn, rfl⟩ | ⟨z, hz, rfl⟩
    · exact .inl ⟨n, hn, by simp [hSome, hCovers]⟩
    · exact .inr ⟨z, hz, hCovers⟩
  · rintro (⟨n, hn, hCovers⟩ | ⟨z, hz, hCovers⟩)
    · rw [Bool.and_eq_true, decide_eq_true_eq] at hCovers
      exact ⟨n.cidr,
        (hMem n.cidr).mpr (.inl ⟨hCovers.1, n, hn, rfl⟩),
        hCovers.2⟩
    · exact ⟨z.cidr, (hMem z.cidr).mpr (.inr ⟨z, hz, rfl⟩),
        hCovers⟩

namespace Built

variable {inp : Input}
variable {cfg : PfsenseConfig}

theorem aliasNamed?_eq
    (hBuilt : Built inp cfg)
    (name : String) :
    cfg.aliasNamed? name =
      (inp.allAliases inp.scope).find? (fun a => a.name = name) := by
  unfold PfsenseConfig.aliasNamed?
  rw [hBuilt.aliases, FirstWins.find?_addAll, List.nil_append]

/- The module's own aliases are found under their names. -/
theorem aliasNamed?_zones (hBuilt : Built inp cfg) :
    cfg.aliasNamed? "TN_ZONES" = some (zonesAlias inp.scope) := by
  rw [hBuilt.aliasNamed?_eq]
  rfl

theorem aliasNamed?_depot
    (hBuilt : Built inp cfg)
    (hDepot : inp.hasDepot = true) :
    cfg.aliasNamed? "TN_DEPOT" = some inp.depotAlias ∧
      cfg.aliasNamed? "TN_DEPOT_PORTS" =
        some inp.depotPortsAlias := by
  rw [hBuilt.aliasNamed?_eq, hBuilt.aliasNamed?_eq]
  unfold Input.allAliases Input.ownAliases
  rw [hDepot]
  exact ⟨rfl, rfl⟩

/- Every subnet of the range is behind its alias. -/
theorem addressCovers_zones
    (hBuilt : Built inp cfg)
    (R : Reading Addr)
    (a : Addr) :
    cfg.addressCovers R "TN_ZONES" a = inp.rangeCovers R a := by
  unfold PfsenseConfig.addressCovers
  rw [hBuilt.aliasNamed?_zones]
  have hType : (zonesAlias inp.scope).type ≠ "port" :=
    show "network" ≠ "port" by decide
  simp only [if_neg hType]
  exact (R.address_joined inp.scope.rangeCidrs a).trans
    (any_rangeCidrs R inp a)

theorem addressCovers_depot
    (hBuilt : Built inp cfg)
    (hDepot : inp.hasDepot = true)
    (R : Reading Addr)
    (a : Addr) :
    cfg.addressCovers R "TN_DEPOT" a =
      R.address inp.depotHost a := by
  unfold PfsenseConfig.addressCovers
  rw [(hBuilt.aliasNamed?_depot hDepot).1]
  have hType : inp.depotAlias.type ≠ "port" :=
    show "host" ≠ "port" by decide
  simp only [if_neg hType]
  unfold Input.depotAlias Rules.aliasElement
  rw [String.intercalate_singleton]

/- Any other text is read as it is. -/
theorem addressCovers_other
    (hBuilt : Built inp cfg)
    (R : Reading Addr)
    {text : String}
    (hZones : text ≠ "TN_ZONES")
    (hDepot : ¬(text = "TN_DEPOT" ∧ inp.hasDepot = true))
    (a : Addr) :
    cfg.addressCovers R text a = R.address text a := by
  unfold PfsenseConfig.addressCovers
  cases hFound : cfg.aliasNamed? text with
  | none => rfl
  | some b =>
      have hName := List.find?_some hFound
      have hSame : b.name = text := of_decide_eq_true hName
      have hType : b.type = "port" := by
        rcases Input.mem_allAliases.mp
          (hBuilt.mem_aliases (List.mem_of_find?_eq_some hFound)) with
          rfl | ⟨hHas, rfl | rfl⟩ | ⟨i, s, _, _, _, rfl⟩
        · exact absurd hSame.symm hZones
        · exact absurd ⟨hSame.symm, hHas⟩ hDepot
        · rfl
        · rfl
      simp only [if_pos hType]

/- A port is read as it is, unless it names a port alias. -/
theorem portCovers_plain
    {R : Reading Addr}
    {text : String}
    (hText : text ≠ "")
    (hPlain : ∀ a ∈ cfg.aliases, a.name = text → a.type ≠ "port")
    (n : Nat) :
    cfg.portCovers R text n = R.port text n := by
  unfold PfsenseConfig.portCovers
  rw [if_neg hText]
  cases hFound : cfg.aliasNamed? text with
  | none => rfl
  | some b =>
      have hName := List.find?_some hFound
      have hType :=
        hPlain b (List.mem_of_find?_eq_some hFound)
          (of_decide_eq_true hName)
      simp only [if_neg hType]

theorem portCovers_dns
    (hBuilt : Built inp cfg)
    (R : Reading Addr)
    (n : Nat) :
    cfg.portCovers R "53" n = R.port "53" n := by
  apply portCovers_plain (by decide)
  intro a hMem hName hType
  rcases hBuilt.port_alias_cases hMem hType with
    ⟨_, rfl⟩ | ⟨i, s, _, _, _, rfl⟩
  · exact absurd (show "TN_DEPOT_PORTS" = "53" from hName)
      (by decide)
  · exact portAliasName_ne s i "53" (by decide) hName

theorem portCovers_depot
    (hBuilt : Built inp cfg)
    (hDepot : inp.hasDepot = true)
    (R : Reading Addr)
    (n : Nat) :
    cfg.portCovers R "TN_DEPOT_PORTS" n =
      inp.depotPorts.any (fun port => R.port (toString port) n) := by
  unfold PfsenseConfig.portCovers
  rw [(hBuilt.aliasNamed?_depot hDepot).2,
    if_neg (by decide)]
  have hType : inp.depotPortsAlias.type = "port" := rfl
  simp only [if_pos hType]
  have hJoined :=
    R.port_joined (inp.depotPorts.map (fun p => toString p)) n
  rw [List.any_map] at hJoined
  exact hJoined

/- A network element that names a zone is its subnet. -/
theorem endpointCovers_zone
    (hBuilt : Built inp cfg)
    (R : Reading Addr)
    {z : Interface}
    (hZone : z ∈ inp.zones)
    (a : Addr) :
    cfg.endpointCovers R (endpoint z.key "") a =
      R.subnet z.ip z.prefixLen a := by
  rcases hBuilt.key_plain hZone with ⟨hSome, hSelf⟩
  unfold endpoint PfsenseConfig.endpointCovers
  rw [if_pos hSome]
  simp only [if_neg hSelf, hBuilt.find?_key hZone]

end Built

end Firewalls

end TrueNorth

--------
-- Template Rules
--------

namespace TrueNorth

namespace Firewalls

variable {Addr : Type}

namespace Scope

theorem mem_sources
    {scope : Scope}
    {src : String}
    {z : Interface} :
    z ∈ scope.sources src ↔
      (isStar src = true ∧ z ∈ scope.zones) ∨
        (isStar src = false ∧ scope.byZone.get? src = some z) := by
  unfold sources
  cases isStar src <;> simp

theorem mem_zones_of_byZone
    {scope : Scope}
    {name : String}
    {z : Interface}
    (hGet : scope.byZone.get? name = some z) :
    z ∈ scope.zones ∧ z.network = name := by
  have hMem := Dict.mem_of_get?_ofPairs hGet
  rcases List.mem_map.mp hMem with ⟨z', hz, hSame⟩
  cases hSame
  exact ⟨hz, rfl⟩

/- A rule is about zones only. -/
theorem mem_zones_of_sources
    {scope : Scope}
    {src : String}
    {z : Interface}
    (hMem : z ∈ scope.sources src) : z ∈ scope.zones := by
  rcases mem_sources.mp hMem with ⟨_, hz⟩ | ⟨_, hGet⟩
  · exact hz
  · exact (mem_zones_of_byZone hGet).1

end Scope

namespace Built

variable {inp : Input}
variable {cfg : PfsenseConfig}

/- The source of a rule is looked up as the template's is. -/
theorem source_iff
    (R : Reading Addr)
    {z : Interface}
    (hZone : z ∈ inp.zones)
    (src : String) :
    (isStar src || decide (z ∈ (inp.lookedUp R).zones src)) =
      decide (z ∈ inp.scope.sources src) := by
  rw [Bool.eq_iff_iff, Bool.or_eq_true, decide_eq_true_eq,
    decide_eq_true_eq, Scope.mem_sources]
  have hLookup :
      z ∈ (inp.lookedUp R).zones src ↔
        inp.scope.byZone.get? src = some z := by
    unfold Input.lookedUp
    rw [Option.mem_toList]
  have hScope : z ∈ inp.scope.zones := hZone
  rw [hLookup]
  cases isStar src <;> simp [hScope]

/- So is its destination, if it has one. -/
theorem destination_covers
    (hBuilt : Built inp cfg)
    (R : Reading Addr)
    (dst : String)
    (a : Addr) :
    targetCovers R inp (inp.lookedUp R) dst a =
      match inp.scope.destination? dst with
      | none => false
      | some e => cfg.endpointCovers R e a := by
  unfold targetCovers Scope.destination?
  cases hStar : isStar dst with
  | true =>
      exact (hBuilt.addressCovers_zones R a).symm
  | false =>
      unfold Input.lookedUp
      simp only [Bool.false_eq_true, if_false]
      cases hZone : inp.scope.byZone.get? dst with
      | some z =>
          have hMem := (Scope.mem_zones_of_byZone hZone).1
          simp only [Option.toList_some, List.cons_ne_nil, if_false,
            List.any_cons, List.any_nil, Bool.or_false]
          exact (hBuilt.endpointCovers_zone R hMem a).symm
      | none =>
          simp only [Option.toList_none, if_true]
          cases hCidr : inp.scope.cidrByName.get? dst with
          | none => rfl
          | some cidr =>
              simp only
              by_cases hEmpty : cidr = ""
              · rw [if_pos hEmpty, if_pos hEmpty]
              · rw [if_neg hEmpty, if_neg hEmpty]
                have hText :
                    cfg.endpointCovers R (endpoint "" cidr) a =
                      cfg.addressCovers R cidr a := by
                  unfold endpoint
                  rw [if_neg (by simp), if_pos hEmpty]
                  rfl
                simp only [hText]
                by_cases hZones : cidr = "TN_ZONES"
                · rw [if_pos hZones, hZones,
                    hBuilt.addressCovers_zones]
                · rw [if_neg hZones]
                  split
                  · next hBoth =>
                      rw [Bool.and_eq_true, decide_eq_true_eq]
                        at hBoth
                      rw [hBoth.1,
                        hBuilt.addressCovers_depot hBoth.2]
                  · next hNot =>
                      rw [Bool.and_eq_true, decide_eq_true_eq]
                        at hNot
                      exact (hBuilt.addressCovers_other R hZones hNot
                        a).symm

/- The ports of a rule are the template's, by any way. -/
theorem ports_cover
    (hBuilt : Built inp cfg)
    (hApart : inp.AliasesApart)
    (hPlain : inp.PortsPlain)
    (R : Reading Addr)
    {k : Nat}
    {t : TemplateRule}
    (hAt : inp.rules[k]? = some t)
    (hWritten : inp.isWritten t = true)
    (p : Packet Addr) :
    (protocolCovers t.protocol p.protocol &&
        cfg.portCovers R (t.portText k) p.port) =
      portsCover R t p := by
  have hTcpUdp :
      protocolCovers "tcp/udp" p.protocol =
        decide (p.protocol ≠ .other) := by
    unfold protocolCovers
    simp
  unfold portsCover
  match hTexts : t.portTexts with
  | [] =>
      have hProtocol : t.protocol = "" := by
        unfold TemplateRule.protocol
        rw [if_pos hTexts]
      have hPort : t.portText k = "" := by
        unfold TemplateRule.portText
        rw [hTexts]
      rw [hProtocol, hPort]
      rfl
  | [text] =>
      have hProtocol : t.protocol = "tcp/udp" := by
        unfold TemplateRule.protocol
        rw [if_neg (by simp [hTexts])]
      have hPort : t.portText k = text := by
        unfold TemplateRule.portText
        rw [hTexts]
      have hSome : text ≠ "" :=
        t.portTexts_ne (by simp [hTexts])
      rw [hProtocol, hPort, hTcpUdp,
        portCovers_plain hSome (fun a hMem hName =>
          hBuilt.no_port_alias hPlain hAt hWritten hTexts hMem
            hName)]
      simp
  | first :: second :: texts =>
      have hProtocol : t.protocol = "tcp/udp" := by
        unfold TemplateRule.protocol
        rw [if_neg (by simp [hTexts])]
      have hMulti : t.isMulti = true := by
        unfold TemplateRule.isMulti
        rw [hTexts]
        simp
      have hAsked : t.portAlias k ∈ inp.allAliases inp.scope :=
        Input.mem_allAliases.mpr
          (.inr (.inr ⟨k, t, hAt, hWritten, hMulti, rfl⟩))
      rcases hBuilt.aliasNamed?_of_asked hAsked with
        ⟨a, hMem, hName, hFound⟩
      rcases hBuilt.portAlias_found hApart hAt hWritten hMulti hMem
        hName with ⟨hType, hAddress⟩
      have hPort :
          cfg.portCovers R (t.portText k) p.port =
            t.portTexts.any (R.port · p.port) := by
        have hSome : t.portAliasName k ≠ "" :=
          portAliasName_ne t k "" (by decide)
        have hFound' :
            cfg.aliasNamed? (t.portAliasName k) = some a := hFound
        rw [TemplateRule.portText_multi hMulti]
        unfold PfsenseConfig.portCovers
        rw [if_neg hSome, hFound']
        simp only [if_pos hType]
        rw [hAddress]
        unfold TemplateRule.aliasText
        rw [R.port_joined, List.any_map]
        have hColons :
            ((R.port · p.port) ∘ colons) = (R.port · p.port) := by
          funext text
          exact R.port_colons text p.port
        rw [hColons]
      rw [hProtocol, hTcpUdp, hPort, hTexts]
      simp

/-
  A written rule says of a packet from its zone what its
  template rule asks for.
-/
theorem judge_body
    (hBuilt : Built inp cfg)
    (hApart : inp.AliasesApart)
    (hPlain : inp.PortsPlain)
    (R : Reading Addr)
    {k : Nat}
    {t : TemplateRule}
    (hAt : inp.rules[k]? = some t)
    {kind : Kind}
    {dst : Endpoint}
    (hRule : inp.scope.ruleFor? t = some (kind, dst))
    {z : Interface}
    (hSource : z ∈ inp.scope.sources t.srcOr)
    (p : Packet Addr) :
    cfg.judge R (t.body k kind dst z).clipped p =
      asks R inp (inp.lookedUp R) z t p := by
  have hZone : z ∈ inp.zones := Scope.mem_zones_of_sources hSource
  have hWritten : inp.isWritten t = true := by
    unfold Input.isWritten
    rw [hRule]
    rfl
  have hParts :
      filterKind? t.actionOr = some kind ∧
        inp.scope.destination? t.dstOr = some dst := by
    unfold Scope.ruleFor? at hRule
    cases hKind : filterKind? t.actionOr with
    | none =>
        rw [hKind] at hRule
        cases hRule
    | some kind' =>
        simp only [hKind] at hRule
        split at hRule
        · cases hRule
        · rw [Option.map_eq_some_iff] at hRule
          rcases hRule with ⟨dst', hDst, hSame⟩
          cases hSame
          exact ⟨rfl, hDst⟩
  have hTarget := hBuilt.destination_covers R t.dstOr p.target
  rw [hParts.2] at hTarget
  have hLooked := source_iff R hZone t.srcOr
  rw [decide_eq_true hSource] at hLooked
  have hPorts :=
    hBuilt.ports_cover hApart hPlain R hAt hWritten p
  have hSubnet := hBuilt.endpointCovers_zone R hZone p.source
  unfold PfsenseConfig.judge asks
  simp only [hParts.1, hTarget, hLooked, ← hPorts]
  simp only [TemplateRule.body, RuleBody.clipped, hSubnet,
    Bool.true_and]
  cases protocolCovers t.protocol p.protocol <;>
    cases R.subnet z.ip z.prefixLen p.source <;> simp

/- A rule that is not written for a zone asks nothing there. -/
theorem asks_unwritten
    (hBuilt : Built inp cfg)
    (R : Reading Addr)
    {t : TemplateRule}
    {z : Interface}
    (hZone : z ∈ inp.zones)
    (hNot : inp.scope.ruleFor? t = none ∨
      z ∉ inp.scope.sources t.srcOr)
    (p : Packet Addr) :
    asks R inp (inp.lookedUp R) z t p = none := by
  have hLooked := source_iff R hZone t.srcOr
  have hTarget := hBuilt.destination_covers R t.dstOr p.target
  unfold asks
  cases hKind : filterKind? t.actionOr with
  | none => rfl
  | some kind =>
      simp only [hLooked, hTarget]
      by_cases hSource : z ∈ inp.scope.sources t.srcOr
      · have hRule := hNot.resolve_right (fun hNo => hNo hSource)
        unfold Scope.ruleFor? at hRule
        have hSome : inp.scope.sources t.srcOr ≠ [] :=
          List.ne_nil_of_mem hSource
        simp only [hKind, if_neg hSome,
          Option.map_eq_none_iff] at hRule
        simp [hRule]
      · simp [hSource]

end Built

end Firewalls

end TrueNorth

--------
-- Traffic Of A Zone
--------

namespace TrueNorth

namespace Firewalls

variable {Addr : Type}

/- Among zones of distinct keys, those with one key are one. -/
theorem filter_key
    {zones zs : List Interface}
    {z : Interface}
    (hZone : z ∈ zones)
    (hSub : ∀ y ∈ zs, y ∈ zones)
    (hNodup : zs.Nodup)
    (hKeys : ∀ x ∈ zones, ∀ y ∈ zones, x.key = y.key → x = y) :
    zs.filter (fun y => y.key = z.key) =
      if z ∈ zs then [z] else [] := by
  induction zs with
  | nil => rfl
  | cons y zs ih =>
      have hRest := ih (fun x hx => hSub x (List.mem_cons_of_mem y hx))
        (List.nodup_cons.mp hNodup).2
      have hy := hSub y List.mem_cons_self
      by_cases hSame : y = z
      · have hNone : z ∉ zs := by
          rw [← hSame]
          exact (List.nodup_cons.mp hNodup).1
        rw [if_neg hNone] at hRest
        rw [List.filter_cons_of_pos (by simp [hSame]), hRest, hSame,
          if_pos List.mem_cons_self]
      · have hOther : y.key ≠ z.key :=
          fun hKey => hSame (hKeys y hy z hZone hKey)
        rw [List.filter_cons_of_neg (by simp [hOther]), hRest]
        have hMem : z ∈ y :: zs ↔ z ∈ zs := by
          rw [List.mem_cons]
          constructor
          · rintro (hEq | hIn)
            · exact absurd hEq.symm hSame
            · exact hIn
          · exact .inr
        simp only [hMem]

theorem flatMap_ite
    {B : Type}
    (q : Interface → Bool)
    (f : Interface → List B)
    (zs : List Interface) :
    zs.flatMap (fun z => if q z = true then f z else []) =
      (zs.filter q).flatMap f := by
  induction zs with
  | nil => rfl
  | cons z zs ih =>
      rw [List.flatMap_cons, ih]
      cases hq : q z with
      | true =>
          rw [List.filter_cons_of_pos hq, if_pos rfl,
            List.flatMap_cons]
      | false =>
          rw [List.filter_cons_of_neg (by simp [hq]),
            if_neg Bool.false_ne_true, List.nil_append]

/- The rules of an interface, of some rules. -/
def onInterface
    (key : String)
    (b : RuleBody) : Bool :=
  b.interface = key && b.floating = none

namespace Built

variable {inp : Input}
variable {cfg : PfsenseConfig}

/- The zones with the key of a zone, of those a rule is about. -/
theorem filter_zones
    (hBuilt : Built inp cfg)
    {z : Interface}
    (hZone : z ∈ inp.zones) :
    inp.zones.filter (fun y => y.key = z.key) = [z] := by
  rw [filter_key hZone (fun y hy => hy) hBuilt.zones_nodup
    (fun x hx y hy => hBuilt.eq_of_key hx hy), if_pos hZone]

theorem filter_sources
    (hBuilt : Built inp cfg)
    {z : Interface}
    (hZone : z ∈ inp.zones)
    (src : String) :
    (inp.scope.sources src).filter (fun y => y.key = z.key) =
      if z ∈ inp.scope.sources src then [z] else [] := by
  have hNodup : (inp.scope.sources src).Nodup := by
    unfold Scope.sources
    split
    · exact hBuilt.zones_nodup
    · cases inp.scope.byZone.get? src <;> simp
  exact filter_key hZone (fun y => Scope.mem_zones_of_sources)
    hNodup (fun x hx y hy => hBuilt.eq_of_key hx hy)

/- The rules that a zone has of its own come first. -/
theorem own_onInterface
    (hBuilt : Built inp cfg)
    {z : Interface}
    (hZone : z ∈ inp.zones) :
    (inp.ownBodies inp.scope).filter (onInterface z.key) =
      inp.zoneBodies z := by
  have hUplink :
      inp.uplinkBodies.filter (onInterface z.key) = [] := by
    rw [List.filter_eq_nil_iff]
    intro b hMem
    unfold Input.uplinkBodies at hMem
    split at hMem
    · rcases List.mem_append.mp hMem with hFirst | hLast
      · split at hFirst
        · rw [List.mem_singleton.mp hFirst]
          simp [onInterface, Input.depotOut]
        · cases hFirst
      · rw [List.mem_singleton.mp hLast]
        simp [onInterface, Input.uplinkRules.nothingElse]
    · cases hMem
  have hZones :
      (fun y => (inp.zoneBodies y).filter (onInterface z.key)) =
        fun y =>
          if decide (y.key = z.key) = true then inp.zoneBodies y
          else [] := by
    funext y
    unfold Input.zoneBodies onInterface
    cases inp.hasDepot <;> by_cases hKey : y.key = z.key <;>
      simp [Input.dnsBody, Input.depotBody, RuleBody.clipped, hKey]
  unfold Input.ownBodies
  have hScope : inp.scope.zones = inp.zones := rfl
  rw [List.filter_append, hUplink, List.nil_append, hScope,
    List.filter_flatMap, hZones,
    flatMap_ite (fun y => decide (y.key = z.key)),
    hBuilt.filter_zones hZone, List.flatMap_singleton]

/- What the rules of a turn say of a packet from a zone. -/
theorem verdict_rulesFor
    (hBuilt : Built inp cfg)
    (hApart : inp.AliasesApart)
    (hPlain : inp.PortsPlain)
    (R : Reading Addr)
    {k : Nat}
    {t : TemplateRule}
    (hAt : inp.rules[k]? = some t)
    {z : Interface}
    (hZone : z ∈ inp.zones)
    (p : Packet Addr)
    (d : Kind) :
    FirstWins.verdict (cfg.judge R) d
        ((inp.scope.rulesFor (t, k)).filter (onInterface z.key)) p =
      (asks R inp (inp.lookedUp R) z t p).getD d := by
  unfold Scope.rulesFor
  cases hRule : inp.scope.ruleFor? t with
  | none =>
      rw [hBuilt.asks_unwritten R hZone (.inl hRule)]
      rfl
  | some found =>
      rcases found with ⟨kind, dst⟩
      have hKeys :
          onInterface z.key ∘
              (fun y => (t.body k kind dst y).clipped) =
            fun y => decide (y.key = z.key) := by
        funext y
        simp [onInterface, TemplateRule.body, RuleBody.clipped]
      simp only
      rw [List.filter_map, hKeys, hBuilt.filter_sources hZone]
      split
      · next hSource =>
          rw [List.map_singleton, FirstWins.verdict_cons,
            hBuilt.judge_body hApart hPlain R hAt hRule hSource]
          rfl
      · next hNot =>
          rw [hBuilt.asks_unwritten R hZone (.inr hNot)]
          rfl

/- The template's part of a zone's rules. -/
theorem verdict_template
    (hBuilt : Built inp cfg)
    (hApart : inp.AliasesApart)
    (hPlain : inp.PortsPlain)
    (R : Reading Addr)
    {z : Interface}
    (hZone : z ∈ inp.zones)
    (p : Packet Addr) :
    FirstWins.verdict (cfg.judge R) .block
        ((inp.rules.zipIdx.flatMap inp.scope.rulesFor).filter
          (onInterface z.key)) p =
      FirstWins.verdict (asks R inp (inp.lookedUp R) z) .block
        inp.rules p := by
  have hTurns :
      FirstWins.verdict (cfg.judge R) .block
          (inp.rules.zipIdx.flatMap (fun turn =>
            (inp.scope.rulesFor turn).filter (onInterface z.key)))
          p =
        FirstWins.verdict
          (fun turn => asks R inp (inp.lookedUp R) z turn.1) .block
          inp.rules.zipIdx p := by
    apply FirstWins.verdict_flatMap
    rintro ⟨t, k⟩ hTurn d
    exact hBuilt.verdict_rulesFor hApart hPlain R
      (List.mem_zipIdx_iff_getElem?.mp hTurn) hZone p d
  have hPlaces :
      inp.rules = inp.rules.zipIdx.map Prod.fst :=
    (List.zipIdx_map_fst 0 inp.rules).symm
  rw [List.filter_flatMap, hTurns]
  unfold FirstWins.verdict
  conv => rhs; rw [hPlaces, List.findSome?_map]
  rfl

/- Without template rules every zone reaches every zone. -/
theorem verdict_everyZone
    (hBuilt : Built inp cfg)
    (R : Reading Addr)
    {z : Interface}
    (hZone : z ∈ inp.zones)
    (p : Packet Addr) :
    FirstWins.verdict (cfg.judge R) .block
        ((inp.zones.map
          (fun y => (Input.everyZoneBody y).clipped)).filter
            (onInterface z.key)) p =
      if R.subnet z.ip z.prefixLen p.source &&
          inp.rangeCovers R p.target then .pass
      else .block := by
  have hKeys :
      onInterface z.key ∘
          (fun y => (Input.everyZoneBody y).clipped) =
        fun y => decide (y.key = z.key) := by
    funext y
    simp [onInterface, Input.everyZoneBody, RuleBody.clipped]
  have hTarget :
      cfg.endpointCovers R (.address "TN_ZONES") p.target =
        inp.rangeCovers R p.target :=
    hBuilt.addressCovers_zones R p.target
  rw [List.filter_map, hKeys, hBuilt.filter_zones hZone,
    List.map_singleton, FirstWins.verdict_cons,
    FirstWins.verdict_nil]
  unfold PfsenseConfig.judge
  simp only [Input.everyZoneBody, RuleBody.clipped,
    hBuilt.endpointCovers_zone R hZone, hTarget]
  have hAny : cfg.portCovers R "" p.port = true := rfl
  have hProtocol : protocolCovers "" p.protocol = true := rfl
  rw [hAny, hProtocol, Bool.true_and, Bool.and_true]
  split <;> rfl

/- What a zone may do before the template's rules apply. -/
theorem verdict_own
    (hBuilt : Built inp cfg)
    (R : Reading Addr)
    {z : Interface}
    (hZone : z ∈ inp.zones)
    (d : Kind)
    (p : Packet Addr) :
    FirstWins.verdict (cfg.judge R) d (inp.zoneBodies z) p =
      if inp.isService R z p then .pass else d := by
  have hSource := hBuilt.endpointCovers_zone R hZone p.source
  have hSelf :
      cfg.endpointCovers R (.network "(self)") p.target =
        inp.ifaces.any (fun i => R.address i.ip p.target) := by
    unfold PfsenseConfig.endpointCovers
    rw [hBuilt.interfaces]
    rfl
  have hTcpUdp :
      protocolCovers "tcp/udp" p.protocol =
        decide (p.protocol ≠ .other) := by
    simp [protocolCovers]
  have hTcp :
      protocolCovers "tcp" p.protocol =
        decide (p.protocol = .tcp) := by
    simp [protocolCovers]
  have hDns :
      cfg.judge R (Input.dnsBody z).clipped p =
        if R.subnet z.ip z.prefixLen p.source &&
            (p.protocol ≠ .other &&
              inp.ifaces.any (fun i => R.address i.ip p.target) &&
              R.port "53" p.port) then
          some .pass
        else none := by
    unfold PfsenseConfig.judge
    simp only [Input.dnsBody, RuleBody.clipped, hSource, hSelf,
      hTcpUdp, hBuilt.portCovers_dns R]
    cases R.subnet z.ip z.prefixLen p.source <;> simp
  unfold Input.zoneBodies Input.isService Input.isDepot
  rw [FirstWins.verdict_cons, hDns]
  cases hDepot : inp.hasDepot with
  | false =>
      simp only [Bool.false_and, Bool.or_false, Bool.false_eq_true,
        if_false, FirstWins.verdict_nil]
      split <;> rfl
  | true =>
      have hTarget :
          cfg.endpointCovers R (.address "TN_DEPOT") p.target =
            R.address inp.depotHost p.target :=
        hBuilt.addressCovers_depot hDepot R p.target
      have hJudge :
          cfg.judge R (Input.depotBody z).clipped p =
            if R.subnet z.ip z.prefixLen p.source &&
                (p.protocol = .tcp &&
                  R.address inp.depotHost p.target &&
                  inp.depotPorts.any (fun port =>
                    R.port (toString port) p.port)) then
              some .pass
            else none := by
        unfold PfsenseConfig.judge
        simp only [Input.depotBody, RuleBody.clipped, hSource,
          hTarget, hTcp, hBuilt.portCovers_depot hDepot R]
        cases R.subnet z.ip z.prefixLen p.source <;> simp
      simp only [if_true, FirstWins.verdict_cons,
        FirstWins.verdict_nil, hJudge, Bool.true_and,
        Bool.and_or_distrib_left]
      split
      · next hFirst =>
          rw [hFirst, Bool.true_or, if_pos rfl]
          rfl
      · next hFirst =>
          rw [Bool.not_eq_true] at hFirst
          rw [hFirst, Bool.false_or, Option.getD_none]
          split <;> rfl

end Built

end Firewalls

end TrueNorth
