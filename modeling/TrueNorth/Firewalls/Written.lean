import TrueNorth.Firewalls.Config

/-
  What `build_config` writes: the aliases it asks for and
  the rules it writes, each as a list that does not depend on
  what was written before.

  Key definitions include:
    * `Rules.Writes`
    * `TemplateRule.portAlias`, `TemplateRule.portText`
    * `Scope.aliasesFor`, `Scope.rulesFor`
    * `Input.allAliases`, `Input.allBodies`

  Main theorems:
    * `templateRule_writes`
    * `allRules_writes`
    * `buildConfig_eq_ok`
-/

--------
-- Writing
--------

namespace TrueNorth

namespace Firewalls

/- A rule as it is written: its description is cut off. -/
def RuleBody.clipped (body : RuleBody) : RuleBody :=
  { body with descr := clip 200 body.descr }

namespace Rules

def bodies (rs : Rules) : List RuleBody :=
  rs.filter.map FilterRule.body

/- Some aliases are asked for, and some rules are written. -/
structure Writes
    (rs : Rules)
    (as : List Alias)
    (bs : List RuleBody)
    (rs' : Rules) : Prop where
  aliases : rs'.aliases = FirstWins.addAll Alias.name rs.aliases as
  bodies : rs'.bodies = rs.bodies ++ bs

theorem Writes.refl (rs : Rules) : Writes rs [] [] rs :=
  ⟨rfl, (List.append_nil _).symm⟩

theorem Writes.trans
    {rs₁ rs₂ rs₃ : Rules}
    {as as' : List Alias}
    {bs bs' : List RuleBody}
    (hFirst : Writes rs₁ as bs rs₂)
    (hSecond : Writes rs₂ as' bs' rs₃) :
    Writes rs₁ (as ++ as') (bs ++ bs') rs₃ where
  aliases := by
    rw [hSecond.aliases, hFirst.aliases, FirstWins.addAll_append]
  bodies := by
    rw [hSecond.bodies, hFirst.bodies, List.append_assoc]

/- An alias is asked for. -/
def ask
    (rs : Rules)
    (a : Alias) : Rules :=
  { rs with aliases := FirstWins.add Alias.name rs.aliases a }

theorem writes_ask
    (rs : Rules)
    (a : Alias) :
    Writes rs [a] [] (rs.ask a) :=
  ⟨rfl, (List.append_nil _).symm⟩

theorem aliasFor_eq
    (rs : Rules)
    {name clean : String}
    (type : String)
    (members : List String)
    (descr : String)
    (hClean : aliasName name aliasLimit = clean) :
    rs.aliasFor name type members descr =
      (clean, rs.ask (aliasElement clean type members descr)) := by
  unfold aliasFor ask
  rw [hClean]

theorem writes_rule
    (rs : Rules)
    (body : RuleBody) :
    Writes rs [] [body.clipped] (rs.rule body) :=
  ⟨rfl, by simp [bodies, rule, RuleBody.clipped]⟩

/- A loop writes what its turns write, one after the other. -/
theorem writes_foldl
    {S : Type}
    {step : Rules → S → Rules}
    {as : S → List Alias}
    {bs : S → List RuleBody}
    (hStep : ∀ rs s, Writes rs (as s) (bs s) (step rs s))
    (rs : Rules)
    (ss : List S) :
    Writes rs (ss.flatMap as) (ss.flatMap bs)
      (ss.foldl step rs) := by
  induction ss generalizing rs with
  | nil => exact Writes.refl rs
  | cons s ss ih =>
      rw [List.flatMap_cons, List.flatMap_cons, List.foldl_cons]
      exact (hStep rs s).trans (ih (step rs s))

/- A rule for each of some zones. -/
theorem writes_rules
    (body : Interface → RuleBody)
    (rs : Rules)
    (zs : List Interface) :
    Writes rs [] (zs.map (fun z => (body z).clipped))
      (zs.foldl (fun rs z => rs.rule (body z)) rs) := by
  have hLoop :=
    writes_foldl (fun rs z => writes_rule rs (body z)) rs zs
  have hNone : zs.flatMap (fun _ => ([] : List Alias)) = [] :=
    List.flatMap_eq_nil_iff.mpr (fun _ _ => rfl)
  rw [hNone, ← List.map_eq_flatMap] at hLoop
  exact hLoop

end Rules

end Firewalls

end TrueNorth

--------
-- Turns Of The Loop
--------

namespace TrueNorth

namespace Firewalls

namespace TemplateRule

def protocol (t : TemplateRule) : String :=
  if t.portTexts = [] then "" else "tcp/udp"

def portAliasName
    (t : TemplateRule)
    (n : Nat) : String :=
  aliasName ("TN_P_" ++ t.nameAt n) aliasLimit

/- The text of the port element of the rules. -/
def portText
    (t : TemplateRule)
    (n : Nat) : String :=
  match t.portTexts with
  | [] => ""
  | [p] => p
  | _ => t.portAliasName n

/- The alias that a rule with several ports asks for. -/
def portAlias
    (t : TemplateRule)
    (n : Nat) : Alias :=
  Rules.aliasElement (t.portAliasName n) "port"
    (t.portTexts.map colons) (t.nameAt n)

def body
    (t : TemplateRule)
    (n : Nat)
    (kind : Kind)
    (dst : Endpoint)
    (z : Interface) : RuleBody where
  type := kind
  interface := z.key
  floating := none
  protocol := t.protocol
  source := endpoint z.key ""
  destination := dst
  port := t.portText n
  log := false
  descr := t.descr n

/- Several ports, so that an alias is needed. -/
def isMulti (t : TemplateRule) : Bool :=
  2 ≤ t.portTexts.length

end TemplateRule

namespace Scope

/- What the rules of a turn share, if there are any. -/
def ruleFor?
    (scope : Scope)
    (t : TemplateRule) : Option (Kind × Endpoint) :=
  match filterKind? t.actionOr with
  | none => none
  | some kind =>
      if scope.sources t.srcOr = [] then none
      else (scope.destination? t.dstOr).map (fun dst => (kind, dst))

def aliasesFor
    (scope : Scope)
    (turn : TemplateRule × Nat) : List Alias :=
  if (scope.ruleFor? turn.1).isSome ∧ turn.1.isMulti = true then
    [turn.1.portAlias turn.2]
  else []

def rulesFor
    (scope : Scope)
    (turn : TemplateRule × Nat) : List RuleBody :=
  match scope.ruleFor? turn.1 with
  | none => []
  | some (kind, dst) =>
      (scope.sources turn.1.srcOr).map
        (fun z => (turn.1.body turn.2 kind dst z).clipped)

end Scope

theorem portField_eq
    (t : TemplateRule)
    (n : Nat)
    (rs : Rules) :
    ∃ rs', portField t n rs = (t.protocol, t.portText n, rs') ∧
      rs.Writes (if t.isMulti = true then [t.portAlias n] else [])
        [] rs' := by
  unfold portField TemplateRule.protocol TemplateRule.portText
    TemplateRule.isMulti TemplateRule.portAlias
  cases hTexts : t.portTexts with
  | nil => exact ⟨rs, rfl, Rules.Writes.refl rs⟩
  | cons p ps =>
      cases ps with
      | nil => exact ⟨rs, rfl, Rules.Writes.refl rs⟩
      | cons q ps =>
          simp only [rs.aliasFor_eq _ _ _ rfl]
          refine ⟨_, rfl, ?_⟩
          rw [if_pos (by simp)]
          exact rs.writes_ask _

/- A turn that is skipped writes nothing. -/
theorem writes_skipped
    {scope : Scope}
    {turn : TemplateRule × Nat}
    (rs : Rules)
    (hSkipped : scope.ruleFor? turn.1 = none) :
    rs.Writes (scope.aliasesFor turn) (scope.rulesFor turn) rs := by
  unfold Scope.aliasesFor Scope.rulesFor
  simp only [hSkipped, Option.isSome_none, Bool.false_eq_true,
    false_and, if_false]
  exact Rules.Writes.refl rs

theorem templateRule_writes
    (scope : Scope)
    (st : Rules × List Note)
    (turn : TemplateRule × Nat) :
    st.1.Writes (scope.aliasesFor turn) (scope.rulesFor turn)
      (templateRule scope st turn).1 := by
  rcases st with ⟨rs, notes⟩
  rcases turn with ⟨t, n⟩
  unfold templateRule
  simp only
  by_cases hMirror : t.actionOr = "mirror"
  · have hSkipped : scope.ruleFor? t = none := by
      unfold Scope.ruleFor?
      rw [hMirror]
      rfl
    rw [if_pos hMirror]
    exact writes_skipped rs hSkipped
  · rw [if_neg hMirror]
    cases hKind : filterKind? t.actionOr with
    | none =>
        have hSkipped : scope.ruleFor? t = none := by
          simp only [Scope.ruleFor?, hKind]
        exact writes_skipped rs hSkipped
    | some kind =>
        simp only
        by_cases hSources : scope.sources t.srcOr = []
        · have hSkipped : scope.ruleFor? t = none := by
            simp only [Scope.ruleFor?, hKind, hSources, if_true]
          rw [if_pos hSources]
          split
          · exact writes_skipped rs hSkipped
          · exact writes_skipped rs hSkipped
        · rw [if_neg hSources]
          cases hDst : scope.destination? t.dstOr with
          | none =>
              have hSkipped : scope.ruleFor? t = none := by
                simp only [Scope.ruleFor?, hKind, if_neg hSources,
                  hDst, Option.map_none]
              exact writes_skipped rs hSkipped
          | some dst =>
              have hRule : scope.ruleFor? t = some (kind, dst) := by
                simp only [Scope.ruleFor?, hKind, if_neg hSources,
                  hDst, Option.map_some]
              rcases portField_eq t n rs with ⟨rs', hField, hAlias⟩
              simp only [hField]
              have hWrites :=
                hAlias.trans
                  (Rules.writes_rules (t.body n kind dst) rs'
                    (scope.sources t.srcOr))
              rw [List.append_nil, List.nil_append] at hWrites
              unfold Scope.aliasesFor Scope.rulesFor
              simp only [hRule, Option.isSome_some, true_and]
              exact hWrites

/- The turns of the loop, one after the other. -/
theorem writes_turns
    (scope : Scope)
    (st : Rules × List Note)
    (turns : List (TemplateRule × Nat)) :
    st.1.Writes (turns.flatMap scope.aliasesFor)
      (turns.flatMap scope.rulesFor)
      (turns.foldl (templateRule scope) st).1 := by
  induction turns generalizing st with
  | nil => exact Rules.Writes.refl st.1
  | cons turn turns ih =>
      rw [List.flatMap_cons, List.flatMap_cons, List.foldl_cons]
      exact (templateRule_writes scope st turn).trans
        (ih (templateRule scope st turn))

--------
-- Whole Configurations
--------

def zonesAlias (scope : Scope) : Alias :=
  Rules.aliasElement "TN_ZONES" "network" scope.rangeCidrs
    "Every subnet of this range"

namespace Input

/- The uplink may be used, for the depot. -/
def hasDepot (inp : Input) : Bool :=
  inp.hasUplink && inp.depotHost ≠ ""

def depotAlias (inp : Input) : Alias :=
  Rules.aliasElement "TN_DEPOT" "host" [inp.depotHost]
    "TN-DEPOT01, the software depot"

def depotPortsAlias (inp : Input) : Alias :=
  Rules.aliasElement "TN_DEPOT_PORTS" "port"
    (inp.depotPorts.map (fun p => toString p))
    "Depot services the range may use"

def ownAliases
    (inp : Input)
    (scope : Scope) : List Alias :=
  zonesAlias scope ::
    if inp.hasDepot then [inp.depotAlias, inp.depotPortsAlias]
    else []

/- The rule that lets depot traffic out. -/
def depotOut : RuleBody where
  type := .pass
  interface := "wan"
  floating := some "out"
  protocol := "tcp"
  source := .any
  destination := .address "TN_DEPOT"
  port := "TN_DEPOT_PORTS"
  log := false
  descr := "TrueNorth: range -> depot only"

def uplinkBodies (inp : Input) : List RuleBody :=
  if inp.hasUplink then
    (if inp.depotHost ≠ "" then [depotOut] else []) ++
      [uplinkRules.nothingElse]
  else []

def dnsBody (z : Interface) : RuleBody where
  type := .pass
  interface := z.key
  floating := none
  protocol := "tcp/udp"
  source := endpoint z.key ""
  destination := .network "(self)"
  port := "53"
  log := false
  descr := z.network ++ ": DNS to the firewall"

def depotBody (z : Interface) : RuleBody where
  type := .pass
  interface := z.key
  floating := none
  protocol := "tcp"
  source := endpoint z.key ""
  destination := .address "TN_DEPOT"
  port := "TN_DEPOT_PORTS"
  log := false
  descr := z.network ++ ": software depot"

def zoneBodies
    (inp : Input)
    (z : Interface) : List RuleBody :=
  (dnsBody z).clipped ::
    if inp.hasDepot then [(depotBody z).clipped] else []

def everyZoneBody (z : Interface) : RuleBody where
  type := .pass
  interface := z.key
  floating := none
  protocol := ""
  source := endpoint z.key ""
  destination := .address "TN_ZONES"
  port := ""
  log := false
  descr := z.network ++ ": to every range zone"

/- The rules before the template's. -/
def ownBodies
    (inp : Input)
    (scope : Scope) : List RuleBody :=
  inp.uplinkBodies ++ scope.zones.flatMap inp.zoneBodies

def allAliases
    (inp : Input)
    (scope : Scope) : List Alias :=
  inp.ownAliases scope ++
    inp.rules.zipIdx.flatMap scope.aliasesFor

def allBodies
    (inp : Input)
    (scope : Scope) : List RuleBody :=
  inp.ownBodies scope ++
    if inp.rules = [] then
      scope.zones.map (fun z => (everyZoneBody z).clipped)
    else inp.rules.zipIdx.flatMap scope.rulesFor

theorem aliasName_own :
    aliasName "TN_ZONES" aliasLimit = "TN_ZONES" ∧
      aliasName "TN_DEPOT" aliasLimit = "TN_DEPOT" ∧
      aliasName "TN_DEPOT_PORTS" aliasLimit = "TN_DEPOT_PORTS" := by
  decide

theorem clipped_own :
    depotOut.clipped = depotOut ∧
      uplinkRules.nothingElse.clipped = uplinkRules.nothingElse := by
  decide

/- What the uplink's rules are, and what the zones refer to. -/
theorem uplinkRules_eq
    (inp : Input)
    (rs : Rules) :
    ∃ rs',
      inp.uplinkRules rs =
        (if inp.hasDepot then "TN_DEPOT" else "",
          if inp.hasDepot then "TN_DEPOT_PORTS" else "", rs') ∧
      rs.Writes
        (if inp.hasDepot then
          [inp.depotAlias, inp.depotPortsAlias]
        else [])
        inp.uplinkBodies rs' := by
  rcases aliasName_own with ⟨_, hDepot, hPorts⟩
  unfold uplinkRules hasDepot uplinkBodies
  cases hUplink : inp.hasUplink with
  | false => exact ⟨rs, rfl, Rules.Writes.refl rs⟩
  | true =>
      by_cases hHost : inp.depotHost = ""
      · simp only [hHost, ne_eq, not_true_eq_false, if_false,
          if_true, decide_false, Bool.and_false,
          Bool.false_eq_true, List.nil_append]
        have hBlock := rs.writes_rule uplinkRules.nothingElse
        rw [clipped_own.2] at hBlock
        exact ⟨_, rfl, hBlock⟩
      · simp only [hHost, ne_eq, not_false_eq_true, if_true,
          decide_true, Bool.and_true, rs.aliasFor_eq _ _ _ hDepot,
          Rules.aliasFor_eq _ _ _ _ hPorts]
        have hAliases :=
          (rs.writes_ask inp.depotAlias).trans
            (Rules.writes_ask _ inp.depotPortsAlias)
        have hRules :=
          (Rules.writes_rule
            ((rs.ask inp.depotAlias).ask inp.depotPortsAlias)
            depotOut).trans
              (Rules.writes_rule _ uplinkRules.nothingElse)
        rw [clipped_own.1, clipped_own.2] at hRules
        exact ⟨_, rfl, hAliases.trans hRules⟩

theorem zoneRules_writes
    (inp : Input)
    (rs : Rules)
    (z : Interface) :
    rs.Writes [] (inp.zoneBodies z)
      (zoneRules (if inp.hasDepot then "TN_DEPOT" else "")
        (if inp.hasDepot then "TN_DEPOT_PORTS" else "") rs z) := by
  unfold zoneRules zoneBodies
  cases hDepot : inp.hasDepot with
  | false => exact rs.writes_rule (dnsBody z)
  | true =>
      exact (rs.writes_rule (dnsBody z)).trans
        (Rules.writes_rule _ (depotBody z))

theorem ownRules_writes
    (inp : Input)
    (scope : Scope) :
    ∃ rs,
      inp.ownRules scope = ("TN_ZONES", rs) ∧
      Rules.empty.Writes (inp.ownAliases scope)
        (inp.ownBodies scope) rs := by
  unfold ownRules
  rcases inp.uplinkRules_eq (Rules.empty.ask (zonesAlias scope)) with
    ⟨rs, hUplink, hWrites⟩
  have hZones :=
    Rules.writes_foldl inp.zoneRules_writes rs scope.zones
  have hNone :
      scope.zones.flatMap (fun _ => ([] : List Alias)) = [] :=
    List.flatMap_eq_nil_iff.mpr (fun _ _ => rfl)
  rw [hNone] at hZones
  have hAll :=
    ((Rules.empty.writes_ask (zonesAlias scope)).trans hWrites).trans
      hZones
  rw [List.append_nil] at hAll
  refine ⟨_, ?_, hAll⟩
  simp only [Rules.empty.aliasFor_eq _ _ _ aliasName_own.1]
  unfold zonesAlias at hUplink
  simp only [hUplink]

/- All the aliases asked for, and all the rules. -/
theorem allRules_writes
    (inp : Input)
    (scope : Scope) :
    Rules.empty.Writes (inp.allAliases scope)
      (inp.allBodies scope) (inp.allRules scope).1 := by
  rcases inp.ownRules_writes scope with ⟨rs, hOwn, hWrites⟩
  unfold allRules allAliases allBodies
  simp only [hOwn]
  by_cases hRules : inp.rules = []
  · rw [if_pos hRules, if_pos hRules, hRules]
    exact hWrites.trans
      (Rules.writes_rules everyZoneBody rs scope.zones)
  · rw [if_neg hRules, if_neg hRules]
    exact hWrites.trans
      (writes_turns scope (rs, []) inp.rules.zipIdx)

end Input

end Firewalls

end TrueNorth

--------
-- Interface Keys
--------

namespace TrueNorth

namespace Firewalls

theorem zoneKey?_lt
    {i : Nat}
    {key : String}
    (hKey : zoneKey? i = some key) : i < 64 := by
  unfold zoneKey? at hKey
  split at hKey
  · next hZero => omega
  · split at hKey
    · next hLess => exact hLess
    · cases hKey

/- A zone key is none of the names that mean something else. -/
theorem zoneKey?_plain
    {i : Nat}
    {key : String}
    (hKey : zoneKey? i = some key) :
    key ≠ "" ∧ key ≠ "wan" ∧ key ≠ "(self)" := by
  have hAll : ∀ j < 64, ∀ k ∈ zoneKey? j,
      k ≠ "" ∧ k ≠ "wan" ∧ k ≠ "(self)" := by
    decide
  exact hAll i (zoneKey?_lt hKey) key hKey

/- The number of a zone key is read off it. -/
theorem zoneKey?_inj
    {i j : Nat}
    {key : String}
    (hi : zoneKey? i = some key)
    (hj : zoneKey? j = some key) : i = j := by
  have hRead : ∀ a < 64, ∀ k ∈ zoneKey? a,
      Nat.ofDigitChars 10 (k.toList.drop 3) 0 = a := by
    decide
  rw [← hRead i (zoneKey?_lt hi) key hi,
    ← hRead j (zoneKey?_lt hj) key hj]

/- The first NIC may be the WAN; each other has the next key. -/
theorem nicKey_eq_ok
    {uplinkFirst : Bool}
    {i used used' : Nat}
    {nic : Nic}
    {key : String}
    (hKey : nicKey uplinkFirst i used nic = .ok (key, used')) :
    (i = 0 ∧ key = "wan" ∧ used' = used) ∨
      (zoneKey? used = some key ∧ used' = used + 1) := by
  unfold nicKey at hKey
  split at hKey
  · split at hKey
    · next hFirst =>
        cases hKey
        exact .inl ⟨hFirst, rfl, rfl⟩
    · cases hKey
  · split at hKey
    · next hFirst =>
        cases hKey
        rw [Bool.and_eq_true, decide_eq_true_eq] at hFirst
        exact .inl ⟨hFirst.2, rfl, rfl⟩
    · split at hKey
      · next zone hZone =>
          cases hKey
          exact .inr ⟨hZone, rfl⟩
      · cases hKey

theorem interfacesFrom_cons
    {uplinkFirst : Bool}
    {i used : Nat}
    {nic : Nic}
    {nics : List Nic}
    {ifaces : List Interface}
    (hFrom :
      interfacesFrom uplinkFirst i used (nic :: nics) =
        .ok ifaces) :
    ∃ key used' cidr rest,
      nicKey uplinkFirst i used nic = .ok (key, used') ∧
      interfacesFrom uplinkFirst (i + 1) used' nics = .ok rest ∧
      ifaces =
        ⟨key, "vmx" ++ toString i, nic.network, nic.ip,
          nic.prefixOr24, cidr⟩ :: rest := by
  rw [interfacesFrom] at hFrom
  cases hKey : nicKey uplinkFirst i used nic with
  | error e =>
      rw [hKey] at hFrom
      cases hFrom
  | ok found =>
      rcases found with ⟨key, used'⟩
      cases hCidr : nic.cidr with
      | error e =>
          rw [hKey, hCidr] at hFrom
          cases hFrom
      | ok cidr =>
          cases hRest :
              interfacesFrom uplinkFirst (i + 1) used' nics with
          | error e =>
              simp only [hKey, hCidr, hRest, bind, Except.bind]
                at hFrom
              cases hFrom
          | ok rest =>
              simp only [hKey, hCidr, hRest, bind, Except.bind]
                at hFrom
              cases hFrom
              exact ⟨key, used', cidr, rest, rfl, hRest, rfl⟩

/-
  The keys are those not used yet, each once, and the WAN's
  if the first NIC is among these.
-/
theorem interfacesFrom_keys
    {uplinkFirst : Bool}
    {nics : List Nic}
    {i used : Nat}
    {ifaces : List Interface}
    (hFrom : interfacesFrom uplinkFirst i used nics = .ok ifaces) :
    (∀ f ∈ ifaces,
      (i = 0 ∧ f.key = "wan") ∨
        ∃ j, used ≤ j ∧ zoneKey? j = some f.key) ∧
      (ifaces.map Interface.key).Nodup := by
  induction nics generalizing i used ifaces with
  | nil =>
      cases hFrom
      constructor
      · intro f hMem
        cases hMem
      · exact List.nodup_nil
  | cons nic nics ih =>
      rcases interfacesFrom_cons hFrom with
        ⟨key, used', cidr, rest, hKey, hRest, rfl⟩
      rcases ih hRest with ⟨hKeys, hNodup⟩
      have hLater (f : Interface) (hMem : f ∈ rest) :
          ∃ j, used' ≤ j ∧ zoneKey? j = some f.key := by
        rcases hKeys f hMem with ⟨hZero, _⟩ | hZone
        · omega
        · exact hZone
      rcases nicKey_eq_ok hKey with ⟨hi, hWan, hUsed⟩ | ⟨hZone, hUsed⟩
      · constructor
        · intro f hMem
          rcases List.mem_cons.mp hMem with rfl | hMem
          · exact .inl ⟨hi, hWan⟩
          · rw [hUsed] at hLater
            exact .inr (hLater f hMem)
        · rw [List.map_cons, List.nodup_cons]
          refine ⟨?_, hNodup⟩
          intro hMem
          rcases List.mem_map.mp hMem with ⟨f, hf, hSame⟩
          rcases hLater f hf with ⟨j, _, hj⟩
          exact (zoneKey?_plain hj).2.1 (hSame.trans hWan)
      · constructor
        · intro f hMem
          rcases List.mem_cons.mp hMem with rfl | hMem
          · exact .inr ⟨used, Nat.le_refl used, hZone⟩
          · rcases hLater f hMem with ⟨j, hLe, hj⟩
            exact .inr ⟨j, by omega, hj⟩
        · rw [List.map_cons, List.nodup_cons]
          refine ⟨?_, hNodup⟩
          intro hMem
          rcases List.mem_map.mp hMem with ⟨f, hf, hSame⟩
          rcases hLater f hf with ⟨j, hLe, hj⟩
          have hSameKey : zoneKey? j = some key := by
            rw [hj, hSame]
          have hIndex := zoneKey?_inj hZone hSameKey
          omega

end Firewalls

end TrueNorth

--------
-- Configurations That Are Built
--------

namespace TrueNorth

namespace Firewalls

namespace Input

/- The interfaces, of an input that has any. -/
def ifaces (inp : Input) : List Interface :=
  match interfaces inp.vm with
  | .ok ifaces => ifaces
  | .error _ => []

/- The interfaces that are zones. -/
def zones (inp : Input) : List Interface :=
  inp.zonesOf inp.ifaces

def scope (inp : Input) : Scope where
  zones := inp.zones
  networks := inp.networks

/- The rules and aliases when `k` turns of the loop are done. -/
def rulesAfter
    (inp : Input)
    (k : Nat) : Rules :=
  ((inp.rules.zipIdx.take k).foldl (templateRule inp.scope)
    ((inp.ownRules inp.scope).2, [])).1

end Input

/- What is known of a configuration once it is built. -/
structure Built
    (inp : Input)
    (cfg : PfsenseConfig) : Prop where
  ok : interfaces inp.vm = .ok cfg.interfaces
  interfaces : cfg.interfaces = inp.ifaces
  some_zone : inp.zones ≠ []
  aliases :
    cfg.aliases =
      FirstWins.addAll Alias.name [] (inp.allAliases inp.scope)
  bodies :
    cfg.filter.map FilterRule.body = inp.allBodies inp.scope

theorem buildConfig_eq_ok
    {inp : Input}
    {cfg : PfsenseConfig}
    (hBuild : buildConfig inp = .ok cfg) :
    Built inp cfg := by
  unfold buildConfig at hBuild
  split at hBuild
  · cases hBuild
  · cases hFaces : interfaces inp.vm with
    | error e =>
        rw [hFaces] at hBuild
        cases hBuild
    | ok ifaces =>
        have hAll : ifaces = inp.ifaces := by
          simp only [Input.ifaces, hFaces]
        have hZones : inp.zonesOf ifaces = inp.zones := by
          rw [hAll]
          rfl
        simp only [hFaces, bind, Except.bind] at hBuild
        split at hBuild
        · cases hBuild
        · next hSome =>
            rw [hZones] at hBuild hSome
            cases hBuild
            have hWrites := inp.allRules_writes inp.scope
            exact
              { ok := hFaces
                interfaces := hAll
                some_zone := fun hNone => hSome (.inl hNone)
                aliases := hWrites.aliases
                bodies := hWrites.bodies }

namespace Built

variable {inp : Input}
variable {cfg : PfsenseConfig}

theorem keys_nodup (hBuilt : Built inp cfg) :
    (cfg.interfaces.map Interface.key).Nodup :=
  (interfacesFrom_keys hBuilt.ok).2

theorem mem_interfaces
    (hBuilt : Built inp cfg)
    {z : Interface}
    (hZone : z ∈ inp.zones) :
    z ∈ cfg.interfaces := by
  rw [hBuilt.interfaces]
  exact (List.mem_filter.mp hZone).1

/- Zones are told apart by their keys. -/
theorem eq_of_key
    (hBuilt : Built inp cfg)
    {z z' : Interface}
    (hz : z ∈ inp.zones)
    (hz' : z' ∈ inp.zones)
    (hKey : z.key = z'.key) : z = z' :=
  List.inj_on_of_nodup_map hBuilt.keys_nodup
    (hBuilt.mem_interfaces hz) (hBuilt.mem_interfaces hz') hKey

theorem zones_nodup (hBuilt : Built inp cfg) :
    inp.zones.Nodup := by
  have hAll : cfg.interfaces.Nodup :=
    List.Nodup.of_map _ hBuilt.keys_nodup
  rw [hBuilt.interfaces] at hAll
  exact hAll.filter _

theorem key_plain
    (hBuilt : Built inp cfg)
    {z : Interface}
    (hZone : z ∈ inp.zones) :
    z.key ≠ "" ∧ z.key ≠ "(self)" := by
  have hMem := hBuilt.mem_interfaces hZone
  rcases (interfacesFrom_keys hBuilt.ok).1 z hMem with
    ⟨_, hWan⟩ | ⟨j, _, hKey⟩
  · rw [hWan]
    decide
  · exact ⟨(zoneKey?_plain hKey).1, (zoneKey?_plain hKey).2.2⟩

/- The interface of a zone is found by its key. -/
theorem find?_key
    (hBuilt : Built inp cfg)
    {z : Interface}
    (hZone : z ∈ inp.zones) :
    cfg.interfaces.find? (fun i => i.key = z.key) = some z := by
  have hMem := hBuilt.mem_interfaces hZone
  cases hFound : cfg.interfaces.find? (fun i => i.key = z.key) with
  | none =>
      have hNot := List.find?_eq_none.mp hFound z hMem
      exact absurd (decide_eq_true rfl) hNot
  | some i =>
      have hKey := List.find?_some hFound
      have hSame :=
        List.inj_on_of_nodup_map hBuilt.keys_nodup
          (List.mem_of_find?_eq_some hFound) hMem
            (of_decide_eq_true hKey)
      rw [hSame]

end Built

end Firewalls

end TrueNorth
