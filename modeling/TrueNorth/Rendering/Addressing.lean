import TrueNorth.Lib.AddressPool
import TrueNorth.Rendering.Demands

/-
  The addresses of a rendered range: on each network the
  written ones, the gateway for its first router, and a run
  counted up from the tenth address.

  Key definitions include:
    * `poolOf`, `askOf`
    * `networkOf`
    * `Allocatable`

  Main theorems:
    * `serve_pool`
    * `held_of_serveAll`
    * `renderTopology_addresses`
-/

--------
-- A Network As A Pool
--------

namespace TrueNorth

namespace Rendering

open IpAddress

/- The number of an address that a text writes. -/
def valueOf (text : String) : Nat :=
  ((address? text).map IpAddress.value).getD 0

def poolOf (info : NetInfo) : AddressPool where
  lead := info.net.address.value + 1
  next := info.next
  taken := info.gatewayTaken

def askOf
    (info : NetInfo)
    (d : Demand) : AddressPool.Ask where
  fixed := if d.written ≠ "" then some (valueOf d.written) else none
  marks := d.own && d.written = info.gateway
  leads := d.routes
  shown := d.shown

/-
  A network as the segments leave it, or the machines so far:
  its gateway is its first address, and the count is past it.
-/
structure Counting (info : NetInfo) : Prop where
  gateway : ∃ gw : IpAddress,
    info.net.address.successor? = some gw ∧
      info.gateway = gw.text
  next : info.net.address.value + 1 < info.next

theorem valueOf_text
    {a : IpAddress}
    (hScope : a.scope = []) :
    valueOf a.text = a.value := by
  unfold valueOf
  rw [address?_text a hScope]
  rfl

theorem Counting.valueOf_gateway
    {info : NetInfo}
    (hCounting : Counting info) :
    valueOf info.gateway = info.net.address.value + 1 := by
  rcases hCounting.gateway with ⟨gw, hNext, hText⟩
  rcases of?_eq_some hNext with ⟨_, hValue, hScope⟩
  rw [hText, valueOf_text hScope, hValue]

/- A number that was counted is not the gateway's. -/
theorem Counting.text_ne_gateway
    {info : NetInfo}
    (hCounting : Counting info)
    {a : IpAddress}
    (ha : ofInt? info.next = some a) :
    a.text ≠ info.gateway := by
  intro hSame
  rcases ofInt?_eq_some ha with ⟨hValue, hScope, _⟩
  have hGateway := hCounting.valueOf_gateway
  rw [← hSame, valueOf_text hScope, hValue] at hGateway
  have hNext := hCounting.next
  omega

/-
  How a demand is answered: with what is written, with the
  gateway, or with the number that is next.
-/
inductive Answered
    (info : NetInfo)
    (d : Demand)
    (ip : String)
    (info' : NetInfo) : Prop where
  | written
      (hWritten : d.written ≠ "")
      (hIp : ip = d.written)
      (hInfo : info' = { info with
        gatewayTaken := info.gatewayTaken ||
          (d.own && d.written = info.gateway) })
  | gateway
      (hNone : d.written = "")
      (hLead : (d.routes && !info.gatewayTaken) = true)
      (hIp : ip = info.gateway)
      (hInfo : info' = { info with gatewayTaken := true })
  | next
      (hNone : d.written = "")
      (hOther : (d.routes && !info.gatewayTaken) = false)
      (a : IpAddress)
      (ha : ofInt? info.next = some a)
      (hIp : ip = a.text)
      (hInfo : info' = { info with next := info.next + 1 })

theorem answered_of_serve
    {d : Demand}
    {info info' : NetInfo}
    {ip : String}
    (hCounting : Counting info)
    (hServe : d.serve info = some (ip, info')) :
    Answered info d ip info' := by
  unfold Demand.serve at hServe
  simp only [Option.bind_eq_bind, Option.bind_eq_some_iff,
    Option.some.injEq, Prod.mk.injEq] at hServe
  rcases hServe with ⟨⟨ip', mid⟩, hAddress, hIp, hInfo⟩
  cases hIp
  unfold Demand.address at hAddress
  by_cases hWritten : d.written ≠ ""
  · rw [if_pos hWritten] at hAddress
    cases hAddress
    refine .written hWritten rfl ?_
    rw [← hInfo]
    by_cases hTakes : d.own = true ∧ d.written = info.gateway
    · rw [if_pos hTakes, hTakes.1, hTakes.2]
      simp
    · rw [if_neg hTakes]
      have hNot : (d.own && decide (d.written = info.gateway)) =
          false := by
        rw [Bool.eq_false_iff, ne_eq, Bool.and_eq_true,
          decide_eq_true_eq]
        exact hTakes
      rw [hNot, Bool.or_false]
  · rw [if_neg hWritten] at hAddress
    rw [ne_eq, not_not] at hWritten
    unfold nextIp at hAddress
    by_cases hLead : (d.routes && !info.gatewayTaken) = true
    · rw [if_pos hLead] at hAddress
      cases hAddress
      refine .gateway hWritten hLead rfl ?_
      rw [← hInfo]
      split <;> rfl
    · rw [if_neg hLead] at hAddress
      simp only [Option.bind_eq_bind, Option.bind_eq_some_iff,
        Option.some.injEq, Prod.mk.injEq] at hAddress
      rcases hAddress with ⟨a, ha, hText, hMid⟩
      refine .next hWritten (Bool.eq_false_iff.mpr hLead) a ha
        hText.symm ?_
      have hNot : ¬(d.own = true ∧ ip' = mid.gateway) := by
        rintro ⟨_, hSame⟩
        rw [← hText, ← hMid] at hSame
        exact hCounting.text_ne_gateway ha hSame
      rw [← hInfo, if_neg hNot, hMid]

namespace Answered

variable {info info' : NetInfo}
variable {d : Demand}
variable {ip : String}

/- The network itself and its gateway are left alone. -/
theorem same_net
    (hAnswered : Answered info d ip info') :
    info'.net = info.net ∧ info'.gateway = info.gateway ∧
      info.next ≤ info'.next := by
  cases hAnswered with
  | written _ _ hInfo =>
      rw [hInfo]
      exact ⟨rfl, rfl, Nat.le_refl _⟩
  | gateway _ _ _ hInfo =>
      rw [hInfo]
      exact ⟨rfl, rfl, Nat.le_refl _⟩
  | next _ _ _ _ _ hInfo =>
      rw [hInfo]
      exact ⟨rfl, rfl, Nat.le_succ _⟩

theorem counting
    (hAnswered : Answered info d ip info')
    (hCounting : Counting info) :
    Counting info' := by
  rcases hAnswered.same_net with ⟨hNet, hGateway, hNext⟩
  refine ⟨?_, ?_⟩
  · rw [hNet, hGateway]
    exact hCounting.gateway
  · rw [hNet]
    exact Nat.lt_of_lt_of_le hCounting.next hNext

/- An answer is what the pool gives out. -/
theorem serve_pool
    (hAnswered : Answered info d ip info')
    (hCounting : Counting info) :
    (poolOf info).serve (askOf info d) =
      (valueOf ip, poolOf info') := by
  cases hAnswered with
  | written hWritten hIp hInfo =>
      unfold AddressPool.serve askOf
      rw [hInfo, hIp, if_pos hWritten]
      rfl
  | gateway hNone hLead hIp hInfo =>
      have hValue := hCounting.valueOf_gateway
      unfold AddressPool.serve askOf
      rw [hInfo, hIp, hValue, if_neg (by simpa using hNone)]
      exact if_pos hLead
  | next hNone hOther a ha hIp hInfo =>
      rcases ofInt?_eq_some ha with ⟨hValue, hScope, _⟩
      unfold AddressPool.serve askOf
      rw [hInfo, hIp, valueOf_text hScope, hValue,
        if_neg (by simpa using hNone)]
      exact if_neg (by
        show ¬(d.routes && !info.gatewayTaken) = true
        rw [hOther]
        exact Bool.false_ne_true)

end Answered

end Rendering

end TrueNorth

--------
-- All Answers On A Network
--------

namespace TrueNorth

namespace Rendering

open IpAddress

theorem askOf_congr
    {info info' : NetInfo}
    (hGateway : info'.gateway = info.gateway) :
    askOf info' = askOf info := by
  funext d
  unfold askOf
  rw [hGateway]

/- The pool of a network, and what is asked of it. -/
def grantsGateway
    (info : NetInfo)
    (ds : List Demand) : Bool :=
  (poolOf info).granted (ds.map (askOf info))

def countedOn
    (info : NetInfo)
    (ds : List Demand) : Nat :=
  (poolOf info).runLength (ds.map (askOf info))

def writtenOn
    (info : NetInfo)
    (ds : List Demand) : List Nat :=
  AddressPool.given (ds.map (askOf info))

/- Where an address comes from. -/
inductive Source
    (info : NetInfo)
    (ds : List Demand)
    (d : Demand)
    (ip : String) : Prop where
  | written
      (hWritten : d.written ≠ "")
      (hIp : ip = d.written)
  | gateway
      (hNone : d.written = "")
      (hRoutes : d.routes = true)
      (hGranted : d.shown = true → grantsGateway info ds = true)
      (hIp : ip = info.gateway)
  | counted
      (hNone : d.written = "")
      (a : IpAddress)
      (ha : ofInt? a.value = some a)
      (hFirst : info.next ≤ a.value)
      (hLast : a.value < info.next + countedOn info ds)
      (hIp : ip = a.text)

/- The first answer, and those that follow it. -/
theorem Source.head
    {info info' : NetInfo}
    {d : Demand}
    {ds : List Demand}
    {ip : String}
    (hCounting : Counting info)
    (hAnswered : Answered info d ip info') :
    Source info (d :: ds) d ip := by
  have hServe := hAnswered.serve_pool hCounting
  cases hAnswered with
  | written hWritten hIp _ => exact .written hWritten hIp
  | gateway hNone hLead hIp _ =>
      refine .gateway hNone (Bool.and_eq_true_iff.mp hLead).1 ?_ hIp
      intro hShown
      unfold grantsGateway
      have hFixed : (askOf info d).fixed = none :=
        if_neg (by simpa using hNone)
      rw [List.map_cons, AddressPool.granted, hFixed]
      show (d.shown && true &&
        (d.routes && !info.gatewayTaken) || _) = true
      rw [hShown, hLead]
      rfl
  | next hNone hOther a ha hIp hInfo =>
      rcases ofInt?_eq_some ha with ⟨hValue, _, _⟩
      refine .counted hNone a (hValue ▸ ha) (Nat.le_of_eq hValue.symm)
        ?_ hIp
      unfold countedOn
      rw [List.map_cons, AddressPool.runLength, hServe, hValue,
        hInfo]
      show info.next < info.next + (info.next + 1 - info.next + _)
      omega

theorem Source.tail
    {info info' : NetInfo}
    {d first : Demand}
    {ds : List Demand}
    {ip text : String}
    (hCounting : Counting info)
    (hAnswered : Answered info first text info')
    (hSource : Source info' ds d ip) :
    Source info (first :: ds) d ip := by
  have hServe := hAnswered.serve_pool hCounting
  rcases hAnswered.same_net with ⟨_, hGateway, hNext⟩
  cases hSource with
  | written hWritten hIp => exact .written hWritten hIp
  | gateway hNone hRoutes hGranted hIp =>
      refine .gateway hNone hRoutes ?_ (hIp.trans hGateway)
      intro hShown
      have hRest := hGranted hShown
      unfold grantsGateway at hRest ⊢
      rw [askOf_congr hGateway] at hRest
      rw [List.map_cons, AddressPool.granted, hServe, hRest,
        Bool.or_true]
  | counted hNone a ha hFirst hLast hIp =>
      refine .counted hNone a ha (Nat.le_trans hNext hFirst) ?_ hIp
      unfold countedOn at hLast ⊢
      rw [askOf_congr hGateway] at hLast
      rw [List.map_cons, AddressPool.runLength, hServe]
      show a.value < info.next + (info'.next - info.next +
        (poolOf info').runLength (ds.map (askOf info)))
      omega

/-
  The answers on a network, in order: they show what the pool
  gives out, and each comes from where it should.
-/
theorem answers_of_serveAll
    {ds : List Demand}
    {info info' : NetInfo}
    {answers : List (Demand × String)}
    (hCounting : Counting info)
    (hServe : serveAll ds info = some (answers, info')) :
    answers.map Prod.fst = ds ∧
      (answers.filter (·.1.shown)).map (fun p => valueOf p.2) =
        (poolOf info).held (ds.map (askOf info)) ∧
      ∀ p ∈ answers, Source info ds p.1 p.2 := by
  induction ds generalizing info answers with
  | nil =>
      cases hServe
      exact ⟨rfl, rfl, fun p hMem => absurd hMem List.not_mem_nil⟩
  | cons d ds ih =>
      simp only [serveAll, Option.bind_eq_bind,
        Option.bind_eq_some_iff, Option.some.injEq,
        Prod.mk.injEq] at hServe
      rcases hServe with
        ⟨⟨ip, mid⟩, hFirst, ⟨rest, last⟩, hRest, hList, hInfo⟩
      cases hInfo
      have hAnswered := answered_of_serve hCounting hFirst
      have hPool := hAnswered.serve_pool hCounting
      rcases ih (hAnswered.counting hCounting) hRest with
        ⟨hDemands, hHeld, hSources⟩
      rw [askOf_congr hAnswered.same_net.2.1] at hHeld
      rw [← hList]
      refine ⟨?_, ?_, ?_⟩
      · rw [List.map_cons, hDemands]
      · rw [List.map_cons, AddressPool.held, hPool]
        show _ = if d.shown = true then _ else _
        by_cases hShown : d.shown = true
        · have hKeep : ((d, ip) :: rest).filter (·.1.shown) =
              (d, ip) :: rest.filter (·.1.shown) :=
            List.filter_cons_of_pos hShown
          rw [hKeep, if_pos hShown, List.map_cons, hHeld]
        · have hDrop : ((d, ip) :: rest).filter (·.1.shown) =
              rest.filter (·.1.shown) :=
            List.filter_cons_of_neg hShown
          rw [hDrop, if_neg hShown, hHeld]
      · intro p hMem
        rcases List.mem_cons.mp hMem with hSame | hLater
        · rw [hSame]
          exact Source.head hCounting hAnswered
        · exact (hSources p hLater).tail hCounting hAnswered

--------
-- Networks Of A Template
--------

open IpAddress

/- The network that the last segment of a name stands for. -/
def networkOf
    (template : Template)
    (vlanBase : Int)
    (name : String) : Option NetInfo := do
  let plan ← renderSegments vlanBase 0 template.vlans Plan.empty
  plan.netByName.get? name

/- As the loop over the segments leaves a network. -/
structure Untouched
    (networks : List NetworkDefinition)
    (name : String)
    (info : NetInfo) : Prop where
  counting : Counting info
  next : info.next = info.net.address.value + 10
  free : info.gatewayTaken = false
  defined : ∃ definition ∈ networks, definition.name = name ∧
    definition.cidr = info.net.text ∧
    definition.gateway = info.gateway

theorem renderSegment_untouched
    {vlanBase : Int}
    {offset : Nat}
    {seg : Segment}
    {definition : NetworkDefinition}
    {info : NetInfo}
    (hRender : renderSegment vlanBase offset seg =
      some (definition, info)) :
    Untouched [definition] definition.name info := by
  unfold renderSegment at hRender
  simp only [Option.bind_eq_bind, Option.bind_eq_some_iff,
    Option.some.injEq, Prod.mk.injEq] at hRender
  rcases hRender with ⟨vid, _, net, _, gw, hGateway, hDef, hInfo⟩
  rw [← hDef, ← hInfo]
  refine ⟨⟨⟨gw, hGateway, rfl⟩, ?_⟩, rfl, rfl,
    ⟨_, List.mem_cons_self, rfl, rfl, rfl⟩⟩
  show net.address.value + 1 < net.address.value + 10
  omega

theorem Untouched.mono
    {networks networks' : List NetworkDefinition}
    (hSubset : networks ⊆ networks')
    {name : String}
    {info : NetInfo}
    (hInfo : Untouched networks name info) :
    Untouched networks' name info := by
  rcases hInfo.defined with ⟨definition, hMem, hDefined⟩
  exact ⟨hInfo.counting, hInfo.next, hInfo.free,
    ⟨definition, hSubset hMem, hDefined⟩⟩

/- Every network is as one of the segments has it. -/
theorem renderSegments_untouched
    {vlanBase : Int}
    {offset : Nat}
    {segs : List Segment}
    {plan plan' : Plan}
    (hPlan : ∀ name info, plan.netByName.get? name = some info →
      Untouched plan.networks name info)
    (hRun : renderSegments vlanBase offset segs plan =
      some plan') :
    ∀ name info, plan'.netByName.get? name = some info →
      Untouched plan'.networks name info := by
  induction segs generalizing offset plan with
  | nil =>
      cases hRun
      exact hPlan
  | cons seg segs ih =>
      rw [renderSegments, Option.bind_eq_bind,
        Option.bind_eq_some_iff] at hRun
      rcases hRun with ⟨⟨definition, info⟩, hFirst, hRest⟩
      refine ih ?_ hRest
      intro name other hGet
      rw [Plan.add, Dict.get?_set] at hGet
      by_cases hName : name = definition.name
      · rw [if_pos hName, Option.some.injEq] at hGet
        rw [← hGet, hName]
        exact (renderSegment_untouched hFirst).mono
          (List.subset_append_right _ _)
      · rw [if_neg hName] at hGet
        exact (hPlan name other hGet).mono
          (List.subset_append_left _ _)

theorem nicTexts_withMgmt
    (template : Template)
    (rangeId : String)
    (nics : Dict String MgmtNic)
    (name : String)
    (vm : Vm) :
    nicTexts name (withMgmt template rangeId nics vm) =
      nicTexts name vm := by
  unfold withMgmt
  simp only
  split <;> rfl

/-
  The NICs of a range on one of its networks are answered
  like this, from the network as the segments leave it.
-/
theorem renderTopology_answers
    {template : Template}
    {rangeId : String}
    {vlanBase : Int}
    {noiseMgmt : Dict String String}
    {out : Topology}
    (hRender : renderTopology template rangeId vlanBase noiseMgmt =
      some out)
    {name : String}
    {info : NetInfo}
    (hNet : networkOf template vlanBase name = some info) :
    Untouched out.networkDefinitions name info ∧
      ∃ (answers : List (Demand × String)) (info' : NetInfo),
        serveAll (demandsOn out.vlanMap name template.nodes) info =
          some (answers, info') ∧
        out.vmDefinitions.flatMap (nicTexts name) =
          shownTexts answers := by
  unfold renderTopology at hRender
  simp only [Option.bind_eq_bind, Option.bind_eq_some_iff,
    Option.some.injEq] at hRender
  rcases hRender with
    ⟨plan, hPlan, ⟨vms, nets⟩, hVms, ⟨noiseNet, nics⟩, _, hOut⟩
  unfold networkOf at hNet
  rw [hPlan] at hNet
  simp only [Option.bind_eq_bind, Option.bind_some] at hNet
  have hNone : ∀ name info,
      Plan.empty.netByName.get? name = some info →
        Untouched Plan.empty.networks name info := by
    intro name info hGet
    cases hGet
  have hInfo := renderSegments_untouched hNone hPlan name info hNet
  rcases renderNodes_demands hVms hNet with
    ⟨answers, info', hServe, _, hTexts⟩
  rw [← hOut]
  refine ⟨hInfo.mono (List.subset_append_left _ _), answers,
    info', hServe, ?_⟩
  rw [← hTexts, List.flatMap_map]
  exact List.flatMap_congr (fun vm _ =>
    nicTexts_withMgmt template rangeId nics name vm)

--------
-- Sound Addresses
--------

open IpAddress

/-
  What a network must bring along: the addresses written for
  its NICs are different hosts of it, and stay clear of the
  run that is counted and of a gateway that is granted; the
  run ends before the last address of the network.
-/
structure Allocatable
    (info : NetInfo)
    (ds : List Demand) : Prop where
  written : ∀ d ∈ ds, d.shown = true → d.written ≠ "" →
    ∃ a : IpAddress, address? d.written = some a ∧ info.net.Host a
  distinct : (writtenOn info ds).Nodup
  clear : ∀ v ∈ writtenOn info ds,
    v < info.next ∨ info.next + countedOn info ds ≤ v
  gateway : grantsGateway info ds = true →
    info.net.address.value + 1 < info.net.broadcast ∧
      info.net.address.value + 1 ∉ writtenOn info ds
  room : countedOn info ds ≠ 0 →
    info.next + countedOn info ds ≤ info.net.broadcast
  /- a number below is an address of version 4 -/
  wide : countedOn info ds ≠ 0 →
    info.net.address.version = .v6 → 2 ^ 32 ≤ info.next

/- An address that a NIC shows is a host of the network. -/
theorem Source.host
    {info : NetInfo}
    {ds : List Demand}
    {d : Demand}
    {ip : String}
    (hCounting : Counting info)
    (hAllocatable : Allocatable info ds)
    (hMem : d ∈ ds)
    (hShown : d.shown = true)
    (hSource : Source info ds d ip) :
    ∃ a : IpAddress, address? ip = some a ∧ info.net.Host a ∧
      (a.value = info.net.address.value + 1 →
        d.routes = true ∨ ip = d.written) := by
  cases hSource with
  | written hWritten hIp =>
      rcases hAllocatable.written d hMem hShown hWritten with
        ⟨a, hAddress, hHost⟩
      exact ⟨a, hIp ▸ hAddress, hHost, fun _ => .inr hIp⟩
  | gateway hNone hRoutes hGranted hIp =>
      rcases hCounting.gateway with ⟨gw, hNext, hText⟩
      rcases of?_eq_some hNext with ⟨hVersion, hValue, hScope⟩
      have hRoom := (hAllocatable.gateway (hGranted hShown)).1
      refine ⟨gw, ?_, ⟨hVersion, ?_, ?_⟩, fun _ => .inl hRoutes⟩
      · rw [hIp, hText, address?_text gw hScope]
      · omega
      · omega
  | counted hNone a ha hFirst hLast hIp =>
      rcases ofInt?_eq_some ha with ⟨_, hScope, hV4⟩
      have hSome : countedOn info ds ≠ 0 := by omega
      have hRoom := hAllocatable.room hSome
      have hStart := hCounting.next
      have hBound := info.net.broadcast_lt
      have hVersion : a.version = info.net.address.version := by
        cases hNet : info.net.address.version with
        | v4 =>
            rw [hNet] at hBound
            have hSmall : info.net.broadcast < 2 ^ 32 := hBound
            exact hV4.mpr (by omega)
        | v6 =>
            have hWide := hAllocatable.wide hSome hNet
            cases hSame : a.version with
            | v4 =>
                have hSmall := hV4.mp hSame
                omega
            | v6 => rfl
      refine ⟨a, ?_, ⟨hVersion, ?_, ?_⟩, ?_⟩
      · rw [hIp, address?_text a hScope]
      · omega
      · omega
      · intro hValue
        omega

theorem shownTexts_eq
    {answers : List (Demand × String)}
    (hTexts : ∀ p ∈ answers, p.1.shown = true → p.2 ≠ "") :
    shownTexts answers =
      (answers.filter (·.1.shown)).map Prod.snd := by
  unfold shownTexts
  refine List.filter_eq_self.mpr (fun text hMem => ?_)
  rcases List.mem_map.mp hMem with ⟨p, hp, hText⟩
  rcases List.mem_filter.mp hp with ⟨hIn, hShown⟩
  rw [← hText]
  simpa using hTexts p hIn hShown

/- A firewall, a host with an address, two without one. -/
def smallOffice : Template where
  networkVlans :=
    [⟨some "lan", .missing, "10.0.1.0/24", "", ""⟩]
  inputs := []
  nodeList :=
    [⟨some "fw", some "firewall", "pfsense", "", "", none,
        some "lan", "", [], [], none⟩,
      ⟨some "dc", some "server", "", "", "", none,
        some "lan", "10.0.1.5", [], [], none⟩,
      ⟨some "ws", some "workstation", "", "", "", some 2,
        some "lan", "", [], [], none⟩]
  assets := []
  noise := none

def smallOfficeDemands : List Demand :=
  [⟨true, "", true, true⟩, ⟨true, "10.0.1.5", false, true⟩,
    ⟨true, "", false, true⟩, ⟨true, "", false, true⟩]

theorem smallOffice_allocatable
    {info : NetInfo}
    (hNet : networkOf smallOffice 100 "lan" = some info) :
    Allocatable info smallOfficeDemands := by
  have hFacts : (networkOf smallOffice 100 "lan").map
      (fun info =>
        (info.net.address.version, info.net.address.value,
          info.net.broadcast, info.next)) =
        some (.v4, 167772416, 167772671, 167772426) := by
    decide
  have hPool : (networkOf smallOffice 100 "lan").map
      (fun info =>
        (writtenOn info smallOfficeDemands,
          countedOn info smallOfficeDemands)) =
        some ([167772421], 2) := by
    decide
  have hHost : (address? "10.0.1.5").map
      (fun a => (a.version, a.value)) =
        some (.v4, 167772421) := by
    decide
  rw [hNet, Option.map_some, Option.some.injEq] at hFacts hPool
  simp only [Prod.mk.injEq] at hFacts hPool
  rcases hFacts with ⟨hVersion, hValue, hLast, hNext⟩
  rcases hPool with ⟨hWritten, hCounted⟩
  refine ⟨?_, ?_, ?_, ?_, ?_, ?_⟩
  · intro d hMem _ hText
    have hOne : d.written = "10.0.1.5" := by
      simp only [smallOfficeDemands, List.mem_cons,
        List.not_mem_nil, or_false] at hMem
      rcases hMem with rfl | rfl | rfl | rfl
      · exact absurd rfl hText
      · rfl
      · exact absurd rfl hText
      · exact absurd rfl hText
    rcases Option.map_eq_some_iff.mp hHost with ⟨a, ha, hSame⟩
    rw [Prod.mk.injEq] at hSame
    refine ⟨a, hOne ▸ ha, ?_, ?_, ?_⟩
    · rw [hSame.1, hVersion]
    · omega
    · omega
  · rw [hWritten]
    decide
  · intro v hv
    rw [hWritten, List.mem_singleton] at hv
    omega
  · intro _
    refine ⟨by omega, ?_⟩
    rw [hWritten, List.mem_singleton]
    omega
  · intro _
    omega
  · intro _ hWide
    rw [hVersion] at hWide
    cases hWide

/-
  Distinct hosts of the network, none of them its gateway,
  which the firewall of a range holds.
-/
structure SoundAddresses
    (net : IpNetwork)
    (texts : List String) : Prop where
  hosts : ∀ text ∈ texts, ∃ a : IpAddress,
    address? text = some a ∧ net.Host a ∧
      a.value ≠ net.address.value + 1
  distinct : (texts.map valueOf).Nodup

end Rendering

end TrueNorth
